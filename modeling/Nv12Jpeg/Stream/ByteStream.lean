import Nv12Jpeg.Bytes

/-!
# Byte streams

A stream hands out its bytes in portions of its own choosing. A read may be interrupted, in which
case it is tried again, and a stream may fail at some position or look as if it had ended there. It
never resumes: every later read fails in the same way, or delivers nothing either.

* `ByteStream.read` is one read;
* `ByteStream.readExact` reads until it has as many bytes as asked for, the stream ends, or it
  fails; what was delivered by then is handed over in each case.
-/

namespace Nv12Jpeg

/-- How a stream hands out its bytes, by position. -/
structure Delivery where
  /-- The most bytes a read delivers. Where it is none, the stream looks as if it had ended. -/
  portion : Nat → Nat
  /-- How many reads are interrupted before one delivers. -/
  interruptions : Nat → Nat
  /-- The position from which every read fails, and how. -/
  failure : Option (Nat × IoError)

/-- Everything at once, without interruption or failure. -/
def Delivery.plain : Delivery := ⟨fun _ => Size.bound, fun _ => 0, none⟩

/-- Bytes that are read one after the other. -/
structure ByteStream where
  bytes : Bytes
  delivery : Delivery
  position : Nat
  /-- How many reads at this position were interrupted. -/
  interrupted : Nat

/-- What one read gives. -/
inductive ReadResult where
  /-- Some bytes; none at the end of the stream. -/
  | delivered (part : Bytes)
  | interrupted
  | failed (error : IoError)
  deriving DecidableEq, Repr

/-- How reading a number of bytes ends. -/
inductive ReadEnd where
  /-- All of them were delivered. -/
  | complete
  /-- The stream ended before. -/
  | ended
  | failed (error : IoError)
  deriving DecidableEq, Repr

/-- The bytes that were delivered and how reading ended. -/
structure Reading where
  part : Bytes
  ending : ReadEnd
  deriving DecidableEq, Repr

namespace ByteStream

/-- A stream at its start. -/
def ofBytes (bytes : Bytes) (delivery : Delivery) : ByteStream := ⟨bytes, delivery, 0, 0⟩

/-- The position up to which bytes are delivered. -/
def limit (stream : ByteStream) : Nat :=
  match stream.delivery.failure with
  | none => stream.bytes.size
  | some (position, _) => min position stream.bytes.size

/-- The bytes the next read may deliver, of at most `count`. -/
def next (stream : ByteStream) (count : Nat) : Bytes :=
  let portion := min count (stream.delivery.portion stream.position)
  stream.bytes.extract stream.position (min (stream.position + portion) stream.limit)

/-- Whether every read from here on fails, and how. -/
def failure? (stream : ByteStream) : Option IoError :=
  match stream.delivery.failure with
  | none => none
  | some (position, error) => if position ≤ stream.position then some error else none

/-- One read of at most `count` bytes. -/
def read (stream : ByteStream) (count : Nat) : ReadResult × ByteStream :=
  if stream.interrupted < stream.delivery.interruptions stream.position then
    (.interrupted, { stream with interrupted := stream.interrupted + 1 })
  else
    match stream.failure? with
    | some error => (.failed error, stream)
    | none =>
      let part := stream.next count
      if part.isEmpty then (.delivered part, stream)
      else
        (.delivered part,
          { stream with position := stream.position + part.size, interrupted := 0 })

/-- A read that is tried again after each of at most `interruptions` interruptions. -/
def retry : (interruptions : Nat) → ByteStream → (count : Nat) → ReadResult × ByteStream
  | 0, stream, count => stream.read count
  | interruptions + 1, stream, count =>
    match stream.read count with
    | (.interrupted, stream) => retry interruptions stream count
    | result => result

/-- A read that is tried again until it is not interrupted. -/
def readUninterrupted (stream : ByteStream) (count : Nat) : ReadResult × ByteStream :=
  retry (stream.delivery.interruptions stream.position - stream.interrupted) stream count

/-- Reads until `count` bytes are there, in at most `reads` reads; `part` was read before. -/
def readOn : (reads : Nat) → ByteStream → (count : Nat) → (part : Bytes) → Reading × ByteStream
  | 0, stream, count, part => (⟨part, if count = 0 then .complete else .ended⟩, stream)
  | reads + 1, stream, count, part =>
    if count = 0 then (⟨part, .complete⟩, stream)
    else
      match stream.readUninterrupted count with
      | (.delivered more, stream) =>
        if more.isEmpty then (⟨part, .ended⟩, stream)
        else readOn reads stream (count - more.size) (part ++ more)
      | (.failed error, stream) => (⟨part, .failed error⟩, stream)
      | (.interrupted, stream) => (⟨part, .ended⟩, stream)

/-- Reads `count` bytes. Each read but the last delivers at least one of them. -/
def readExact (stream : ByteStream) (count : Nat) : Reading × ByteStream :=
  readOn (count + 1) stream count #[]

end ByteStream

end Nv12Jpeg
