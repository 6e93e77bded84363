import Nv12Jpeg.Bytes

/-!
# Byte sinks

A sink takes bytes in portions and may fail once it has taken as many as it has room for.

* `Sink.writeAll` writes portion by portion until all is taken or the sink fails;
* a sink that fails has received the first bytes of what was written, up to its room.
-/

namespace Nv12Jpeg

/-- Something that bytes are written to. -/
structure Sink where
  /-- What it has taken so far. -/
  received : Bytes
  /-- The most bytes one write takes, by how many were taken before; none counts as one. -/
  portion : Nat → Nat
  /-- After how many bytes it fails, and how; without this it takes everything. -/
  room : Option (Nat × IoError)

namespace Sink

/-- A sink that takes everything at once. -/
def unbounded : Sink := ⟨#[], fun _ => Size.bound, none⟩

/-- An empty sink that fails after `room` bytes. -/
def failingAfter (room : Nat) (error : IoError) : Sink :=
  ⟨#[], fun _ => Size.bound, some (room, error)⟩

/-- How many of `count` bytes the next write takes, or why it takes none. -/
def accepted (sink : Sink) (count : Nat) : Except IoError Nat :=
  let portion := min count (max (sink.portion sink.received.size) 1)
  match sink.room with
  | none => .ok portion
  | some (room, error) =>
    if room ≤ sink.received.size then .error error
    else .ok (min portion (room - sink.received.size))

/-- Writes the bytes of `payload` from `start` on in at most `writes` writes. -/
def writeFrom (payload : Bytes) : (writes start : Nat) → Sink → Except IoError Unit × Sink
  | 0, _, sink => (.ok (), sink)
  | writes + 1, start, sink =>
    if payload.size ≤ start then (.ok (), sink)
    else
      match sink.accepted (payload.size - start) with
      | .error error => (.error error, sink)
      | .ok taken =>
        writeFrom payload writes (start + taken)
          { sink with received := sink.received ++ payload.extract start (start + taken) }

/-- Writes all of `payload`, if the sink takes it. -/
def writeAll (sink : Sink) (payload : Bytes) : Except IoError Unit × Sink :=
  writeFrom payload payload.size 0 sink

end Sink

end Nv12Jpeg
