import Nv12Jpeg.FileStore
import Nv12Jpeg.Stream.ByteStream

/-!
# Sources of raw frames

Frames are read from a stream, from a file through a buffer, or from memory. A file is read as it
is at the moment of the read, so bytes that are in the buffer already do not change when it is
overwritten. Of bytes in memory it is known beforehand whether there are enough, so a read that
asks for too many delivers none of them.
-/

namespace Nv12Jpeg

/-- A file that is read through a buffer. -/
structure FileReader where
  location : Location
  /-- The offset behind the last byte taken from the file. -/
  offset : Nat
  /-- The bytes taken in one go. -/
  buffer : Bytes
  /-- How many bytes of the buffer were handed out. -/
  used : Nat

namespace FileReader

/-- The bytes taken from a file in one go. -/
def bufferSize : Nat := 8192

/-- A reader at the start of a file. -/
def ofLocation (location : Location) : FileReader := ⟨location, 0, #[], 0⟩

/-- The bytes in the buffer that were not handed out. -/
def waiting (reader : FileReader) : Nat := reader.buffer.size - reader.used

/-- Hands out `count` bytes of the buffer, or as many as wait in it. -/
def take (reader : FileReader) (count : Nat) : Bytes × FileReader :=
  let part := reader.buffer.extract reader.used (reader.used + count)
  (part, { reader with used := reader.used + part.size })

/-- The next `count` bytes of the file, past the buffer. -/
def fetch (reader : FileReader) (store : FileStore) (count : Nat) : Except IoError Bytes := do
  let contents ← store.contents reader.location
  return contents.extract reader.offset (reader.offset + count)

/-- One read of at most `count` bytes: from the buffer if bytes wait there, else from the file,
which a short read fills the buffer from. -/
def read (reader : FileReader) (store : FileStore) (count : Nat) :
    Except IoError (Bytes × FileReader) :=
  if 0 < reader.waiting then .ok (reader.take count)
  else if bufferSize ≤ count then do
    let part ← reader.fetch store count
    return (part, { reader with offset := reader.offset + part.size, buffer := #[], used := 0 })
  else do
    let buffer ← reader.fetch store bufferSize
    return { reader with offset := reader.offset + buffer.size, buffer, used := 0 }.take count

/-- Reads until `count` bytes are there, in at most `reads` reads; `part` was read before. -/
def readOn (store : FileStore) : (reads : Nat) → FileReader → (count : Nat) → (part : Bytes) →
    Reading × FileReader
  | 0, reader, count, part => (⟨part, if count = 0 then .complete else .ended⟩, reader)
  | reads + 1, reader, count, part =>
    if count = 0 then (⟨part, .complete⟩, reader)
    else
      match reader.read store count with
      | .error error => (⟨part, .failed error⟩, reader)
      | .ok (more, reader) =>
        if more.isEmpty then (⟨part, .ended⟩, reader)
        else readOn store reads reader (count - more.size) (part ++ more)

/-- Reads `count` bytes. -/
def readExact (reader : FileReader) (store : FileStore) (count : Nat) : Reading × FileReader :=
  readOn store (count + 1) reader count #[]

end FileReader

/-- Bytes in memory that are read one after the other. -/
structure MemoryReader where
  bytes : Bytes
  position : Nat

namespace MemoryReader

/-- A reader at the first byte. -/
def ofBytes (bytes : Bytes) : MemoryReader := ⟨bytes, 0⟩

/-- Reads `count` bytes, or none of those that are left if they are fewer; no read delivers
anything after that. -/
def readExact (reader : MemoryReader) (count : Nat) : Reading × MemoryReader :=
  if reader.position + count ≤ reader.bytes.size then
    (⟨reader.bytes.extract reader.position (reader.position + count), .complete⟩,
      { reader with position := reader.position + count })
  else (⟨#[], .ended⟩, { reader with position := reader.bytes.size })

end MemoryReader

/-- Where raw frames come from. -/
inductive Source where
  | stream (stream : ByteStream)
  | file (reader : FileReader)
  | memory (reader : MemoryReader)

namespace Source

/-- Opens the file under a path. -/
def openFile (store : FileStore) (path : String) : Except IoError Source := do
  return .file (.ofLocation (← store.openRead path))

/-- Reads from memory. -/
def ofBytes (bytes : Bytes) : Source := .memory (.ofBytes bytes)

/-- The number of bytes in a stream, in memory or in a buffer; those of a file are in the store. -/
def size : Source → Nat
  | .stream bytes => bytes.bytes.size
  | .file reader => reader.buffer.size
  | .memory reader => reader.bytes.size

/-- Reads `count` bytes. -/
def readExact (source : Source) (store : FileStore) (count : Nat) : Reading × Source :=
  match source with
  | .stream bytes =>
    let (reading, rest) := bytes.readExact count
    (reading, .stream rest)
  | .file reader =>
    let (reading, rest) := reader.readExact store count
    (reading, .file rest)
  | .memory reader =>
    let (reading, rest) := reader.readExact count
    (reading, .memory rest)

end Source

end Nv12Jpeg
