import Nv12Jpeg.Encoder.Reply
import Nv12Jpeg.Stream.Sink

/-!
# The output buffer

A `Bitstream` collects encoded bytes up to a fixed capacity until they are written out. The bytes
that wait are a range of a buffer, in which bytes that were written out or dropped stay until others
are put over them. An append that does not fit changes nothing.

* `Bitstream.bytes` is what waits;
* `Bitstream.append`, `Bitstream.clear` and `Bitstream.writeTo` are all there is to do with it.
-/

namespace Nv12Jpeg

/-- Encoded bytes that wait to be written out, in a buffer that is used again and again. -/
structure Bitstream where
  capacity : Nat
  /-- The buffer as far as bytes were ever put into it; up to its capacity zeros follow. -/
  data : Bytes
  /-- Where the waiting bytes start. -/
  offset : Nat
  /-- The number of bytes waiting. -/
  size : Nat
  data_le : data.size ≤ capacity
  range_le : offset + size ≤ data.size
  /-- A buffer in which nothing waits is filled from its start. -/
  idle : size = 0 → offset = 0

namespace Bitstream

/-- The capacity chosen where nothing else is asked for. -/
def defaultCapacity : Nat := 2000000

/-- A buffer of some capacity without bytes in it. -/
def empty (capacity : Nat) : Bitstream :=
  ⟨capacity, #[], 0, 0, Nat.zero_le _, Nat.le_refl _, fun _ => rfl⟩

/-- Allocates an empty buffer. -/
def allocate (capacity : Nat) : Except Fault Bitstream := do
  return empty (← Size.buffer capacity)

/-- Where the waiting bytes end. -/
def stop (bitstream : Bitstream) : Nat := bitstream.offset + bitstream.size

/-- The bytes that wait. -/
def bytes (bitstream : Bitstream) : Bytes := bitstream.data.extract bitstream.offset bitstream.stop

/-- The number of bytes that can still be appended. -/
def available (bitstream : Bitstream) : Nat := bitstream.capacity - bitstream.stop

/-- The waiting bytes lie in the part of the buffer that was put to use. -/
theorem stop_le (bitstream : Bitstream) : bitstream.stop ≤ bitstream.data.size :=
  bitstream.range_le

/-- There is room for `payload` behind them if it is no longer than what is free. -/
theorem size_put_le (bitstream : Bitstream) {payload : Bytes}
    (fits : payload.size ≤ bitstream.available) :
    (bitstream.data.put bitstream.stop payload).size ≤ bitstream.capacity := by
  have within := bitstream.data_le
  have stop_le := bitstream.stop_le
  rw [available] at fits
  rw [Bytes.size_put payload stop_le]
  omega

/-- Putting `payload` there leaves the buffer no shorter than that. -/
theorem le_size_put (bitstream : Bitstream) (payload : Bytes) :
    bitstream.offset + (bitstream.size + payload.size)
      ≤ (bitstream.data.put bitstream.stop payload).size := by
  rw [Bytes.size_put payload bitstream.stop_le, stop]
  omega

/-- Appends `payload` if all of it fits. -/
def append (bitstream : Bitstream) (payload : Bytes) : Except EncoderError Bitstream :=
  if fits : payload.size ≤ bitstream.available then
    .ok { bitstream with
      data := bitstream.data.put bitstream.stop payload
      size := bitstream.size + payload.size
      data_le := bitstream.size_put_le fits
      range_le := bitstream.le_size_put payload
      idle := fun nothing => bitstream.idle (by omega) }
  else
    .error (.notEnoughBuffer payload.size bitstream.available)

/-- Drops the waiting bytes; they stay in the buffer. -/
def clear (bitstream : Bitstream) : Bitstream :=
  { bitstream with offset := 0, size := 0, range_le := Nat.zero_le _, idle := fun _ => rfl }

/-- Writes the waiting bytes to a sink. The buffer is emptied if the sink takes them all, and
otherwise stays as it is; the number written comes with the sink. -/
def writeTo (bitstream : Bitstream) (sink : Sink) : Except IoError Nat × Sink × Bitstream :=
  match sink.writeAll bitstream.bytes with
  | (.ok (), sink) => (.ok bitstream.size, sink, bitstream.clear)
  | (.error error, sink) => (.error error, sink, bitstream)

@[simp] theorem size_empty (capacity : Nat) : (empty capacity).size = 0 := rfl

@[simp] theorem capacity_clear (bitstream : Bitstream) :
    bitstream.clear.capacity = bitstream.capacity := rfl

@[simp] theorem size_clear (bitstream : Bitstream) : bitstream.clear.size = 0 := rfl

@[simp] theorem bytes_empty (capacity : Nat) : (empty capacity).bytes = #[] := rfl

@[simp] theorem bytes_clear (bitstream : Bitstream) : bitstream.clear.bytes = #[] := by
  simp [bytes, clear, stop]

@[simp] theorem size_bytes (bitstream : Bitstream) : bitstream.bytes.size = bitstream.size := by
  have within := bitstream.range_le
  simp only [bytes, stop, Array.size_extract]
  omega

end Bitstream

end Nv12Jpeg
