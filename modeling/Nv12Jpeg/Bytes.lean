import Nv12Jpeg.Fault

/-!
# Byte buffers

* `Bytes.slice` is a byte range, or a fault if the range leaves the buffer;
* `Bytes.write` overwrites a range in place; it never changes the buffer's size;
* `Bytes.put` overwrites a range that may reach beyond the end of the buffer.
-/

namespace Nv12Jpeg

/-- A byte buffer. -/
abbrev Bytes := Array UInt8

namespace Bytes

/-- `count` zero bytes. -/
def zeros (count : Nat) : Bytes := Array.replicate count 0

/-- The `count` bytes from `start` on, if the buffer has all of them. -/
def slice (data : Bytes) (start count : Nat) : Except Fault Bytes :=
  if start + count ≤ data.size then .ok (data.extract start (start + count))
  else .error .outOfRange

/-- Puts `payload` over the bytes from `start` on. What would lie behind the end is dropped. -/
def write (data : Bytes) (start : Nat) (payload : Bytes) : Bytes :=
  Nat.fold payload.size (fun i _ buffer => buffer.setIfInBounds (start + i) payload[i]) data

/-- Puts `payload` over the bytes from `start` on, if the buffer has room for all of it. -/
def overwrite (data : Bytes) (start : Nat) (payload : Bytes) : Except Fault Bytes :=
  if start + payload.size ≤ data.size then .ok (data.write start payload)
  else .error .outOfRange

/-- Puts `payload` over the bytes from `start` on. What would lie behind the end makes the buffer
longer. -/
def put (data : Bytes) (start : Nat) (payload : Bytes) : Bytes :=
  data.extract 0 start ++ payload ++ data.extract (start + payload.size) data.size

@[simp] theorem size_zeros (count : Nat) : (zeros count).size = count := by
  simp [zeros]

theorem slice_eq_ok {data : Bytes} {start count : Nat} {part : Bytes} :
    data.slice start count = .ok part ↔
      start + count ≤ data.size ∧ part = data.extract start (start + count) := by
  by_cases h : start + count ≤ data.size <;> simp [slice, h, eq_comm]

private theorem size_fold_set (start n : Nat) (byte : (i : Nat) → i < n → UInt8) (data : Bytes) :
    (Nat.fold n (fun i h buffer => buffer.setIfInBounds (start + i) (byte i h)) data).size
      = data.size := by
  induction n with
  | zero => simp
  | succ n ih => simp [Nat.fold_succ, ih]

@[simp] theorem size_write (data : Bytes) (start : Nat) (payload : Bytes) :
    (data.write start payload).size = data.size :=
  size_fold_set start payload.size (fun i _ => payload[i]) data

theorem size_put {data : Bytes} {start : Nat} (payload : Bytes) (h : start ≤ data.size) :
    (data.put start payload).size = max data.size (start + payload.size) := by
  simp only [put, Array.size_append, Array.size_extract]
  omega

end Bytes

end Nv12Jpeg
