import Nv12Jpeg.Bytes

/-!
# Entropy-coded bits

Bits are packed into bytes, the most significant first. A byte of eight ones is followed by a zero
byte, so that no marker appears inside coded data.

* `Codeword.bits` is the bit string a code word stands for;
* `BitSink.put` appends it;
* `BitSink.finish` fills the last byte up with ones.
-/

namespace Nv12Jpeg.Jpeg

/-- A bit string of at most 16 bits: the low `length` bits of `value`. -/
structure Codeword where
  value : Nat
  length : Nat
  deriving DecidableEq, Repr, Inhabited

namespace Codeword

/-- The low `length` bits of `value`, the highest of them first. -/
def bitsOf (value : Nat) : (length : Nat) → List Bool
  | 0 => []
  | n + 1 => value.testBit n :: bitsOf value n

/-- The bits of a code word in the order in which they are written. -/
def bits (word : Codeword) : List Bool := bitsOf word.value word.length

@[simp] theorem length_bitsOf (value n : Nat) : (bitsOf value n).length = n := by
  induction n with
  | zero => rfl
  | succ n ih => simp [bitsOf, ih]

@[simp] theorem length_bits (word : Codeword) : word.bits.length = word.length :=
  length_bitsOf ..

end Codeword

/-- Coded bytes with a byte that is still being filled. -/
structure BitSink where
  /-- The bytes that are complete, stuffing included. -/
  bytes : Bytes
  /-- The bits of the byte being filled, as a number. -/
  pending : Nat
  /-- How many bits those are; below 8. -/
  count : Nat
  deriving DecidableEq, Repr

namespace BitSink

/-- No bits at all, behind the bytes of a file header. -/
def behind (header : Bytes) : BitSink := ⟨header, 0, 0⟩

/-- Appends a whole byte, with a zero byte behind it if it consists of ones. -/
def pushByte (bytes : Bytes) (byte : Nat) : Bytes :=
  let bytes := bytes.push (UInt8.ofNat byte)
  if byte = 255 then bytes.push 0 else bytes

/-- Appends one bit. -/
def pushBit (sink : BitSink) (bit : Bool) : BitSink :=
  let pending := 2 * sink.pending + bit.toNat
  if sink.count = 7 then ⟨pushByte sink.bytes pending, 0, 0⟩
  else { sink with pending, count := sink.count + 1 }

/-- Appends the low `length` bits of `value`, the highest of them first. -/
def putBits (sink : BitSink) (value : Nat) : (length : Nat) → BitSink
  | 0 => sink
  | n + 1 => putBits (sink.pushBit (value.testBit n)) value n

/-- Appends a code word. -/
def put (sink : BitSink) (word : Codeword) : BitSink := sink.putBits word.value word.length

/-- Appends a bit string. -/
def pushBits (sink : BitSink) (bits : List Bool) : BitSink := bits.foldl pushBit sink

/-- Completes the last byte with ones and gives up a byte that holds nothing else. -/
def finish (sink : BitSink) : Bytes := (sink.putBits 127 7).bytes

theorem putBits_eq_pushBits (sink : BitSink) (value n : Nat) :
    sink.putBits value n = sink.pushBits (Codeword.bitsOf value n) := by
  induction n generalizing sink with
  | zero => rfl
  | succ n ih => simp [putBits, Codeword.bitsOf, pushBits, ih]

/-- Writing a code word appends exactly its bits. -/
theorem put_eq_pushBits (sink : BitSink) (word : Codeword) :
    sink.put word = sink.pushBits word.bits :=
  putBits_eq_pushBits ..

end BitSink

end Nv12Jpeg.Jpeg
