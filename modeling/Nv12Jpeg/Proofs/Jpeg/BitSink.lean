import Mathlib.Algebra.BigOperators.Group.List.Basic
import Mathlib.Algebra.Order.Ring.Nat
import Nv12Jpeg.Jpeg.BitSink

/-!
# How many bytes coded bits take

A zero byte is put behind every byte of ones, so the bytes of a sink are bounded by the number of
its bits and of its ones: each one is an eighth of a byte of ones.

* `Codeword.weight` counts the bits of a code word and its ones once more;
* `BitSink.level` is what a sink has taken up. Code words raise it by their weights at most:
  `BitSink.level_putAll_le`;
* `BitSink.size_finish_le` and `BitSink.le_size_finish` bound the bytes of a sink from both sides.
-/

namespace Nv12Jpeg.Jpeg

namespace Codeword

/-- The bits of a code word, and its ones once more. -/
def weight (word : Codeword) : Nat := word.length + word.bits.count true

theorem weight_le (word : Codeword) : word.weight ≤ 2 * word.length := by
  have ones := List.count_le_length (a := true) (l := word.bits)
  rw [length_bits] at ones
  rw [weight]
  omega

end Codeword

namespace BitSink

/-- The bits of a sink, stuffing included. -/
def length (sink : BitSink) : Nat := 8 * sink.bytes.size + sink.count

/-- How many ones a byte being filled has, if it has ones only. They pay for the byte behind it. -/
def ones (pending count : Nat) : Nat := if pending + 1 = 2 ^ count then count else 0

/-- The bits of a sink, and the ones that may have a zero byte put behind them. -/
def level (sink : BitSink) : Nat := sink.length + ones sink.pending sink.count

theorem length_behind (header : Bytes) : (behind header).length = 8 * header.size := rfl

theorem level_behind (header : Bytes) : (behind header).level = 8 * header.size := rfl

theorem ones_push_le (pending count : Nat) (bit : Bool) :
    ones (2 * pending + bit.toNat) (count + 1) ≤ ones pending count + bit.toNat := by
  have bit_le := Bool.toNat_le bit
  rw [ones, ones, Nat.pow_succ]
  split
  case isTrue full =>
    rw [if_pos (by omega)]
    omega
  case isFalse => exact Nat.zero_le _

theorem size_pushByte (bytes : Bytes) (byte : Nat) :
    (pushByte bytes byte).size = bytes.size + if byte = 255 then 2 else 1 := by
  simp only [pushByte]
  split <;> simp

variable (sink : BitSink)

/-- A bit raises the level by one, and by two if it is a one. -/
theorem level_pushBit_le (bit : Bool) : (sink.pushBit bit).level ≤ sink.level + 1 + bit.toNat := by
  have pushed := ones_push_le sink.pending sink.count bit
  rw [pushBit]
  split
  case isTrue full =>
    show 8 * (pushByte sink.bytes (2 * sink.pending + bit.toNat)).size + 0 + 0
      ≤ 8 * sink.bytes.size + sink.count + ones sink.pending sink.count + 1 + bit.toNat
    rw [full] at pushed ⊢
    rw [size_pushByte]
    split
    case isTrue stuffed =>
      rw [stuffed] at pushed
      have paid : ones 255 (7 + 1) = 8 := rfl
      omega
    case isFalse => omega
  case isFalse =>
    show 8 * sink.bytes.size + (sink.count + 1)
        + ones (2 * sink.pending + bit.toNat) (sink.count + 1)
      ≤ 8 * sink.bytes.size + sink.count + ones sink.pending sink.count + 1 + bit.toNat
    omega

/-- A bit is a bit at least. -/
theorem length_lt_length_pushBit (bit : Bool) : sink.length < (sink.pushBit bit).length := by
  rw [pushBit]
  split
  case isTrue full =>
    show 8 * sink.bytes.size + sink.count
      < 8 * (pushByte sink.bytes (2 * sink.pending + bit.toNat)).size + 0
    rw [size_pushByte]
    split <;> omega
  case isFalse => exact Nat.lt_succ_self _

theorem count_pushBits_le (bits : List Bool) (count_le : sink.count ≤ 7) :
    (sink.pushBits bits).count ≤ 7 := by
  induction bits generalizing sink with
  | nil => exact count_le
  | cons bit rest ih =>
    refine ih (sink.pushBit bit) ?_
    rw [pushBit]
    split
    case isTrue => exact Nat.zero_le _
    case isFalse =>
      show sink.count + 1 ≤ 7
      omega

theorem level_pushBits_le (bits : List Bool) :
    (sink.pushBits bits).level ≤ sink.level + bits.length + bits.count true := by
  induction bits generalizing sink with
  | nil => exact Nat.le_refl _
  | cons bit rest ih =>
    have first := sink.level_pushBit_le bit
    have others := ih (sink.pushBit bit)
    have counted : (bit :: rest).count true = rest.count true + bit.toNat := by
      cases bit <;> simp
    show ((sink.pushBit bit).pushBits rest).level ≤ _
    rw [counted, List.length_cons]
    omega

theorem le_length_pushBits (bits : List Bool) :
    sink.length + bits.length ≤ (sink.pushBits bits).length := by
  induction bits generalizing sink with
  | nil => exact Nat.le_refl _
  | cons bit rest ih =>
    have first := sink.length_lt_length_pushBit bit
    have others := ih (sink.pushBit bit)
    show _ ≤ ((sink.pushBit bit).pushBits rest).length
    rw [List.length_cons]
    omega

/-- Code words raise the level by their weights. -/
theorem level_putAll_le (words : List Codeword) :
    (words.foldl put sink).level ≤ sink.level + (words.map Codeword.weight).sum := by
  induction words generalizing sink with
  | nil => exact Nat.le_refl _
  | cons word rest ih =>
    have first := sink.level_pushBits_le word.bits
    rw [← put_eq_pushBits, Codeword.length_bits] at first
    have others := ih (sink.put word)
    rw [List.foldl_cons, List.map_cons, List.sum_cons, Codeword.weight]
    omega

/-- Code words add their bits at least. -/
theorem le_length_putAll (words : List Codeword) :
    sink.length + (words.map Codeword.length).sum ≤ (words.foldl put sink).length := by
  induction words generalizing sink with
  | nil => exact Nat.le_refl _
  | cons word rest ih =>
    have first := sink.le_length_pushBits word.bits
    rw [← put_eq_pushBits, Codeword.length_bits] at first
    have others := ih (sink.put word)
    rw [List.foldl_cons, List.map_cons, List.sum_cons]
    omega

theorem count_putAll_le (words : List Codeword) (count_le : sink.count ≤ 7) :
    (words.foldl put sink).count ≤ 7 := by
  induction words generalizing sink with
  | nil => exact count_le
  | cons word rest ih =>
    refine ih (sink.put word) ?_
    rw [put_eq_pushBits]
    exact sink.count_pushBits_le word.bits count_le

/-- Seven ones complete the last byte. -/
theorem finish_eq : sink.finish = (sink.pushBits (List.replicate 7 true)).bytes := by
  rw [finish, putBits_eq_pushBits]
  congr 2

theorem size_finish_le : 8 * sink.finish.size ≤ sink.level + 14 := by
  have filled := sink.level_pushBits_le (List.replicate 7 true)
  rw [finish_eq]
  simp only [level, length, List.length_replicate, List.count_replicate_self] at filled ⊢
  omega

theorem le_size_finish (count_le : sink.count ≤ 7) : sink.length ≤ 8 * sink.finish.size := by
  have filled := sink.le_length_pushBits (List.replicate 7 true)
  have left := sink.count_pushBits_le (List.replicate 7 true) count_le
  rw [finish_eq]
  simp only [length, List.length_replicate] at filled ⊢
  omega

end BitSink

end Nv12Jpeg.Jpeg
