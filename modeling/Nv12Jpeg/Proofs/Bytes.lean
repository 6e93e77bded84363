import Nv12Jpeg.Bytes

/-!
# Ranges of byte buffers

What overwriting a range leaves of the other ranges, and buffers that are put together from rows:

* `extract_write_self`, `extract_write_of_disjoint` — the range that was written holds what was
  written, and a range beside it is as before;
* `joinRows` — rows one behind the other; `joinRows_extract` says that consecutive rows of a
  buffer make up the range they come from.
-/

namespace Nv12Jpeg.Bytes

/-! ## Overwriting -/

private theorem size_fold_setIfInBounds (start n : Nat) (byte : (i : Nat) → i < n → UInt8)
    (data : Bytes) :
    (Nat.fold n (fun i h buffer => buffer.setIfInBounds (start + i) (byte i h)) data).size
      = data.size := by
  induction n with
  | zero => rfl
  | succ n ih =>
    rw [Nat.fold_succ, Array.size_setIfInBounds]
    exact ih fun i h => byte i (by omega)

private theorem getElem?_fold_setIfInBounds (start n : Nat) (byte : (i : Nat) → i < n → UInt8)
    (data : Bytes) (i : Nat) :
    (Nat.fold n (fun i h buffer => buffer.setIfInBounds (start + i) (byte i h)) data)[i]? =
      if h : start ≤ i ∧ i < start + n then
        if i < data.size then some (byte (i - start) (by omega)) else none
      else data[i]? := by
  induction n with
  | zero =>
    rw [dif_neg (by omega)]
    rfl
  | succ n ih =>
    rw [Nat.fold_succ, Array.getElem?_setIfInBounds, ih fun i h => byte i (by omega),
      size_fold_setIfInBounds start n fun i h => byte i (by omega)]
    by_cases last : start + n = i
    · subst last
      simp
    · rw [if_neg last]
      by_cases inside : start ≤ i ∧ i < start + n
      · rw [dif_pos inside, dif_pos (by omega)]
      · rw [dif_neg inside, dif_neg (by omega)]

/-- The bytes of a buffer after a range of it was overwritten. -/
theorem getElem?_write (data : Bytes) (start : Nat) (payload : Bytes) (i : Nat) :
    (data.write start payload)[i]? =
      if start ≤ i ∧ i < start + payload.size ∧ i < data.size then payload[i - start]?
      else data[i]? := by
  rw [write, getElem?_fold_setIfInBounds start payload.size (fun i _ => payload[i]) data i]
  by_cases inside : start ≤ i ∧ i < start + payload.size
  · rw [dif_pos inside]
    by_cases bound : i < data.size
    · rw [if_pos bound, if_pos ⟨inside.1, inside.2, bound⟩, Array.getElem?_eq_getElem (by omega)]
    · rw [if_neg bound, if_neg fun h => bound h.2.2, Array.getElem?_eq_none (by omega)]
  · rw [dif_neg inside, if_neg fun h => inside ⟨h.1, h.2.1⟩]

/-! ## Ranges -/

/-- A byte of a range, by its distance from the start of the range. -/
theorem getElem?_extract_add (data : Bytes) (start count i : Nat) :
    (data.extract start (start + count))[i]? = if i < count then data[start + i]? else none := by
  rw [Array.getElem?_extract]
  by_cases inside : i < min (start + count) data.size - start
  · rw [if_pos inside, if_pos (by omega)]
  · rw [if_neg inside]
    split
    · rw [Array.getElem?_eq_none (by omega)]
    · rfl

/-- Ranges of one length are equal if they are so byte by byte. -/
theorem extract_eq_extract {a b : Bytes} {i j n : Nat} (h : ∀ m < n, a[i + m]? = b[j + m]?) :
    a.extract i (i + n) = b.extract j (j + n) := by
  apply Array.ext_getElem?
  intro m
  rw [getElem?_extract_add, getElem?_extract_add]
  by_cases inside : m < n
  · rw [if_pos inside, if_pos inside, h m inside]
  · rw [if_neg inside, if_neg inside]

/-- A range that was overwritten holds what was written. -/
theorem extract_write_self {data : Bytes} {start : Nat} {payload : Bytes}
    (h : start + payload.size ≤ data.size) :
    (data.write start payload).extract start (start + payload.size) = payload := by
  apply Array.ext_getElem?
  intro m
  rw [getElem?_extract_add, getElem?_write]
  by_cases inside : m < payload.size
  · rw [if_pos inside, if_pos (by omega), Nat.add_sub_cancel_left]
  · rw [if_neg inside, Array.getElem?_eq_none (by omega)]

/-- A range beside the one that was overwritten is as before. -/
theorem extract_write_of_disjoint {data : Bytes} {start : Nat} {payload : Bytes} {i n : Nat}
    (h : i + n ≤ start ∨ start + payload.size ≤ i) :
    (data.write start payload).extract i (i + n) = data.extract i (i + n) := by
  apply extract_eq_extract
  intro m _
  rw [getElem?_write, if_neg (by omega)]

/-- A range of a range, by its distance from the start of the outer one. -/
theorem extract_extract_add (data : Bytes) (start : Nat) {count i n : Nat} (h : i + n ≤ count) :
    (data.extract start (start + count)).extract i (i + n)
      = data.extract (start + i) (start + i + n) := by
  apply Array.ext_getElem?
  intro m
  rw [getElem?_extract_add, getElem?_extract_add, getElem?_extract_add]
  by_cases inside : m < n
  · rw [if_pos inside, if_pos inside, if_pos (by omega), Nat.add_assoc]
  · rw [if_neg inside, if_neg inside]

theorem extract_zeros {start count total : Nat} (inside : start + count ≤ total) :
    (zeros total).extract start (start + count) = zeros count := by
  rw [zeros, Array.extract_replicate, Nat.min_eq_left inside, Nat.add_sub_cancel_left, zeros]

theorem size_extract_add {data : Bytes} {start count : Nat} (h : start + count ≤ data.size) :
    (data.extract start (start + count)).size = count := by
  rw [Array.size_extract]
  omega

/-- Two adjacent ranges make one. -/
theorem extract_append_extract_add (data : Bytes) (start m n : Nat) :
    data.extract start (start + m) ++ data.extract (start + m) (start + m + n)
      = data.extract start (start + (m + n)) := by
  rw [Array.extract_append_extract, Nat.min_eq_left (by omega), Nat.max_eq_right (by omega),
    Nat.add_assoc]

/-- A buffer is its first bytes and the others. -/
theorem extract_append_extract_size (data : Bytes) (n : Nat) :
    data.extract 0 n ++ data.extract n data.size = data := by
  rw [Array.extract_append_extract, Nat.zero_min, Array.extract_eq_self_of_le]
  omega

/-- The bytes from `start` on are those of a range that starts there and the others, also where
the range ends early. -/
theorem extract_append_extract_behind (data : Bytes) (start count : Nat) :
    data.extract start (start + count)
      ++ data.extract (start + (data.extract start (start + count)).size) data.size
        = data.extract start data.size := by
  by_cases within : start + count ≤ data.size
  · rw [size_extract_add within, Array.extract_append_extract, Nat.min_eq_left (by omega),
      Nat.max_eq_right within]
  · have all : data.extract start (start + count) = data.extract start data.size :=
      Array.extract_eq_extract_right.2 (by omega)
    have none_left : data.extract (start + (data.extract start data.size).size) data.size = #[] :=
      Array.extract_empty_of_size_le_start (by rw [Array.size_extract]; omega)
    rw [all, none_left, Array.append_empty]

/-- The bytes behind the first `m` of those behind the first `n`. -/
theorem extract_size_extract_size (data : Bytes) {n m : Nat} :
    (data.extract n data.size).extract m (data.extract n data.size).size
      = data.extract (n + m) data.size := by
  rw [Array.extract_extract, Array.size_extract]
  apply Array.extract_eq_extract_right.2
  omega

/-- A range of the bytes behind the first `n`. -/
theorem extract_size_extract_add (data : Bytes) (n i count : Nat)
    (h : n + i + count ≤ data.size) :
    (data.extract n data.size).extract i (i + count) = data.extract (n + i) (n + i + count) := by
  have inner := extract_extract_add data n (show i + count ≤ data.size - n by omega)
  rwa [Nat.add_sub_of_le (by omega)] at inner

/-- The first bytes, in two parts. -/
theorem extract_append_extract_of_le (data : Bytes) {n m : Nat} (h : n ≤ m) (h' : m ≤ data.size) :
    data.extract 0 n ++ (data.extract n data.size).extract 0 (m - n) = data.extract 0 m := by
  have rest := extract_size_extract_add data n 0 (m - n) (by omega)
  have joined := extract_append_extract_add data 0 n (m - n)
  rw [Nat.zero_add, Nat.add_zero, Nat.add_sub_of_le h] at rest
  rw [Nat.zero_add, Nat.zero_add, Nat.add_sub_of_le h] at joined
  rw [rest, joined]

/-! ## Rows -/

/-- A row that is no longer than the distance between rows ends before the later ones. -/
theorem row_end_le {row pitch y y' : Nat} (narrow : row ≤ pitch) (before : y < y') :
    y * pitch + row ≤ y' * pitch := by
  have next := Nat.mul_le_mul_right pitch (Nat.succ_le_of_lt before)
  rw [Nat.succ_mul] at next
  exact Nat.le_trans (Nat.add_le_add_left narrow _) next

/-- `count` rows one behind the other, the first of them row `first`. -/
def joinRows (row : Nat → Bytes) : (count first : Nat) → Bytes
  | 0, _ => #[]
  | count + 1, first => row first ++ joinRows row count (first + 1)

theorem joinRows_congr {row row' : Nat → Bytes} {count first : Nat}
    (h : ∀ y, first ≤ y → y < first + count → row y = row' y) :
    joinRows row count first = joinRows row' count first := by
  induction count generalizing first with
  | zero => rfl
  | succ count ih =>
    rw [joinRows, joinRows, h first (by omega) (by omega),
      ih fun y low high => h y (by omega) (by omega)]

theorem size_joinRows {row : Nat → Bytes} {size count first : Nat}
    (h : ∀ y, first ≤ y → y < first + count → (row y).size = size) :
    (joinRows row count first).size = count * size := by
  induction count generalizing first with
  | zero => simp [joinRows]
  | succ count ih =>
    rw [joinRows, Array.size_append, h first (by omega) (by omega),
      ih fun y low high => h y (by omega) (by omega), Nat.succ_mul, Nat.add_comm]

/-- Consecutive rows of a buffer make up the range they come from. -/
theorem joinRows_extract (data : Bytes) (start size count first : Nat) :
    joinRows (fun y => data.extract (start + y * size) (start + y * size + size)) count first
      = data.extract (start + first * size) (start + first * size + count * size) := by
  induction count generalizing first with
  | zero =>
    rw [joinRows, Nat.zero_mul, Nat.add_zero,
      Array.extract_empty_of_stop_le_start (Nat.le_refl _)]
  | succ count ih =>
    rw [joinRows, ih, Nat.succ_mul first, ← Nat.add_assoc start, extract_append_extract_add,
      Nat.succ_mul count, Nat.add_comm size]

/-- A row, cut out of rows of one size that lie one behind the other. -/
theorem extract_joinRows {row : Nat → Bytes} {size count first y : Nat}
    (h : ∀ y, first ≤ y → y < first + count → (row y).size = size) (within : y < count) :
    (joinRows row count first).extract (y * size) (y * size + size) = row (first + y) := by
  induction count generalizing first y with
  | zero => omega
  | succ count ih =>
    have first_size := h first (by omega) (by omega)
    rw [joinRows, Array.extract_append, first_size]
    cases y with
    | zero =>
      rw [Nat.zero_mul, Nat.zero_add, Nat.sub_self, Nat.zero_sub, Array.extract_zero,
        Array.append_empty, ← first_size]
      exact Array.extract_eq_self_of_le (Nat.le_refl _)
    | succ y =>
      have behind : (y + 1) * size = size + y * size := by
        rw [Nat.succ_mul, Nat.add_comm]
      rw [behind, Nat.add_sub_cancel_left, Nat.add_assoc, Nat.add_sub_cancel_left,
        Array.extract_empty_of_size_le_start (by omega), Array.empty_append,
        ih (fun y low high => h y (by omega) (by omega)) (by omega)]
      congr 1
      omega

end Nv12Jpeg.Bytes
