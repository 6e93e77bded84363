import Mathlib.Data.Finset.Lattice.Fold
import Mathlib.Order.Interval.Finset.Nat
import Mathlib.Order.Lattice.Nat
import Nv12Jpeg.Proofs.Jpeg.BitSink
import Nv12Jpeg.Proofs.Jpeg.Energy

/-!
# What the coefficients of a block cost

Every coefficient has a price of its own, so that the code words of a block weigh no more than the
prices of its coefficients: a zero pays for its share of a run, and what it pays is credited to the
value that ends the run. A value is expensive only if it is large, and a block cannot have many
large values, as each takes its square out of the energy of the block.

* `price` and `weight_acWords_le` — the code words of the coefficients behind the first one;
* `stepAllowance` and `scale_mul_price_le` — what a coefficient costs beyond its energy, by its
  step;
* `ComponentCoding.allowance` and `weight_blockWords_le` — the code words of a block.
-/

namespace Nv12Jpeg.Jpeg

/-! ## Sizes -/

theorem two_pow_magnitudeSize_le {value : Int} (nonzero : value ≠ 0) :
    2 ^ magnitudeSize value ≤ 2 * value.natAbs := by
  rw [magnitudeSize, if_neg nonzero, Nat.pow_succ, Nat.mul_comm]
  exact Nat.mul_le_mul_left 2 (Nat.log2_self_le (Int.natAbs_ne_zero.2 nonzero))

theorem magnitudeSize_le {value : Int} {size : Nat} (small : value.natAbs < 2 ^ size) :
    magnitudeSize value ≤ size := by
  rw [magnitudeSize]
  split
  case isTrue => exact Nat.zero_le _
  case isFalse nonzero => exact (Nat.log2_lt (Int.natAbs_ne_zero.2 nonzero)).2 small

theorem magnitudeSize_pos {value : Int} (nonzero : value ≠ 0) : 0 < magnitudeSize value := by
  rw [magnitudeSize, if_neg nonzero]
  exact Nat.succ_pos _

theorem weight_magnitude_le (value : Int) : (magnitude value).weight ≤ 2 * magnitudeSize value :=
  Codeword.weight_le _

theorem natAbs_quantize (coefficient : Int) (step : Nat) :
    (quantize coefficient step).natAbs
      = (2 * (coefficient.tdiv 8).natAbs + step) / (2 * step) := by
  rw [quantize]
  split
  case isTrue => rw [Int.natAbs_neg, Int.natAbs_natCast]
  case isFalse => rw [Int.natAbs_natCast]

theorem natAbs_tdiv_eight (coefficient : Int) :
    (coefficient.tdiv 8).natAbs = coefficient.natAbs / 8 :=
  Int.natAbs_tdiv coefficient 8

/-- Steps do not make a value larger. -/
theorem natAbs_quantize_le {step : Nat} (step_pos : 0 < step) (coefficient : Int) :
    (quantize coefficient step).natAbs ≤ (coefficient.tdiv 8).natAbs := by
  rw [natAbs_quantize]
  refine Nat.le_of_lt_succ (Nat.div_lt_of_lt_mul ?_)
  have := Nat.le_mul_of_pos_left (coefficient.tdiv 8).natAbs step_pos
  calc 2 * (coefficient.tdiv 8).natAbs + step
    _ < 2 * (step * (coefficient.tdiv 8).natAbs) + 2 * step := by omega
    _ = 2 * step * ((coefficient.tdiv 8).natAbs + 1) := by ring

/-- A value of some size comes from a coefficient that is at least so large. -/
theorem le_natAbs_of_quantize_ne_zero {coefficient : Int} {step : Nat}
    (nonzero : quantize coefficient step ≠ 0) :
    4 * (2 ^ magnitudeSize (quantize coefficient step) - 1) * step ≤ coefficient.natAbs := by
  have size_le := two_pow_magnitudeSize_le nonzero
  have rounded := natAbs_quantize coefficient step ▸
    Nat.div_mul_le_self (2 * (coefficient.tdiv 8).natAbs + step) (2 * step)
  have shortened : 8 * (coefficient.tdiv 8).natAbs ≤ coefficient.natAbs := by
    rw [natAbs_tdiv_eight]
    exact Nat.mul_div_le _ _
  have below : (2 ^ magnitudeSize (quantize coefficient step) - 1) * step + step
      ≤ (quantize coefficient step).natAbs * (2 * step) := by
    rw [Nat.sub_mul, Nat.one_mul, Nat.sub_add_cancel (Nat.le_mul_of_pos_left _ (Nat.two_pow_pos _))]
    calc 2 ^ magnitudeSize (quantize coefficient step) * step
      _ ≤ 2 * (quantize coefficient step).natAbs * step := Nat.mul_le_mul_right _ size_le
      _ = (quantize coefficient step).natAbs * (2 * step) := by ring
  rw [Nat.mul_assoc]
  omega

/-! ## Prices -/

section Prices

variable (table : Array Codeword) (share : Nat)

/-- The price of a value of some size: the most that its code words weigh, whatever run of zeros it
ends, less what the zeros have paid. -/
def sizePrice (size : Nat) : Nat :=
  (Finset.range 16).sup fun run =>
    (table.getD (run * 16 + size) default).weight + 2 * size - run * share

/-- The price of a coefficient. -/
def price (value : Int) : Nat :=
  if value = 0 then share else sizePrice table share (magnitudeSize value)

/-- A value that ends a run pays for its words together with the zeros of the run. -/
theorem weight_le_sizePrice (size : Nat) {run : Nat} (run_lt : run < 16) :
    (table.getD (run * 16 + size) default).weight + 2 * size
      ≤ sizePrice table share size + run * share := by
  have : _ ≤ sizePrice table share size := Finset.le_sup
    (f := fun run => (table.getD (run * 16 + size) default).weight + 2 * size - run * share)
    (Finset.mem_range.2 run_lt)
  omega

variable {table share}

/-- The words behind `zeros` zeros weigh no more than the prices of the zeros and of the
coefficients to come, and the end of the block. -/
theorem weight_acWords_le (cheap : (table.getD sixteenZeros default).weight ≤ 16 * share)
    (zeros : Nat) (values : List Int) :
    ((acWords table zeros values).map Codeword.weight).sum
      ≤ zeros * share + (values.map (price table share)).sum
        + (table.getD endOfBlock default).weight := by
  induction values generalizing zeros with
  | nil =>
    cases zeros with
    | zero => exact Nat.zero_le _
    | succ zeros =>
      rw [acWords, List.map_singleton, List.sum_singleton]
      exact Nat.le_add_left _ _
  | cons value rest ih =>
    rw [acWords, List.map_cons, List.sum_cons]
    split
    case isTrue is_zero =>
      have longer := ih (zeros + 1)
      rw [price, if_pos is_zero]
      rw [Nat.succ_mul] at longer
      omega
    case isFalse nonzero =>
      have behind := ih 0
      have word := weight_le_sizePrice table share (magnitudeSize value)
        (Nat.mod_lt zeros (by decide : 0 < 16))
      have value_le := weight_magnitude_le value
      have sixteens : zeros / 16 * (table.getD sixteenZeros default).weight
          ≤ zeros / 16 * (16 * share) := Nat.mul_le_mul_left _ cheap
      have zeros_eq : zeros * share = zeros / 16 * (16 * share) + zeros % 16 * share := by
        rw [← Nat.mul_assoc, ← Nat.add_mul, Nat.mul_comm (zeros / 16), Nat.div_add_mod]
      rw [List.map_append, List.sum_append, List.map_replicate, List.sum_replicate_nat,
        List.map_cons, List.sum_cons, List.map_cons, List.sum_cons, price, if_neg nonzero, zeros_eq]
      omega

end Prices

/-! ## Prices and energy -/

/-- What a coefficient that is coded in steps may cost beyond its energy, all times `scale`. -/
def stepAllowance (table : Array Codeword) (share scale step : Nat) : Nat :=
  max (scale * share) ((Finset.Icc 1 11).sup fun size =>
    scale * sizePrice table share size - (4 * (2 ^ size - 1) * step) ^ 2)

/-- A larger step makes a coefficient cheaper. -/
theorem stepAllowance_anti (table : Array Codeword) (share scale : Nat) {fine coarse : Nat}
    (le : fine ≤ coarse) :
    stepAllowance table share scale coarse ≤ stepAllowance table share scale fine := by
  refine max_le_max_left _ (Finset.sup_mono_fun fun size _ => Nat.sub_le_sub_left ?_ _)
  exact Nat.pow_le_pow_left (Nat.mul_le_mul_left _ le) 2

/-- What a coefficient may cost by a list of the prices of the sizes up to 11. -/
theorem stepAllowance_of_prices {table : Array Codeword} {share : Nat} {prices : List Nat}
    (priced : (List.range 12).map (sizePrice table share) = prices) (scale step : Nat) :
    stepAllowance table share scale step = max (scale * share) ((Finset.Icc 1 11).sup fun size =>
      scale * prices.getD size 0 - (4 * (2 ^ size - 1) * step) ^ 2) := by
  refine congrArg _ (Finset.sup_congr rfl fun size within => ?_)
  have size_lt : size < 12 := Nat.lt_succ_of_le (Finset.mem_Icc.1 within).2
  rw [← priced, List.getD_eq_getElem?_getD, List.getElem?_map, List.getElem?_range size_lt,
    Option.map_some, Option.getD_some]

/-- The price of a coefficient is covered by its allowance and its energy. -/
theorem scale_mul_price_le (table : Array Codeword) (share scale : Nat) {step : Nat}
    {coefficient : Int} (small : (quantize coefficient step).natAbs < 2 ^ 11) :
    scale * price table share (quantize coefficient step)
      ≤ stepAllowance table share scale step + coefficient.natAbs ^ 2 := by
  rw [price, stepAllowance]
  split
  case isTrue => exact (Nat.le_max_left _ _).trans (Nat.le_add_right _ _)
  case isFalse nonzero =>
    obtain ⟨size, size_eq⟩ : ∃ size, size = magnitudeSize (quantize coefficient step) := ⟨_, rfl⟩
    have large := le_natAbs_of_quantize_ne_zero nonzero
    rw [← size_eq] at large ⊢
    have squares := Nat.pow_le_pow_left large 2
    have within : size ∈ Finset.Icc 1 11 :=
      Finset.mem_Icc.2 (size_eq ▸ ⟨magnitudeSize_pos nonzero, magnitudeSize_le small⟩)
    have covered : _ ≤ (Finset.Icc 1 11).sup fun size =>
        scale * sizePrice table share size - (4 * (2 ^ size - 1) * step) ^ 2 := Finset.le_sup
      (f := fun size => scale * sizePrice table share size - (4 * (2 ^ size - 1) * step) ^ 2) within
    omega

/-! ## Blocks -/

namespace Eight

variable {α β γ : Type}

theorem ofFn_congr {f g : Nat → α} (same : ∀ i < 8, f i = g i) : ofFn f = ofFn g := by
  simp only [ofFn, same 0 (by decide), same 1 (by decide), same 2 (by decide), same 3 (by decide),
    same 4 (by decide), same 5 (by decide), same 6 (by decide), same 7 (by decide)]

theorem get_map (f : α → β) (e : Eight α) (i : Nat) : (e.map f).get i = f (e.get i) := by
  match i with
  | 0 | 1 | 2 | 3 | 4 | 5 | 6 | _ + 7 => rfl

theorem get_zipWith (f : α → β → γ) (e : Eight α) (e' : Eight β) (i : Nat) :
    (zipWith f e e').get i = f (e.get i) (e'.get i) := by
  match i with
  | 0 | 1 | 2 | 3 | 4 | 5 | 6 | _ + 7 => rfl

theorem sum_range (f : α → Int) (e : Eight α) :
    ((List.range 8).map fun i => f (e.get i)).sum = e.total f := by
  simp only [List.range, List.range.loop, List.map_cons, List.map_nil, List.sum_cons, List.sum_nil,
    get, total]
  omega

theorem le_total {f : α → Int} (nonneg : ∀ a, 0 ≤ f a) (e : Eight α) (i : Nat) :
    f (e.get i) ≤ e.total f := by
  have h0 := nonneg e.v0
  have h1 := nonneg e.v1
  have h2 := nonneg e.v2
  have h3 := nonneg e.v3
  have h4 := nonneg e.v4
  have h5 := nonneg e.v5
  have h6 := nonneg e.v6
  have h7 := nonneg e.v7
  match i with
  | 0 | 1 | 2 | 3 | 4 | 5 | 6 | _ + 7 =>
    simp only [get, total]
    omega

end Eight

namespace Block

variable {α β γ : Type}

/-- The value in a row and a column. -/
def cell (block : Block α) (place : Nat × Nat) : α := (block.get place.1).get place.2

theorem zigzag_eq (block : Block α) : block.zigzag = zigzagOrder.map block.cell := rfl

theorem ofFn_congr {f g : (row column : Nat) → α}
    (same : ∀ row < 8, ∀ column < 8, f row column = g row column) : ofFn f = ofFn g :=
  Eight.ofFn_congr fun row row_lt => Eight.ofFn_congr (same row row_lt)

/-- The zigzag order begins in the corner. -/
theorem zigzagOrder_eq : zigzagOrder = (0, 0) :: zigzagOrder.tail := by
  decide +kernel

theorem cell_map (f : α → β) (block : Block α) (place : Nat × Nat) :
    (block.map f).cell place = f (block.cell place) := by
  rw [cell, map, Eight.get_map, Eight.get_map]
  rfl

theorem cell_zipWith (f : α → β → γ) (block : Block α) (other : Block β) (place : Nat × Nat) :
    (zipWith f block other).cell place = f (block.cell place) (other.cell place) := by
  rw [cell, zipWith, Eight.get_zipWith, Eight.get_zipWith]
  rfl

/-- The zigzag goes through every cell once. -/
theorem sum_zigzag (f : α → Int) (block : Block α) : (block.zigzag.map f).sum = block.total f := by
  have once : zigzagOrder.Perm
      ((List.range 8).flatMap fun row => (List.range 8).map fun column => (row, column)) := by
    decide +kernel
  rw [zigzag_eq, List.map_map, (once.map _).sum_eq, List.map_flatMap, List.flatMap_def,
    List.sum_flatten, List.map_map, total, ← Eight.sum_range (Eight.total f) block]
  refine congrArg List.sum (List.map_congr_left fun row _ => ?_)
  rw [← Eight.sum_range f (block.get row), Function.comp_apply, List.map_map]
  rfl

theorem sq_cell_le_energy (block : Block Int) (place : Nat × Nat) :
    block.cell place ^ 2 ≤ block.energy := by
  have row := Eight.le_total (f := (· ^ 2)) sq_nonneg (block.get place.1) place.2
  have all := Eight.le_total (f := Eight.total (· ^ 2)) Eight.energy_nonneg block place.1
  exact row.trans all

/-- The cells behind the corner. -/
theorem energy_tail_le (block : Block Int) :
    (zigzagOrder.tail.map fun place => block.cell place ^ 2).sum ≤ block.energy := by
  have all := sum_zigzag (· ^ 2) block
  rw [zigzag_eq, zigzagOrder_eq, List.map_map, List.map_cons, List.sum_cons] at all
  rw [energy, ← all]
  exact le_add_of_nonneg_left (sq_nonneg (block.cell (0, 0)))

end Block

namespace ComponentCoding

variable (coding : ComponentCoding)

/-- The most that the code words of a DC difference weigh. -/
def dcAllowance : Nat :=
  (Finset.range 13).sup fun size => (coding.dc.getD size default).weight + 2 * size

/-- What the code words of a block may weigh beyond the energy of the block, all of it times
`scale`, when a zero pays `share`. -/
def allowance (share scale : Nat) : Nat :=
  scale * (coding.dcAllowance + (coding.ac.getD endOfBlock default).weight)
    + ((Block.zigzagOrder.tail.map coding.quantization.cell).map
        (stepAllowance coding.ac share scale)).sum

theorem weight_dc_le (difference : Int) (small : difference.natAbs < 2 ^ 12) :
    (coding.dc.getD (magnitudeSize difference) default).weight + (magnitude difference).weight
      ≤ coding.dcAllowance := by
  have size_lt : magnitudeSize difference < 13 := Nat.lt_succ_of_le (magnitudeSize_le small)
  have value_le := weight_magnitude_le difference
  have : _ ≤ coding.dcAllowance := Finset.le_sup
    (f := fun size => (coding.dc.getD size default).weight + 2 * size) (Finset.mem_range.2 size_lt)
  omega

/-- The steps divide, and the zeros pay for the words that stand for sixteen of them. -/
structure Sound (share : Nat) : Prop where
  steps_pos : ∀ place, 0 < coding.quantization.cell place
  cheap : (coding.ac.getD sixteenZeros default).weight ≤ 16 * share

end ComponentCoding

/-- The largest coefficient in steps that has the energy of a unit. -/
def coefficientLimit : Nat := 1313

/-- Coefficients of a bounded energy are small in steps. -/
theorem natAbs_quantize_cell_le {block : Block Int} {step : Nat} (step_pos : 0 < step)
    (bounded : block.energy ≤ unitEnergy) (place : Nat × Nat) :
    (quantize (block.cell place) step).natAbs ≤ coefficientLimit := by
  have square : block.cell place ^ 2 ≤ 110352810 := (block.sq_cell_le_energy place).trans bounded
  have small : |block.cell place| ≤ 10505 := abs_le_of_sq_le_sq (by linarith) (by decide)
  have steps_le := natAbs_quantize_le step_pos (block.cell place)
  rw [natAbs_tdiv_eight] at steps_le
  rw [Int.abs_eq_natAbs] at small
  rw [coefficientLimit]
  omega

/-- What covers each cost covers all of them. -/
theorem scale_mul_sum_le {α : Type} (scale : Nat) (places : List α) (cost allowed : α → Nat)
    (energy : α → Int)
    (covered : ∀ place, (scale * cost place : Int) ≤ allowed place + energy place) :
    (scale * (places.map cost).sum : Int)
      ≤ (places.map allowed).sum + (places.map energy).sum := by
  induction places with
  | nil => simp
  | cons place rest ih =>
    have first := covered place
    simp only [List.map_cons, List.sum_cons, Nat.cast_add]
    linarith

namespace ComponentCoding

variable {coding : ComponentCoding} {share : Nat} {block : Block Int}

/-- The coefficient at a place, in steps. -/
def inSteps (coding : ComponentCoding) (block : Block Int) (place : Nat × Nat) : Int :=
  quantize (block.cell place) (coding.quantization.cell place)

theorem coefficients_eq (coding : ComponentCoding) (samples : Block Int) :
    coefficients coding samples
      = Block.zigzagOrder.map (coding.inSteps (cosineTransform samples)) := by
  rw [coefficients, Block.zigzag_eq]
  exact List.map_congr_left fun place _ => Block.cell_zipWith ..

theorem Sound.natAbs_inSteps_le (sound : coding.Sound share) (bounded : block.energy ≤ unitEnergy)
    (place : Nat × Nat) : (coding.inSteps block place).natAbs ≤ coefficientLimit :=
  natAbs_quantize_cell_le (sound.steps_pos place) bounded place

/-- The coefficients behind the first one cost no more than their allowances and the energy of the
block. -/
theorem Sound.scale_mul_prices_le (sound : coding.Sound share) (bounded : block.energy ≤ unitEnergy)
    (scale : Nat) :
    (scale *
        ((Block.zigzagOrder.tail.map (coding.inSteps block)).map (price coding.ac share)).sum : Int)
      ≤ ((Block.zigzagOrder.tail.map coding.quantization.cell).map
          (stepAllowance coding.ac share scale)).sum + block.energy := by
  have covered (place : Nat × Nat) :
      (scale * price coding.ac share (coding.inSteps block place) : Int)
        ≤ stepAllowance coding.ac share scale (coding.quantization.cell place)
          + block.cell place ^ 2 := by
    have small := (sound.natAbs_inSteps_le bounded place).trans_lt (by decide : _ < 2 ^ 11)
    rw [← Int.natAbs_sq]
    exact_mod_cast scale_mul_price_le coding.ac share scale small
  rw [List.map_map, List.map_map]
  refine (scale_mul_sum_le scale _ _ _ _ covered).trans ?_
  exact Int.add_le_add_left block.energy_tail_le _

/-- The code words of a block weigh no more than the prices of its coefficients behind the first
one, and what the first one and the end of the block are allowed. -/
theorem Sound.weight_le_prices (sound : coding.Sound share) {previous first : Int}
    (near : previous.natAbs ≤ coefficientLimit) (small : first.natAbs ≤ coefficientLimit)
    (rest : List Int) :
    ((blockWords coding previous (first :: rest)).map Codeword.weight).sum
      ≤ coding.dcAllowance + (coding.ac.getD endOfBlock default).weight
        + (rest.map (price coding.ac share)).sum := by
  have dc_le := coding.weight_dc_le (first - previous) (by
    rw [coefficientLimit] at near small
    omega)
  have ac_le := weight_acWords_le sound.cheap 0 rest
  rw [blockWords, List.map_cons, List.map_cons, List.sum_cons, List.sum_cons]
  omega

end ComponentCoding

/-- The code words of a block weigh no more than its allowance and its energy. -/
theorem weight_blockWords_le {coding : ComponentCoding} {share : Nat} (sound : coding.Sound share)
    (scale : Nat) {previous : Int} (near : previous.natAbs ≤ coefficientLimit) (samples : Block Int)
    (bounded : (cosineTransform samples).energy ≤ unitEnergy) :
    (scale * ((blockWords coding previous (coefficients coding samples)).map
        Codeword.weight).sum : Int)
      ≤ coding.allowance share scale + (cosineTransform samples).energy := by
  have words_le := sound.weight_le_prices near (sound.natAbs_inSteps_le bounded (0, 0))
    (Block.zigzagOrder.tail.map (coding.inSteps (cosineTransform samples)))
  have prices_le := sound.scale_mul_prices_le bounded scale
  rw [← List.map_cons, ← Block.zigzagOrder_eq, ← ComponentCoding.coefficients_eq] at words_le
  rw [ComponentCoding.allowance, Nat.cast_add, Nat.cast_mul, Nat.cast_add]
  have scaled := Int.mul_le_mul_of_nonneg_left (Int.ofNat_le.2 words_le) (Int.natCast_nonneg scale)
  rw [Nat.cast_add, Nat.cast_add] at scaled
  linarith

end Nv12Jpeg.Jpeg
