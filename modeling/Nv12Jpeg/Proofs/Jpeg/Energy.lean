import Mathlib.Tactic.Linarith
import Mathlib.Tactic.Positivity
import Mathlib.Tactic.Ring
import Nv12Jpeg.Jpeg.Scan

/-!
# The energy of a unit

The cosine transform keeps the sum of the squares of the samples, up to its scale and to what its
rounding adds. The samples of a colour cannot be far from the middle all three at once, so a unit
has a bounded sum of squares in its three blocks of coefficients together.

* `Block.energy` is the sum of the squares of a block;
* `energy_cosineTransform_le` — the transform multiplies the energy by about 64;
* `energy_ycbcr_le` — the three samples of a colour;
* `energy_unit_le` — the coefficients of the three blocks of a unit.
-/

namespace Nv12Jpeg.Jpeg

namespace Eight

variable {α β : Type}

/-- The sum of a function over eight values. -/
def total (f : α → Int) (e : Eight α) : Int :=
  f e.v0 + f e.v1 + f e.v2 + f e.v3 + f e.v4 + f e.v5 + f e.v6 + f e.v7

/-- The sum of the squares of eight values. -/
def energy (e : Eight Int) : Int := e.total (· ^ 2)

theorem energy_nonneg (e : Eight Int) : 0 ≤ e.energy := by
  rw [energy, total]
  positivity

theorem total_mono {f g : α → Int} (h : ∀ a, f a ≤ g a) (e : Eight α) : e.total f ≤ e.total g := by
  have h0 := h e.v0
  have h1 := h e.v1
  have h2 := h e.v2
  have h3 := h e.v3
  have h4 := h e.v4
  have h5 := h e.v5
  have h6 := h e.v6
  have h7 := h e.v7
  rw [total, total]
  omega

theorem total_add (f g : α → Int) (e : Eight α) :
    (e.total fun a => f a + g a) = e.total f + e.total g := by
  simp only [total]
  omega

theorem total_mul (c : Int) (f : α → Int) (e : Eight α) :
    (e.total fun a => c * f a) = c * e.total f := by
  simp only [total]
  ring

theorem total_const (c : Int) (e : Eight α) : (e.total fun _ => c) = 8 * c := by
  simp only [total]
  ring

/-- A bound for each value bounds the sums. -/
theorem total_bound {f g : α → Int} {c k m : Int} (h : ∀ a, c * f a ≤ k * g a + m) (e : Eight α) :
    c * e.total f ≤ k * e.total g + 8 * m := by
  have sums := total_mono h e
  rw [total_mul, total_add, total_mul, total_const] at sums
  exact sums

end Eight

namespace Block

variable {α β : Type}

/-- The sum of a function over the values of a block. -/
def total (f : α → Int) (block : Block α) : Int := Eight.total (Eight.total f) block

/-- The sum of the squares of a block. -/
def energy (block : Block Int) : Int := block.total (· ^ 2)

theorem total_add (f g : α → Int) (block : Block α) :
    (block.total fun a => f a + g a) = block.total f + block.total g := by
  simp only [total, Eight.total]
  omega

/-- A bound for each value bounds the sum of a block. -/
theorem total_le {f : α → Int} {m : Int} (h : ∀ a, f a ≤ m) (block : Block α) :
    block.total f ≤ 64 * m := by
  have rows : ∀ row : Eight α, row.total f ≤ 8 * m := fun row =>
    (Eight.total_mono h row).trans_eq (Eight.total_const m row)
  have sums := (Eight.total_mono rows block).trans_eq (Eight.total_const (8 * m) block)
  rw [total]
  omega

theorem energy_nonneg (block : Block Int) : 0 ≤ block.energy := by
  simp only [energy, total, Eight.total]
  positivity

/-- A block has the values of its rows exchanged for columns. -/
theorem energy_transpose (block : Block Int) : block.transpose.energy = block.energy := by
  simp only [energy, total, Eight.total, transpose, Eight.ofFn, Eight.map, Eight.get]
  ring

/-- A bound for the energy of each row bounds that of a block. -/
theorem energy_map_bound {f g : Eight Int → Eight Int} {c k m : Int}
    (h : ∀ row, c * (f row).energy ≤ k * (g row).energy + m) (block : Block Int) :
    c * energy (Eight.map f block) ≤ k * energy (Eight.map g block) + 8 * m :=
  Eight.total_bound h block

end Block

/-! ## The cosine transform -/

/-- The results of either pass before they are divided and rounded. -/
def unrounded (s : Eight Int) : Eight Int where
  v0 := 8192 * (s.v0 + s.v1 + s.v2 + s.v3 + s.v4 + s.v5 + s.v6 + s.v7)
  v1 := 11363 * (s.v0 - s.v7) + 9633 * (s.v1 - s.v6) + 6437 * (s.v2 - s.v5) + 2260 * (s.v3 - s.v4)
  v2 := 10703 * (s.v0 + s.v7 - s.v3 - s.v4) + 4433 * (s.v1 + s.v6 - s.v2 - s.v5)
  v3 := 9633 * (s.v0 - s.v7) - 2259 * (s.v1 - s.v6) - 11362 * (s.v2 - s.v5) - 6436 * (s.v3 - s.v4)
  v4 := 8192 * (s.v0 + s.v7 + s.v3 + s.v4 - s.v1 - s.v6 - s.v2 - s.v5)
  v5 := 6437 * (s.v0 - s.v7) - 11362 * (s.v1 - s.v6) + 2261 * (s.v2 - s.v5) + 9633 * (s.v3 - s.v4)
  v6 := 4433 * (s.v0 + s.v7 - s.v3 - s.v4) - 10704 * (s.v1 + s.v6 - s.v2 - s.v5)
  v7 := 2260 * (s.v0 - s.v7) - 6436 * (s.v1 - s.v6) + 9633 * (s.v2 - s.v5) - 11363 * (s.v3 - s.v4)

/-- The sums of opposite values go into the even results. -/
theorem energy_even_le (t0 t1 t2 t3 : Int) :
    (8192 * (t0 + t1 + t2 + t3)) ^ 2 + (10703 * (t0 - t3) + 4433 * (t1 - t2)) ^ 2
        + (8192 * (t0 + t3 - t1 - t2)) ^ 2 + (4433 * (t0 - t3) - 10704 * (t1 - t2)) ^ 2
      ≤ 268500000 * (t0 ^ 2 + t1 ^ 2 + t2 ^ 2 + t3 ^ 2) := by
  nlinarith [sq_nonneg ((t0 - t3) + (t1 - t2)), sq_nonneg (t0 - t3), sq_nonneg (t1 - t2),
    sq_nonneg (t0 + t3), sq_nonneg (t1 + t2)]

/-- The differences of opposite values go into the odd results. -/
theorem energy_odd_le (u0 u1 u2 u3 : Int) :
    (11363 * u0 + 9633 * u1 + 6437 * u2 + 2260 * u3) ^ 2
        + (9633 * u0 - 2259 * u1 - 11362 * u2 - 6436 * u3) ^ 2
        + (6437 * u0 - 11362 * u1 + 2261 * u2 + 9633 * u3) ^ 2
        + (2260 * u0 - 6436 * u1 + 9633 * u2 - 11363 * u3) ^ 2
      ≤ 268500000 * (u0 ^ 2 + u1 ^ 2 + u2 ^ 2 + u3 ^ 2) := by
  nlinarith [sq_nonneg (u0 - u1), sq_nonneg (u0 - u2), sq_nonneg (u0 - u3), sq_nonneg (u1 - u2),
    sq_nonneg (u1 - u3), sq_nonneg (u2 - u3), sq_nonneg (u0 + u1), sq_nonneg (u0 + u2),
    sq_nonneg (u0 + u3), sq_nonneg (u1 + u2), sq_nonneg (u1 + u3), sq_nonneg (u2 + u3)]

theorem energy_unrounded_le (s : Eight Int) : (unrounded s).energy ≤ 537000000 * s.energy := by
  have even := energy_even_le (s.v0 + s.v7) (s.v1 + s.v6) (s.v2 + s.v5) (s.v3 + s.v4)
  have odd := energy_odd_le (s.v0 - s.v7) (s.v1 - s.v6) (s.v2 - s.v5) (s.v3 - s.v4)
  simp only [Eight.energy, Eight.total, unrounded]
  linarith

/-- Results that were divided and rounded: multiplied again, they are off by a divisor at most. -/
def Near (divisor : Int) (precise rounded : Eight Int) : Prop :=
  ∀ i, |divisor * rounded.get i - precise.get i| ≤ divisor

theorem rows_near (s : Eight Int) :
    Near 2048 (unrounded (s.map (· - 128))) (CosinePass.rows.apply s) := by
  intro i
  rw [abs_le]
  match i with
  | 0 | 1 | 2 | 3 | 4 | 5 | 6 | _ + 7 =>
    simp only [Eight.get, unrounded, Eight.map, CosinePass.apply, CosinePass.rows]
    omega

theorem columns_near (s : Eight Int) : Near 32768 (unrounded s) (CosinePass.columns.apply s) := by
  intro i
  rw [abs_le]
  match i with
  | 0 | 1 | 2 | 3 | 4 | 5 | 6 | _ + 7 =>
    simp only [Eight.get, unrounded, CosinePass.apply, CosinePass.columns]
    omega

/-- A value that is off a little has hardly more than the square it should have. The larger `n`, the
less of that square is added and the more of the square of the error. -/
theorem sq_le_of_off {n value precise error : Int} (n_nonneg : 0 ≤ n)
    (off : |value - precise| ≤ error) :
    n * value ^ 2 ≤ (n + 1) * precise ^ 2 + n * (n + 1) * error ^ 2 := by
  have square : (value - precise) ^ 2 ≤ error ^ 2 :=
    sq_le_sq' (neg_le_of_abs_le off) (le_of_abs_le off)
  have mixed := sq_nonneg (precise - n * (value - precise))
  have scaled := mul_le_mul_of_nonneg_left square (mul_nonneg n_nonneg (by omega : 0 ≤ n + 1))
  calc n * value ^ 2
    _ = (n + 1) * precise ^ 2 + n * (n + 1) * (value - precise) ^ 2
          - (precise - n * (value - precise)) ^ 2 := by ring
    _ ≤ (n + 1) * precise ^ 2 + n * (n + 1) * error ^ 2 := by linarith

theorem energy_le_of_near {divisor : Int} {precise rounded : Eight Int}
    (near : Near divisor precise rounded) :
    1000 * divisor ^ 2 * rounded.energy ≤ 1001 * precise.energy + 8008000 * divisor ^ 2 := by
  have thousand : (0 : Int) ≤ 1000 := by decide
  have h0 := sq_le_of_off thousand (near 0)
  have h1 := sq_le_of_off thousand (near 1)
  have h2 := sq_le_of_off thousand (near 2)
  have h3 := sq_le_of_off thousand (near 3)
  have h4 := sq_le_of_off thousand (near 4)
  have h5 := sq_le_of_off thousand (near 5)
  have h6 := sq_le_of_off thousand (near 6)
  have h7 := sq_le_of_off thousand (near 7)
  simp only [Eight.get] at h0 h1 h2 h3 h4 h5 h6 h7
  simp only [Eight.energy, Eight.total]
  linarith

theorem energy_rows_le (s : Eight Int) :
    100 * (CosinePass.rows.apply s).energy ≤ 12816 * (s.map (· - 128)).energy + 800800 := by
  have rounded := energy_le_of_near (rows_near s)
  have precise := energy_unrounded_le (s.map (· - 128))
  have nonneg := (s.map (· - 128)).energy_nonneg
  linarith

theorem energy_columns_le (s : Eight Int) :
    10000 * (CosinePass.columns.apply s).energy ≤ 5007 * s.energy + 80080000 := by
  have rounded := energy_le_of_near (columns_near s)
  have precise := energy_unrounded_le s
  have nonneg := s.energy_nonneg
  linarith

/-- Coefficients that are eight times too large have 64 times the energy of the samples, up to what
rounding adds. -/
theorem energy_cosineTransform_le (samples : Block Int) :
    1000 * (cosineTransform samples).energy
      ≤ 64170 * (samples.map (· - 128)).energy + 96142000 := by
  have rows := Block.energy_map_bound energy_rows_le samples
  have columns := Block.energy_map_bound (g := id) energy_columns_le
    (Block.transpose (Eight.map CosinePass.rows.apply samples))
  have same : Block.energy
        (Eight.map id (Block.transpose (Eight.map CosinePass.rows.apply samples)))
      = Block.energy (Eight.map CosinePass.rows.apply samples) := Block.energy_transpose _
  have nonneg : 0 ≤ (samples.map (· - 128)).energy := Block.energy_nonneg _
  rw [cosineTransform, Block.energy_transpose]
  rw [same] at columns
  have shifted : Block.energy (Eight.map (fun s => s.map (· - 128)) samples)
      = (samples.map (· - 128)).energy := rfl
  rw [shifted] at rows
  linarith

/-! ## The samples of a colour -/

/-- What the samples would be without rounding, for a colour by its distance from the middle. -/
theorem energy_directions_le {r g b : Int} (hr : r ^ 2 ≤ 255 ^ 2) (hg : g ^ 2 ≤ 255 ^ 2)
    (hb : b ^ 2 ≤ 255 ^ 2) :
    (19595 * r + 38469 * g + 7471 * b) ^ 2 + (-11059 * r - 21709 * g + 32768 * b) ^ 2
        + (32768 * r - 27439 * g - 5329 * b) ^ 2 ≤ 6968211909 * 255 ^ 2 := by
  -- The worst are yellow and blue, where red and green go together and blue against them.
  linarith [sq_nonneg (r - g), sq_nonneg (r + b), sq_nonneg (g + b)]

/-- The three samples of a colour are not all far from the middle. -/
theorem energy_ycbcr_le (colour : Rgb) :
    ((ycbcr colour).y - 128) ^ 2 + ((ycbcr colour).cb - 128) ^ 2 + ((ycbcr colour).cr - 128) ^ 2
      ≤ 26800 := by
  have red_lt := colour.red.toNat_lt
  have green_lt := colour.green.toNat_lt
  have blue_lt := colour.blue.toNat_lt
  obtain ⟨r, r_eq⟩ : ∃ r : Int, r = 2 * colour.red.toNat - 255 := ⟨_, rfl⟩
  obtain ⟨g, g_eq⟩ : ∃ g : Int, g = 2 * colour.green.toNat - 255 := ⟨_, rfl⟩
  obtain ⟨b, b_eq⟩ : ∃ b : Int, b = 2 * colour.blue.toNat - 255 := ⟨_, rfl⟩
  have y : |131072 * ((ycbcr colour).y - 128) - (19595 * r + 38469 * g + 7471 * b)| ≤ 131327 := by
    simp only [abs_le, ycbcr]
    omega
  have cb : |131072 * ((ycbcr colour).cb - 128) - (-11059 * r - 21709 * g + 32768 * b)|
      ≤ 65536 := by
    simp only [abs_le, ycbcr]
    omega
  have cr : |131072 * ((ycbcr colour).cr - 128) - (32768 * r - 27439 * g - 5329 * b)| ≤ 65536 := by
    simp only [abs_le, ycbcr]
    omega
  have directions := energy_directions_le (sq_le_sq' (a := r) (b := 255) (by omega) (by omega))
    (sq_le_sq' (a := g) (b := 255) (by omega) (by omega))
    (sq_le_sq' (a := b) (b := 255) (by omega) (by omega))
  have scale : (0 : Int) ≤ 132 := by decide
  have y_le := sq_le_of_off scale y
  have cb_le := sq_le_of_off scale cb
  have cr_le := sq_le_of_off scale cr
  linarith

/-- The most energy that the three blocks of a unit have together. -/
def unitEnergy : Nat := 110352810

/-- The coefficients of the three blocks of a unit. -/
theorem energy_unit_le (colours : Block Rgb) :
    let unit := colours.map ycbcr
    (cosineTransform (unit.map YCbCr.y)).energy + (cosineTransform (unit.map YCbCr.cb)).energy
        + (cosineTransform (unit.map YCbCr.cr)).energy ≤ unitEnergy := by
  intro unit
  have y := energy_cosineTransform_le (unit.map YCbCr.y)
  have cb := energy_cosineTransform_le (unit.map YCbCr.cb)
  have cr := energy_cosineTransform_le (unit.map YCbCr.cr)
  have samples := Block.total_le energy_ycbcr_le colours
  rw [Block.total_add, Block.total_add] at samples
  have y_eq : Block.energy ((unit.map YCbCr.y).map (· - 128))
      = colours.total fun colour => ((ycbcr colour).y - 128) ^ 2 := rfl
  have cb_eq : Block.energy ((unit.map YCbCr.cb).map (· - 128))
      = colours.total fun colour => ((ycbcr colour).cb - 128) ^ 2 := rfl
  have cr_eq : Block.energy ((unit.map YCbCr.cr).map (· - 128))
      = colours.total fun colour => ((ycbcr colour).cr - 128) ^ 2 := rfl
  rw [y_eq] at y
  rw [cb_eq] at cb
  rw [cr_eq] at cr
  rw [unitEnergy]
  omega

end Nv12Jpeg.Jpeg
