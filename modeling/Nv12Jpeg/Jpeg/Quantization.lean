import Nv12Jpeg.Jpeg.Block

/-!
# Quantisation

The step by which each coefficient is divided comes from a base table, scaled by the quality:
50 keeps the table, 100 makes every step 1, and low qualities stretch the steps up to 255.
-/

namespace Nv12Jpeg.Jpeg

/-- The divisors of one component. -/
abbrev QuantizationTable := Block Nat

namespace QuantizationTable

/-- The usual steps for luma. -/
def lumaBase : QuantizationTable :=
  ⟨⟨16, 11, 10, 16, 24, 40, 51, 61⟩,
   ⟨12, 12, 14, 19, 26, 58, 60, 55⟩,
   ⟨14, 13, 16, 24, 40, 57, 69, 56⟩,
   ⟨14, 17, 22, 29, 51, 87, 80, 62⟩,
   ⟨18, 22, 37, 56, 68, 109, 103, 77⟩,
   ⟨24, 35, 55, 64, 81, 104, 113, 92⟩,
   ⟨49, 64, 78, 87, 103, 121, 120, 101⟩,
   ⟨72, 92, 95, 98, 112, 100, 103, 99⟩⟩

/-- The usual steps for chroma. -/
def chromaBase : QuantizationTable :=
  ⟨⟨17, 18, 24, 47, 99, 99, 99, 99⟩,
   ⟨18, 21, 26, 66, 99, 99, 99, 99⟩,
   ⟨24, 26, 56, 99, 99, 99, 99, 99⟩,
   ⟨47, 66, 99, 99, 99, 99, 99, 99⟩,
   ⟨99, 99, 99, 99, 99, 99, 99, 99⟩,
   ⟨99, 99, 99, 99, 99, 99, 99, 99⟩,
   ⟨99, 99, 99, 99, 99, 99, 99, 99⟩,
   ⟨99, 99, 99, 99, 99, 99, 99, 99⟩⟩

/-- The factor in percent that a quality stands for; qualities are taken as 1 to 100. -/
def percent (quality : Nat) : Nat :=
  let quality := min (max quality 1) 100
  if quality < 50 then 5000 / quality else 200 - 2 * quality

/-- One step at a quality, rounded to the nearest and kept in a byte above zero. -/
def scaled (quality step : Nat) : Nat :=
  min (max ((step * percent quality + 50) / 100) 1) 255

/-- A base table at a quality. -/
def atQuality (base : QuantizationTable) (quality : Nat) : QuantizationTable :=
  Block.map (scaled quality) base

end QuantizationTable

/-- A coefficient in steps: eight times too large as the transform leaves it, it loses the last
three bits toward zero and is rounded to the nearest multiple of `step`, halves away from zero. -/
def quantize (coefficient : Int) (step : Nat) : Int :=
  let value := coefficient.tdiv 8
  let magnitude := (2 * value.natAbs + step) / (2 * step)
  if value < 0 then -(magnitude : Int) else magnitude

end Nv12Jpeg.Jpeg
