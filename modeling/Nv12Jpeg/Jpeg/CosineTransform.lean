import Nv12Jpeg.Jpeg.Block

/-!
# The forward cosine transform

An 8-point transform in fixed point with 13 fractional bits, applied to the rows of a block and
then to its columns. Samples run from 0 to 255; the level shift to signed values is part of the
pass over the rows, which keeps two more fractional bits; the pass over the columns drops them.
-/

namespace Nv12Jpeg.Jpeg

/-- How one direction of the transform scales its results. -/
structure CosinePass where
  /-- What the level shift takes from the sum of eight samples. -/
  bias : Int
  /-- Scales the first and the fifth result, which need no multiplication. -/
  plain : Int → Int
  /-- What rounds the third and the seventh result. -/
  evenRounding : Int
  /-- The divisor of the results that come from multiplications. -/
  divisor : Int

namespace CosinePass

/-- Along the rows. -/
def rows : CosinePass where
  bias := 1024
  plain := fun x => x * 4
  evenRounding := 1024
  divisor := 2048

/-- Along the columns of the result. -/
def columns : CosinePass where
  bias := 0
  plain := fun x => (x + 2) / 4
  evenRounding := 16384
  divisor := 32768

/-- Transforms eight values; quotients are rounded down. -/
def apply (pass : CosinePass) (s : Eight Int) : Eight Int :=
  let t0 := s.v0 + s.v7
  let t1 := s.v1 + s.v6
  let t2 := s.v2 + s.v5
  let t3 := s.v3 + s.v4
  let u0 := s.v0 - s.v7
  let u1 := s.v1 - s.v6
  let u2 := s.v2 - s.v5
  let u3 := s.v3 - s.v4
  let e0 := t0 + t3
  let e1 := t1 + t2
  let e2 := t0 - t3
  let e3 := t1 - t2
  let even := (e2 + e3) * 4433 + pass.evenRounding
  let odd := (u0 + u1 + u2 + u3) * 9633 + 1024
  let a := odd - (u0 + u2) * 3196
  let b := odd - (u1 + u3) * 16069
  let c := -(u0 + u3) * 7373
  let d := -(u1 + u2) * 20995
  { v0 := pass.plain (e0 + e1 - pass.bias)
    v1 := (u0 * 12299 + c + a) / pass.divisor
    v2 := (even + e2 * 6270) / pass.divisor
    v3 := (u1 * 25172 + d + b) / pass.divisor
    v4 := pass.plain (e0 - e1)
    v5 := (u2 * 16819 + d + a) / pass.divisor
    v6 := (even - e3 * 15137) / pass.divisor
    v7 := (u3 * 2446 + c + b) / pass.divisor }

end CosinePass

/-- The coefficients of a block of samples, eight times too large. -/
def cosineTransform (samples : Block Int) : Block Int :=
  let alongRows := Eight.map CosinePass.rows.apply samples
  let alongColumns := Eight.map CosinePass.columns.apply (Block.transpose alongRows)
  Block.transpose alongColumns

end Nv12Jpeg.Jpeg
