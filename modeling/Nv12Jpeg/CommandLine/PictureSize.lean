import Nv12Jpeg.Text.Numeral
import Nv12Jpeg.Text.Quoted

/-!
# Picture sizes in arguments

A picture size is written `640x480`: two dimensions with an `x` between them, in either case.

* `PictureSize.ofChars` reads a size; the first separator divides the text, and blanks around a
  dimension do not count;
* `PictureSize.text` writes one.
-/

namespace Nv12Jpeg.CommandLine

/-- The size of a picture, in pixels. -/
structure PictureSize where
  width : UInt16
  height : UInt16
  deriving DecidableEq, Repr

namespace PictureSize

/-- A size as it is written in arguments. -/
def text (size : PictureSize) : String := s!"{size.width}x{size.height}"

/-- Why a text gives no size. -/
inductive Defect where
  | noSeparator
  /-- A part of the text is no number from 1 to 65535. -/
  | badDimension (part : List Char)
  deriving DecidableEq, Repr

/-- The text of a defect of `text`. -/
def Defect.message (text : List Char) : Defect → String
  | noSeparator => s!"expected WIDTHxHEIGHT, got {String.ofList text}"
  | badDimension part =>
    s!"invalid dimension {String.ofList (Quoted.encode part)} in {String.ofList text}"

/-- Whether a character stands between the dimensions. -/
def isSeparator (c : Char) : Bool := c == 'x' || c == 'X'

/-- The dimension that a part of a text gives. -/
def dimension? (part : List Char) : Option UInt16 :=
  match Decimal.natural? (Blank.trim part) with
  | some n => if 1 ≤ n ∧ n < UInt16.size then some (UInt16.ofNat n) else none
  | none => none

/-- The dimension that a part of a text gives, or the defect of that part. -/
def dimension (part : List Char) : Except Defect UInt16 :=
  match dimension? part with
  | some n => .ok n
  | none => .error (.badDimension part)

/-- The size that a text gives. Of two defects the one in front is named. -/
def ofChars (text : List Char) : Except Defect PictureSize :=
  let front := text.takeWhile fun c => !isSeparator c
  match text.dropWhile fun c => !isSeparator c with
  | [] => .error .noSeparator
  | _ :: rest => do
    let width ← dimension front
    let height ← dimension rest
    return ⟨width, height⟩

end PictureSize

end Nv12Jpeg.CommandLine
