import Nv12Jpeg.CommandLine.Flag
import Nv12Jpeg.CommandLine.PictureSize
import Nv12Jpeg.Fault
import Nv12Jpeg.Implementation

/-!
# The values of options

How the text behind an option is read: as a path, a number within bounds, a picture size, or one
of the choices of implementations. A value that cannot be read is a usage error of its option.
-/

namespace Nv12Jpeg.CommandLine.Flag

/-- The path that a value gives. -/
def readPath (flag : Flag) (value : String) : Except UsageError String :=
  if value = "" then .error (.unfitValue flag value) else .ok value

/-- The number from `least` to `most` that a value gives; there may be a sign. -/
def readNumber (flag : Flag) (least most : Nat) (value : String) : Except UsageError Nat :=
  match Decimal.integer? value.toList with
  | some n => if least ≤ n ∧ n ≤ most then .ok n.toNat else .error (.malformedValue flag value)
  | none => .error (.malformedValue flag value)

/-- The 16-bit number from `least` on that a value gives. -/
def readWord16 (flag : Flag) (least : Nat) (value : String) : Except UsageError UInt16 :=
  UInt16.ofNat <$> flag.readNumber least (UInt16.size - 1) value

/-- The 32-bit number from `least` on that a value gives. -/
def readWord32 (flag : Flag) (least : Nat) (value : String) : Except UsageError UInt32 :=
  UInt32.ofNat <$> flag.readNumber least (UInt32.size - 1) value

/-- The 64-bit number that a value gives; there may be a plus sign, but no minus sign. -/
def readSize (flag : Flag) (value : String) : Except UsageError Nat :=
  match Decimal.natural? value.toList with
  | some n => if n < Size.bound then .ok n else .error (.malformedValue flag value)
  | none => .error (.malformedValue flag value)

/-- The choice of implementations that a value gives. -/
def readChoice (flag : Flag) (value : String) : Except UsageError BackendChoice :=
  if value = "auto" then .ok .auto
  else if value = "sw" then .ok .software
  else if value = "hw" then .ok .hardware
  else .error (.unfitValue flag value)

/-- The picture size that a value gives. -/
def readPictureSize (flag : Flag) (value : String) : Except UsageError PictureSize :=
  (PictureSize.ofChars value.toList).mapError fun _ => .malformedValue flag value

end Nv12Jpeg.CommandLine.Flag
