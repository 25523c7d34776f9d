import ForgeDashboard.Fault
import ForgeDashboard.Number.Fixed

/-!
# Sizes in bytes

A size below the base is shown as a whole number of bytes.  Any other size is divided by the base
until it is below it or the last unit is reached, and shown with one decimal, which is dropped when
it is zero.  A quotient that rounds up to the base is shown in the next unit.

## Main definitions

* `byteUnits` : the units.
* `scaleDown` : the repeated division.
* `promote` : the rounding to one decimal, with the step to the next unit.
* `sizeText` : the text of a size.
-/

namespace ForgeDashboard

/-- The units of size, each a base times the one before. -/
def byteUnits : List String := ["B", "KB", "MB", "GB", "TB", "PB", "EB"]

/-- Divides a value by the base while it is at least the base and larger units are left.  The
result is the quotient and the number of larger units still left. -/
def scaleDown (base : Num) : Nat → Binary64 → Except ArithmeticError (Binary64 × Nat)
  | 0, value => .ok (value, 0)
  | larger + 1, value =>
    if base.le (.float value) then do
      let quotient ← value.divBy base
      scaleDown base larger quotient
    else .ok (value, larger + 1)

/-- Rounds a value to one decimal.  If it rounds up to the base and a larger unit is left, it is
divided and rounded once more. -/
def promote (base : Num) (value : Binary64) (larger : Nat) :
    Except ArithmeticError (Binary64 × Nat) :=
  let rounded := value.roundPlaces 1
  match larger with
  | left + 1 =>
    if base.le (.float rounded) then do
      let quotient ← rounded.divBy base
      return (quotient.roundPlaces 1, left)
    else .ok (rounded, left + 1)
  | 0 => .ok (rounded, 0)

/-- Drops a zero that is the only decimal. -/
def dropZeroTenth (cs : List Char) : List Char :=
  match cs.reverse with
  | '0' :: '.' :: whole => whole.reverse
  | _ => cs

/-- The number and the unit of a size that is not below the base, where `larger` units are left. -/
def scaledText (value : Binary64) (larger : Nat) : String :=
  String.ofList (dropZeroTenth (value.fixedText 1).toList) ++ " " ++
    byteUnits.getD (byteUnits.length - 1 - larger) ""

/-- A size in bytes, in the largest unit of which it has at least one. -/
def sizeText (size base : Num) : Except Fault String :=
  if size.isNegative then .error (.negativeSize size)
  else Except.mapError Fault.arithmetic <|
    if size.lt base then do
      let whole ← size.truncate
      return toString whole ++ " B"
    else do
      let value ← size.toBinary64
      let scaled ← scaleDown base (byteUnits.length - 1) value
      let shown ← promote base scaled.1 scaled.2
      return scaledText shown.1 shown.2

/-- The base of the size units where none is given. -/
def binaryBase : Num := .int 1024

end ForgeDashboard
