import ForgeDashboard.Number.Fixed
import ForgeDashboard.Number.Rounding

/-!
# A fixed number of significant digits

A double is written with one digit before the point, a fixed number of digits after it, and an
exponent; or, where the exponent is small, positionally with the same number of significant digits.
The exact binary value is rounded once, ties to the even last digit.

## Main definitions

* `significand` : the rounded digits and the exponent of the leading one.
* `Binary64.scientificMagnitude` : the text with an exponent.
* `Binary64.generalMagnitude` : the text in the form that suits the exponent.
-/

namespace ForgeDashboard

/-- The digits of a magnitude rounded to `places + 1` significant ones, with the exponent of the
leading one. -/
def significand (places : Nat) (q : Rat) : Nat × Int :=
  if q = 0 then (0, 0)
  else
    let order := decimalOrder q
    let units := (roundHalfEven (q / (10 : Rat) ^ (order - places))).toNat
    if units = Nat.pow 10 (places + 1) then (Nat.pow 10 places, order + 1) else (units, order)

/-- An exponent with its sign and at least two digits. -/
def exponentText (order : Int) : String :=
  let ds := toString order.natAbs
  (if order < 0 then "-" else "+") ++ (if ds.length < 2 then "0" ++ ds else ds)

/-- A text without the zeros at the end of its fraction. -/
def dropFractionZeros (s : String) : String :=
  if s.toList.contains '.' then
    let cs := s.toList.reverse.dropWhile (· == '0')
    String.ofList (if cs.head? = some '.' then cs.drop 1 else cs).reverse
  else s

/-- A numeral with a point, which is set at the end if there is none. -/
def keepPoint (s : String) : String := if s.toList.contains '.' then s else s ++ "."

namespace Binary64

/-- The magnitude of a double with an exponent.  A point that no digit follows may be kept. -/
def scientificMagnitude (places : Nat) (pointed : Bool) (q : Rat) : String :=
  let r := significand places q
  let digits := placesText places r.1
  (if pointed then keepPoint digits else digits) ++ "e" ++ exponentText r.2

/-- The magnitude of a double with a number of significant digits: positionally if the exponent of
the leading one is at least -4 and below that number.  Zeros at the end of the fraction, and the
point, may be kept. -/
def generalMagnitude (significant : Nat) (keepZeros : Bool) (q : Rat) : String :=
  let wanted := max significant 1
  let r := significand (wanted - 1) q
  let trim (s : String) : String := if keepZeros then keepPoint s else dropFractionZeros s
  if -4 ≤ r.2 ∧ r.2 < wanted then
    let places := ((wanted : Int) - 1 - r.2).toNat
    trim (placesText places (scaledPlaces places q))
  else trim (placesText (wanted - 1) r.1) ++ "e" ++ exponentText r.2

end Binary64

end ForgeDashboard
