import ForgeDashboard.Number.Binary64

/-!
# A fixed number of decimal places

Sizes and time-outs are shown with one decimal.  Both functions here round the exact binary value
once, ties to the even last digit: one gives the text, the other the double nearest to the rounded
decimal.

## Main definitions

* `Binary64.scaledPlaces` : the rounded number of units of the last place.
* `Binary64.fixedText` : the text with a fixed number of places.
* `Binary64.roundPlaces` : the double nearest to the rounded decimal.
-/

namespace ForgeDashboard

/-- The number of units of `10 ^ (-places)` nearest to a magnitude, ties to the even one. -/
def scaledPlaces (places : Nat) (q : Rat) : Nat := (roundHalfEven (q * (10 : Rat) ^ places)).toNat

/-- A number of units of the last of some decimal places, as text. -/
def placesText (places units : Nat) : String :=
  let scale := Nat.pow 10 places
  if places = 0 then toString units
  else
    let fraction := toString (units % scale)
    let zeros := String.ofList (List.replicate (places - fraction.length) '0')
    toString (units / scale) ++ "." ++ zeros ++ fraction

namespace Binary64

/-- The text of a double with a fixed number of decimal places. -/
def fixedText (places : Nat) : Binary64 → String
  | .nan => "nan"
  | .inf s => if s then "-inf" else "inf"
  | .finite s m e _ =>
    (if s then "-" else "") ++ placesText places (scaledPlaces places (magnitude m e))

/-- The double nearest to the value rounded to some decimal places.  The sign of a zero stays, and
so do infinities and not-a-number. -/
def roundPlaces (places : Nat) : Binary64 → Binary64
  | .finite s m e _ =>
    ofMagnitude s (scaledPlaces places (magnitude m e) / (10 : Rat) ^ places)
  | x => x

end Binary64

end ForgeDashboard
