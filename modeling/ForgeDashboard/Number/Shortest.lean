import ForgeDashboard.Number.Binary64

/-!
# The fewest digits that identify a double

A double is written with the fewest decimal digits from which rounding gives the same double back;
of several such decimals of that length the nearest is taken.  The digits are found on the decimal
grids of 1, 2, ... 17 digits: on each grid only the two neighbours of the value can be nearest, and
17 digits always suffice.

## Main definitions

* `Decimal` : a natural number of units of a power of ten.
* `Decimal.shortest` : the fewest digits that round to a given magnitude.
* `FloatLayout`, `FloatLayout.text` : how the digits are laid out.
* `Binary64.text` : the text of a double in this program's output.
-/

namespace ForgeDashboard

/-- The decimal `digits * 10 ^ scale`. -/
structure Decimal where
  digits : Nat
  scale : Int
  deriving DecidableEq

namespace Decimal

/-- The value of a decimal. -/
def toRat (d : Decimal) : Rat := d.digits * (10 : Rat) ^ d.scale

/-- The two neighbours of a magnitude among the multiples of `10 ^ scale`, the nearer one first;
of two equally near ones the one with an even last digit comes first. -/
def neighbours (q : Rat) (scale : Int) : List Decimal :=
  let units := q / (10 : Rat) ^ scale
  let below := units.floor.toNat
  let nearest := (roundHalfEven units).toNat
  if nearest = below then [⟨below, scale⟩, ⟨below + 1, scale⟩]
  else [⟨below + 1, scale⟩, ⟨below, scale⟩]

/-- Does rounding the decimal to a double give the given magnitude? -/
def readsBackTo (q : Rat) (d : Decimal) : Bool :=
  (Binary64.ofMagnitude false d.toRat).toRat? == some q

/-- Ten units are one unit of the next power of ten.  On the grid of one digit, the neighbour above
a magnitude that starts with a nine can have ten units. -/
def carry (d : Decimal) : Decimal := if d.digits = 10 then ⟨1, d.scale + 1⟩ else d

/-- The decimal with the fewest digits that rounds to the magnitude `q` of a double, the nearest one
of that length.  Zero has the single digit `0`. -/
def shortest (q : Rat) : Decimal :=
  if q = 0 then ⟨0, 0⟩
  else
    let order := decimalOrder q
    let candidates := (List.range 17).flatMap fun (n : Nat) => neighbours q (order - n)
    match candidates.find? (readsBackTo q) with
    | some d => d.carry
    | none => ⟨(roundHalfEven (q / (10 : Rat) ^ (order - 16))).toNat, order - 16⟩

/-- The exponent of the leading digit. -/
def order (d : Decimal) : Int := (digitCount d.digits : Int) - 1 + d.scale

end Decimal

/-- The decisions that lay out the digits of a double. -/
structure FloatLayout where
  /-- From this exponent of the leading digit on, digits stand around a point. -/
  positionalFrom : Int
  /-- Up to below this exponent. -/
  positionalBelow : Int
  /-- What follows a whole number written positionally. -/
  wholeTail : String
  /-- What separates digits and exponent otherwise. -/
  exponentMark : String
  /-- The least number of digits of the exponent, which always has a sign. -/
  exponentWidth : Nat

/-- Zeros on the left up to a given width. -/
def padZeros (width : Nat) (s : String) : String :=
  String.ofList (List.replicate (width - s.length) '0') ++ s

/-- A run of zeros. -/
def zeros (n : Nat) : String := String.ofList (List.replicate n '0')

/-- Lays out the digits of a decimal. -/
def FloatLayout.text (layout : FloatLayout) (d : Decimal) : String :=
  let ds := Nat.toDigits 10 d.digits
  let order := d.order
  if layout.positionalFrom ≤ order ∧ order < layout.positionalBelow then
    if 0 ≤ d.scale then String.ofList ds ++ zeros d.scale.toNat ++ layout.wholeTail
    else if 0 ≤ order then
      let whole := order.toNat + 1
      String.ofList (ds.take whole) ++ "." ++ String.ofList (ds.drop whole)
    else "0." ++ zeros ((-order).toNat - 1) ++ String.ofList ds
  else
    let head := String.ofList (ds.take 1)
    let rest := ds.drop 1
    let mantissa := if rest.isEmpty then head else head ++ "." ++ String.ofList rest
    let sign := if order < 0 then "-" else "+"
    mantissa ++ layout.exponentMark ++ sign ++
      padZeros layout.exponentWidth (toString order.natAbs)

/-- Doubles are written positionally, with at least one decimal, when the leading digit stands
between the fourth decimal and the sixteenth digit before the point, otherwise with a signed
exponent of at least two digits. -/
def floatLayout : FloatLayout where
  positionalFrom := -4
  positionalBelow := 16
  wholeTail := ".0"
  exponentMark := "e"
  exponentWidth := 2

/-- The text of a double: the fewest digits that identify it, in this program's layout. -/
def Binary64.text : Binary64 → String
  | .nan => "nan"
  | .inf s => if s then "-inf" else "inf"
  | .finite s m e _ =>
    (if s then "-" else "") ++ floatLayout.text (Decimal.shortest (Binary64.magnitude m e))

end ForgeDashboard
