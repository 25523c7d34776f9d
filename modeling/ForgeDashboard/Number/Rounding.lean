/-!
# Rounding a rational number

Sizes, durations and time-outs are computed on exact rational numbers and rounded once, at the
end of each operation.  This file holds the two ingredients that every such rounding shares: the
nearest integer with ties to the even neighbour, and the place of the leading digit of a positive
rational in base two and in base ten.

## Main definitions

* `roundHalfEven` : the nearest integer, a half going to the even neighbour.
* `binaryOrder` : the exponent of the leading binary digit.
* `decimalOrder` : the exponent of the leading decimal digit.
-/

namespace ForgeDashboard

/-- The integer nearest to a rational number; of two equally near ones, the even one. -/
def roundHalfEven (q : Rat) : Int :=
  let below := q.floor
  let rest := q - below
  if rest < 1 / 2 then below
  else if 1 / 2 < rest then below + 1
  else if below % 2 = 0 then below
  else below + 1

/-- The exponent `k` of the leading binary digit of a positive rational number:
`2 ^ k ≤ q < 2 ^ (k + 1)`.

The lengths of numerator and denominator leave two candidates, of which one comparison picks
the right one. -/
def binaryOrder (q : Rat) : Int :=
  let guess : Int := (q.num.natAbs.log2 : Int) - (q.den.log2 : Int)
  if q < (2 : Rat) ^ guess then guess - 1 else guess

/-- How many decimal digits a natural number has; zero has one. -/
def digitCount (n : Nat) : Nat := (Nat.toDigits 10 n).length

/-- The exponent `k` of the leading decimal digit of a positive rational number:
`10 ^ k ≤ q < 10 ^ (k + 1)`. -/
def decimalOrder (q : Rat) : Int :=
  let guess : Int := (digitCount q.num.natAbs : Int) - (digitCount q.den : Int)
  if q < (10 : Rat) ^ guess then guess - 1 else guess

end ForgeDashboard
