import ForgeDashboard.Fault
import ForgeDashboard.Number.Numeral

/-!
# Readings

A reading of the host, of an installed package or of the database gives a value or fails.

## Main definitions

* `Reading` : a value or a failure.
* `Value.toInteger` : the integer that a reported value stands for.
* `Value.subtract` : the difference of two reported values.
-/

namespace ForgeDashboard

/-- The result of reading something outside the program. -/
abbrev Reading := Except Fault Value

namespace Value

/-- The integer that a value stands for: a number without its fraction, a truth value as one or
zero, or a text that is a numeral. -/
def toInteger : Value → Except Fault Int
  | .num n => n.truncate.mapError .arithmetic
  | .flag b => .ok (if b then 1 else 0)
  | .text s => match readInteger? s with
    | some n => .ok n
    | none => .error (.invalidNumeral s)
  | v => .error (.numberExpected v)

/-- The number that a value is, truth values counting as one and zero. -/
def toNum? : Value → Option Num
  | .num n => some n
  | .flag b => some (.int (if b then 1 else 0))
  | _ => none

/-- The difference of two values that are both numbers. -/
def subtract (left right : Value) : Except Fault Num :=
  match left.toNum?, right.toNum? with
  | some a, some b => (a.sub b).mapError .arithmetic
  | _, _ => .error (.notSubtractable left right)

end Value

end ForgeDashboard
