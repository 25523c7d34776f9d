import ForgeDashboard.Number.Binary64

/-!
# Numbers of either kind

Byte counts, bases and durations arrive either as integers of any size or as doubles.  Comparison
between the two kinds is exact: it never rounds the integer.  Conversion and division can fail, and
each cause of failure has a name.

## Main definitions

* `Num` : an integer or a double.
* `Num.lt`, `Num.le` : exact comparison.
* `Num.truncate`, `Num.toBinary64`, `Num.sub` : conversion and subtraction.
* `Num.isTooLong` : the integers whose numerals are too long to be written.
* `ArithmeticError` : why an operation has no result.
-/

namespace ForgeDashboard

/-- An integer or a double. -/
inductive Num where
  | int (n : Int)
  | float (x : Binary64)
  deriving DecidableEq

/-- Why an operation on numbers has no result. -/
inductive ArithmeticError where
  /-- An integer was asked of not-a-number. -/
  | integerOfNan
  /-- An integer was asked of an infinity. -/
  | integerOfInfinity
  /-- An integer lies beyond every finite double. -/
  | tooLargeForDouble
  /-- A double was divided by zero. -/
  | divisionByZero
  deriving DecidableEq

namespace Num

/-- The place of a number on the line; not-a-number has none. -/
def line? : Num → Option Line
  | .int n => some (.point n)
  | .float x => x.line?

/-- Exact numerical order, false where not-a-number takes part. -/
def lt (a b : Num) : Bool :=
  match a.line?, b.line? with
  | some p, some q => p.lt q
  | _, _ => false

/-- Exact numerical order or equality, false where not-a-number takes part. -/
def le (a b : Num) : Bool :=
  match a.line?, b.line? with
  | some p, some q => !q.lt p
  | _, _ => false

/-- Is the number below zero? -/
def isNegative (a : Num) : Bool := a.lt (.int 0)

/-- The integer part, fraction dropped toward zero. -/
def truncate : Num → Except ArithmeticError Int
  | .int n => .ok n
  | .float .nan => .error .integerOfNan
  | .float (.inf _) => .error .integerOfInfinity
  | .float (.finite s m e _) =>
    let whole := (Binary64.magnitude m e).floor
    .ok (if s then -whole else whole)

/-- The nearest double. -/
def toBinary64 : Num → Except ArithmeticError Binary64
  | .int n => match Binary64.ofInt? n with
    | some x => .ok x
    | none => .error .tooLargeForDouble
  | .float x => .ok x

/-- The difference: exact between integers, otherwise a rounded difference of doubles. -/
def sub : Num → Num → Except ArithmeticError Num
  | .int a, .int b => .ok (.int (a - b))
  | a, b => do
    let x ← a.toBinary64
    let y ← b.toBinary64
    return .float (x - y)

/-- The most digits of a numeral that is written. -/
def numeralLimit : Nat := 4300

/-- Is the numeral of the number too long to be written?  That of a double never is. -/
def isTooLong : Num → Bool
  | .int n => decide (numeralLimit < digitCount n.natAbs)
  | .float _ => false

end Num

/-- A double divided by a number of either kind.  The divisor is first converted to a double. -/
def Binary64.divBy (x : Binary64) (d : Num) : Except ArithmeticError Binary64 := do
  let y ← d.toBinary64
  if y.isZero then .error .divisionByZero else return x.div y

end ForgeDashboard
