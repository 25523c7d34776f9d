import ForgeDashboard.Number.Rounding

/-!
# Double-precision numbers

Time-outs, uptimes and scaled sizes are double-precision binary numbers.  A finite one is a sign,
a mantissa of at most 53 binary digits and an exponent; its value is an exact rational number.
Every operation computes on these rational values and rounds the exact result once, to the nearest
double, ties to the even mantissa.  A result too large for the format becomes an infinity.

## Main definitions

* `Binary64` : the doubles, with signed zeros, infinities and one not-a-number.
* `Binary64.ofMagnitude`, `Binary64.ofRat` : rounding a rational number.
* `Binary64.add`, `Binary64.sub`, `Binary64.div` : arithmetic.
* `Line` : the number line with two ends, on which doubles are compared.
-/

namespace ForgeDashboard

/-- Mantissa and exponent of a finite double.  Above the least exponent the mantissa has exactly
53 binary digits, so each number has one representation. -/
def IsCanonical (mantissa : Nat) (exponent : Int) : Prop :=
  (Nat.pow 2 52 ≤ mantissa ∧ mantissa < Nat.pow 2 53 ∧ -1074 ≤ exponent ∧ exponent ≤ 971) ∨
    (mantissa < Nat.pow 2 52 ∧ exponent = -1074)

instance (mantissa : Nat) (exponent : Int) : Decidable (IsCanonical mantissa exponent) :=
  inferInstanceAs (Decidable (_ ∨ _))

/-- A double-precision number. -/
inductive Binary64 where
  /-- Not a number. -/
  | nan
  /-- One of the two infinities. -/
  | inf (negative : Bool)
  /-- The number `± mantissa * 2 ^ exponent`; zero keeps its sign. -/
  | finite (negative : Bool) (mantissa : Nat) (exponent : Int)
      (canonical : IsCanonical mantissa exponent)
  deriving DecidableEq

/-- A place on the number line with its two ends. -/
inductive Line where
  | bottom
  | point (q : Rat)
  | top
  deriving DecidableEq

/-- The strict order of the line. -/
def Line.lt : Line → Line → Bool
  | .bottom, .bottom => false
  | .bottom, _ => true
  | .point _, .bottom => false
  | .point p, .point q => decide (p < q)
  | .point _, .top => true
  | .top, _ => false

namespace Binary64

/-- The positive zero. -/
def zero : Binary64 := .finite false 0 (-1074) (by decide)

instance : Inhabited Binary64 := ⟨zero⟩
instance : Zero Binary64 := ⟨zero⟩

/-! ### Values and rounding -/

/-- The magnitude `mantissa * 2 ^ exponent` as a rational number. -/
def magnitude (mantissa : Nat) (exponent : Int) : Rat := mantissa * (2 : Rat) ^ exponent

/-- A magnitude with its sign. -/
def signed (negative : Bool) (q : Rat) : Rat := if negative then -q else q

/-- The exact value of a finite double. -/
def toRat? : Binary64 → Option Rat
  | .finite negative m e _ => some (signed negative (magnitude m e))
  | _ => none

/-- The exponent of the last mantissa digit that a number of this magnitude keeps. -/
def lastDigitExponent (q : Rat) : Int :=
  if q = 0 then -1074 else max (-1074) (binaryOrder q - 52)

/-- The double of the given sign nearest to a magnitude, ties going to the even mantissa.  A
mantissa that rounds up to `2 ^ 53` carries into the exponent, and a magnitude beyond the largest
exponent becomes an infinity. -/
def ofMagnitude (negative : Bool) (q : Rat) : Binary64 :=
  let e := lastDigitExponent q
  let m := (roundHalfEven (q / (2 : Rat) ^ e)).toNat
  let carried := if m = Nat.pow 2 53 then (Nat.pow 2 52, e + 1) else (m, e)
  if h : IsCanonical carried.1 carried.2 then .finite negative carried.1 carried.2 h
  else .inf negative

/-- The double nearest to a rational number.  Zero becomes the positive zero. -/
def ofRat (q : Rat) : Binary64 := if q < 0 then ofMagnitude true (-q) else ofMagnitude false q

/-- The double nearest to an integer, unless the integer is too large for a finite one. -/
def ofInt? (n : Int) : Option Binary64 :=
  match ofRat n with
  | .inf _ => none
  | x => some x

/-! ### Arithmetic -/

/-- The number with the opposite sign. -/
def neg : Binary64 → Binary64
  | .nan => .nan
  | .inf s => .inf (!s)
  | .finite s m e h => .finite (!s) m e h

/-- The rounded sum.  An exact sum of zero is positive unless both terms are negative. -/
def add : Binary64 → Binary64 → Binary64
  | .nan, _ => .nan
  | _, .nan => .nan
  | .inf s, .inf t => if s = t then .inf s else .nan
  | .inf s, _ => .inf s
  | _, .inf t => .inf t
  | .finite s m e _, .finite t n f _ =>
    let total := signed s (magnitude m e) + signed t (magnitude n f)
    if total = 0 then (if s && t then neg zero else zero) else ofRat total

/-- The rounded difference. -/
def sub (x y : Binary64) : Binary64 := add x (neg y)

/-- Is this one of the two zeros? -/
def isZero : Binary64 → Bool
  | .finite _ m _ _ => m == 0
  | _ => false

/-- The rounded quotient, for a divisor other than zero. -/
def div : Binary64 → Binary64 → Binary64
  | .nan, _ => .nan
  | _, .nan => .nan
  | .inf _, .inf _ => .nan
  | .inf s, .finite t _ _ _ => .inf (s != t)
  | .finite s _ _ _, .inf t => if s != t then neg zero else zero
  | .finite s m e _, .finite t n f _ => ofMagnitude (s != t) (magnitude m e / magnitude n f)

instance : Add Binary64 := ⟨add⟩
instance : Sub Binary64 := ⟨sub⟩
instance : Neg Binary64 := ⟨neg⟩

/-! ### Order -/

/-- The place of a double on the line; not-a-number has none. -/
def line? : Binary64 → Option Line
  | .nan => none
  | .inf true => some .bottom
  | .inf false => some .top
  | .finite s m e _ => some (.point (signed s (magnitude m e)))

/-- Numerical order.  Nothing is less than, or greater than, not-a-number. -/
def lt (x y : Binary64) : Bool :=
  match x.line?, y.line? with
  | some p, some q => p.lt q
  | _, _ => false

/-- Numerical order or equality, false for not-a-number. -/
def le (x y : Binary64) : Bool :=
  match x.line?, y.line? with
  | some p, some q => !q.lt p
  | _, _ => false

instance : LT Binary64 := ⟨fun x y => x.lt y = true⟩
instance : LE Binary64 := ⟨fun x y => x.le y = true⟩
instance : DecidableLT Binary64 := fun x y => inferInstanceAs (Decidable (x.lt y = true))
instance : DecidableLE Binary64 := fun x y => inferInstanceAs (Decidable (x.le y = true))

end Binary64

end ForgeDashboard
