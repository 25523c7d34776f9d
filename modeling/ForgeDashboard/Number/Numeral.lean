import ForgeDashboard.Number.Num
import ForgeDashboard.Number.Shortest
import ForgeDashboard.Text.Blank
import ForgeDashboard.Text.Digit

/-!
# Reading numerals

A double is read from an optional sign and a decimal numeral with an optional point and exponent,
or from one of the words for an infinity or not-a-number.  The decimal is taken exactly and rounded
once.  An integer is read from decimal digits of any script, with single underscores between
digits allowed.

## Main definitions

* `readDecimal?` : an unsigned decimal numeral.
* `Binary64.ofNumeral?` : a double.
* `readInteger?` : an integer.
-/

namespace ForgeDashboard

/-- The longest run of ASCII digits at the front, and what follows it. -/
def spanDigits (cs : List Char) : List Char × List Char :=
  (cs.takeWhile Char.isDigit, cs.dropWhile Char.isDigit)

/-- The number that ASCII digits denote. -/
def digitsValue (ds : List Char) : Nat := ds.foldl (fun n c => 10 * n + (c.toNat - 48)) 0

/-- A sign at the front, if there is one, and what follows it. -/
def splitSign : List Char → Bool × List Char
  | '-' :: rest => (true, rest)
  | '+' :: rest => (false, rest)
  | rest => (false, rest)

/-- The exponent part of a numeral, which may be missing. -/
def readExponent? : List Char → Option Int
  | [] => some 0
  | mark :: rest =>
    if mark = 'e' || mark = 'E' then
      let signed := splitSign rest
      let ds := spanDigits signed.2
      if ds.1.isEmpty || !ds.2.isEmpty then none
      else
        let n : Int := digitsValue ds.1
        some (if signed.1 then -n else n)
    else none

/-- An unsigned decimal numeral: digits with an optional point among or beside them, then an
optional exponent. -/
def readDecimal? (cs : List Char) : Option Decimal :=
  let whole := spanDigits cs
  let fraction := match whole.2 with
    | '.' :: rest => spanDigits rest
    | rest => ([], rest)
  if whole.1.isEmpty && fraction.1.isEmpty then none
  else (readExponent? fraction.2).map fun exponent =>
    ⟨digitsValue (whole.1 ++ fraction.1), exponent - fraction.1.length⟩

/-- The double of a given sign nearest to a decimal.  Decimals far beyond the range of doubles are
recognised by the place of their leading digit. -/
def Decimal.toBinary64 (negative : Bool) (d : Decimal) : Binary64 :=
  if d.digits = 0 || d.order < -400 then Binary64.ofMagnitude negative 0
  else if 400 < d.order then .inf negative
  else Binary64.ofMagnitude negative d.toRat

/-- The words for the numbers that have no digits. -/
def readNumberWord? (negative : Bool) (cs : List Char) : Option Binary64 :=
  let word := String.ofList (cs.map Char.toLower)
  if word = "inf" || word = "infinity" then some (.inf negative)
  else if word = "nan" then some .nan
  else none

/-- The double that a signed numeral or word denotes. -/
def Binary64.ofNumeral? (cs : List Char) : Option Binary64 :=
  let signed := splitSign cs
  match readNumberWord? signed.1 signed.2 with
  | some x => some x
  | none => (readDecimal? signed.2).map (Decimal.toBinary64 signed.1)

/-- The number that digits of any script denote, with single underscores between them; `last` says
whether the character before was a digit. -/
def readDigits? (total : Nat) (last : Bool) : List Char → Option Nat
  | [] => if last then some total else none
  | '_' :: rest => if last then readDigits? total false rest else none
  | c :: rest => match digitValue? c with
    | some d => readDigits? (10 * total + d) true rest
    | none => none

/-- The integer that a text denotes, white space around it ignored. -/
def readInteger? (s : String) : Option Int :=
  let signed := splitSign (trimWith isWhite s.toList)
  (readDigits? 0 false signed.2).map fun n => if signed.1 then -(n : Int) else n

end ForgeDashboard
