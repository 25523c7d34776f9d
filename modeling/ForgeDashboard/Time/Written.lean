import ForgeDashboard.Number.Numeral
import ForgeDashboard.Time.Instant

/-!
# Reading time stamps

A time stamp is written as a date, one character that separates, and a time of day, perhaps followed
by the distance of the clock from universal time.  The date names a day of a month or a day of a
week.  Date, time and distance may be written with or without their dashes and colons; minutes,
seconds and a fraction may be left out from the right.

## Main definitions

* `readDate?` : the date at the front of a text.
* `ClockReading.ofChars?` : a time of day or a distance, and whether the text ends with it.
* `Stamp.ofText` : the stamp that a text denotes.
-/

namespace ForgeDashboard

/-- A number of exactly `n` digits at the front, and what follows it. -/
def readFixed? (n : Nat) (cs : List Char) : Option (Nat × List Char) :=
  let ds := cs.take n
  if ds.length = n ∧ ds.all Char.isDigit then some (digitsValue ds, cs.drop n) else none

/-! ### Dates -/

/-- The day of a month at the front, with dashes or without. -/
def readMonthDay? (year : Nat) (dashed : Bool) (cs : List Char) : Option (Date × List Char) := do
  let (month, rest) ← readFixed? 2 cs
  let rest ← if dashed then (if rest.head? = some '-' then some rest.tail else none) else some rest
  let (day, rest) ← readFixed? 2 rest
  return (⟨year, month, day⟩, rest)

/-- Is the day of the week written after the week?  With dashes it is, unless the dash separates the
date from the time, which it does if two digits stand where the day and the separator would.
Without dashes the digits up to the first other character are counted, since those of a time come in
pairs. -/
def hasWeekday (dashed : Bool) (cs : List Char) : Bool :=
  if dashed then
    match cs with
    | '-' :: _ :: c :: _ => !c.isDigit
    | '-' :: _ => true
    | _ => false
  else
    let n := (cs.takeWhile Char.isDigit).length
    n = 1 || (n ≠ 0 && n % 2 = 0)

/-- The day of a week at the front, with dashes or without.  Without a day it is the first one. -/
def readWeekDay? (year : Nat) (dashed : Bool) (cs : List Char) : Option (Date × List Char) := do
  let (week, rest) ← readFixed? 2 cs
  let (weekday, rest) ←
    if hasWeekday dashed rest then readFixed? 1 (if dashed then rest.tail else rest)
    else some (1, rest)
  return (← weekDate? year week weekday, rest)

/-- The date at the front, and what follows it. -/
def readDate? (cs : List Char) : Option (Date × List Char) := do
  let (year, rest) ← readFixed? 4 cs
  let dashed := rest.head? = some '-'
  match if dashed then rest.tail else rest with
  | 'W' :: week => readWeekDay? year dashed week
  | month => readMonthDay? year dashed month

/-! ### Times -/

/-- What stands behind the pairs of digits of a clock reading: nothing, a single character without a
meaning, or the digits of a fraction. -/
inductive ClockTail where
  | nothing
  | stray
  | fraction (cs : List Char)

/-- At most `n` pairs of digits, and what stands behind them.  The first colon, or its absence, says
whether colons stand between all of them. -/
def readPairs? (colons : Option Bool) : Nat → List Char → Option (List Nat × ClockTail)
  | 0, cs => some ([], .fraction cs)
  | n + 1, cs => do
    let (pair, rest) ← readFixed? 2 cs
    match rest with
    | [] => return ([pair], .nothing)
    | [c] => if c.toNat < 0x80 then return ([pair], .stray) else none
    | c :: after =>
      let colons := colons.getD (c == ':')
      if c = '.' ∨ c = ',' then return ([pair], .fraction after)
      else if colons && c != ':' then none
      else
        let (pairs, tail) ← readPairs? (some colons) n (if colons then after else rest)
        return (pair :: pairs, tail)

/-- The microseconds of a fraction, of which six digits count, and whether only digits follow. -/
def readFraction? (cs : List Char) : Option (Nat × Bool) :=
  let ds := cs.take 6
  if ds.all Char.isDigit then
    some (digitsValue ((ds ++ List.replicate 6 '0').take 6), (cs.drop 6).all Char.isDigit)
  else none

/-- Hours, minutes, seconds and microseconds. -/
structure ClockReading where
  hours : Nat
  minutes : Nat
  seconds : Nat
  micros : Nat

namespace ClockReading

/-- The whole seconds of a reading. -/
def wholeSeconds (r : ClockReading) : Nat := (60 * r.hours + r.minutes) * 60 + r.seconds

/-- The reading as a number of microseconds. -/
def total (r : ClockReading) : Nat := r.wholeSeconds * microsPerSecond + r.micros

/-- The reading that a text starts with, and whether it ends there. -/
def ofChars? (cs : List Char) : Option (ClockReading × Bool) := do
  let (pairs, tail) ← readPairs? none 3 cs
  let (micros, whole) ← match tail with
    | .nothing => some (0, true)
    | .stray => some (0, false)
    | .fraction ds => readFraction? ds
  return (⟨pairs.getD 0 0, pairs.getD 1 0, pairs.getD 2 0, micros⟩, whole)

/-- Refuses a reading that is no time of day. -/
def check (r : ClockReading) : Except StampProblem Unit :=
  if 24 ≤ r.hours then .error .hour
  else if 60 ≤ r.minutes then .error .minute
  else if 60 ≤ r.seconds then .error .second
  else .ok ()

end ClockReading

/-- The distance from universal time that a text denotes, in microseconds: the mark of universal
time itself, or a signed reading.  A distance of less than a second is none. -/
def readAhead? : List Char → Option Int
  | ['Z'] => some 0
  | sign :: rest => do
    let (r, whole) ← ClockReading.ofChars? rest
    if !whole || (sign ≠ '+' && sign ≠ '-') then none
    else if r.wholeSeconds = 0 then return 0
    else return if sign = '-' then -(r.total : Int) else r.total
  | [] => none

/-- Does the character start a distance from universal time? -/
def startsAhead (c : Char) : Bool := c == '+' || c == '-' || c == 'Z'

/-- A time of day, and the distance that may follow it.  What stands between them and has no meaning
is passed over. -/
def readTime? (cs : List Char) : Option (ClockReading × Option Int) := do
  let (r, whole) ← ClockReading.ofChars? (cs.takeWhile (!startsAhead ·))
  match cs.dropWhile (!startsAhead ·) with
  | [] => if whole then return (r, none) else none
  | mark => return (r, some (← readAhead? mark))

/-- The date, the time of day and the distance of a time stamp, each unchecked.  A date without a
time stands for its first moment. -/
def readStamp? (cs : List Char) : Option (Date × ClockReading × Option Int) := do
  let (date, rest) ← readDate? cs
  match rest with
  | [] => return (date, ⟨0, 0, 0, 0⟩, none)
  | _ :: time => return (date, ← readTime? time)

/-- The stamp that a text denotes. -/
def Stamp.ofText (s : String) : Except StampProblem Stamp := do
  match readStamp? s.toList with
  | none => throw (.malformed s)
  | some (date, time, ahead) =>
    if microsPerDay ≤ (ahead.getD 0).natAbs then throw (.distance (ahead.getD 0))
    let day ← date.number
    time.check
    return ⟨day * microsPerDay + time.total, ahead⟩

end ForgeDashboard
