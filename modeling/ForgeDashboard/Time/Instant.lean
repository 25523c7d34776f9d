import ForgeDashboard.Fault
import ForgeDashboard.Time.Calendar

/-!
# Instants and time stamps

An instant is a moment in universal time.  A time stamp is what a clock shows, perhaps with the
distance of that clock from universal time; only with it the stamp denotes an instant.  The store
keeps instants of the years 1 to 9999.

## Main definitions

* `Instant`, `Instant.isSupported` : a moment, and the moments that the store can keep.
* `Stamp`, `Stamp.instant` : a time stamp, and the instant that it denotes.
-/

namespace ForgeDashboard

/-- The number of microseconds of a second. -/
def microsPerSecond : Nat := 1000000

/-- The number of microseconds of a day. -/
def microsPerDay : Nat := 86400 * microsPerSecond

/-- A moment, in microseconds from the start of year 1 in universal time. -/
structure Instant where
  micros : Int
  deriving DecidableEq

/-- Lies the moment within the years 1 to 9999? -/
def Instant.isSupported (i : Instant) : Bool :=
  0 ≤ i.micros && i.micros < (daysBeforeYear 10000 * microsPerDay : Nat)

/-- What a clock shows, in microseconds from the start of year 1, and how many microseconds it is
ahead of universal time, if that is known. -/
structure Stamp where
  clock : Int
  ahead : Option Int
  deriving DecidableEq

namespace Stamp

/-- The stamp of an instant on the clock of universal time. -/
def ofInstant (i : Instant) : Stamp := ⟨i.micros, some 0⟩

/-- The instant that a stamp denotes. -/
def instant (s : Stamp) : Except Fault Instant :=
  match s.ahead with
  | none => .error .timeWithoutOffset
  | some ahead =>
    let i : Instant := ⟨s.clock - ahead⟩
    if i.isSupported then .ok i else .error .timeOutOfRange

end Stamp

end ForgeDashboard
