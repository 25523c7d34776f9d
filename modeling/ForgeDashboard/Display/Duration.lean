import ForgeDashboard.Fault

/-!
# Durations

A duration is shown in days, hours, minutes and seconds.  Leading components that are zero are
left out; the seconds are always shown.  A number of days with too many digits is not shown, nor is
a number of seconds named that is refused and has too many.

## Main definitions

* `Duration`, `Duration.ofSeconds` : the four components.
* `Duration.components` : the components that are shown.
* `durationText` : the text of a number of seconds.
-/

namespace ForgeDashboard

/-- A length of time in days, hours, minutes and seconds. -/
structure Duration where
  days : Nat
  hours : Nat
  minutes : Nat
  seconds : Nat
  deriving DecidableEq

namespace Duration

/-- Splits a number of whole seconds into components. -/
def ofSeconds (total : Nat) : Duration where
  days := total / 86400
  hours := total % 86400 / 3600
  minutes := total % 86400 % 3600 / 60
  seconds := total % 86400 % 3600 % 60

/-- The components that are shown: from the first one that is not zero, or else the seconds. -/
def components (d : Duration) : List (Nat × String) :=
  [(d.days, "d"), (d.hours, "h"), (d.minutes, "m")].dropWhile (·.1 == 0) ++ [(d.seconds, "s")]

/-- The text of a duration. -/
def text (d : Duration) : String :=
  " ".intercalate (d.components.map fun part => toString part.1 ++ part.2)

end Duration

/-- A numeral has too many digits. -/
def tooLongNumeral : Fault := .tooManyDigits Num.numeralLimit

/-- Why a number of seconds below zero has no text. -/
def negativeDurationFault (seconds : Num) : Fault :=
  if seconds.isTooLong then tooLongNumeral else .negativeDuration seconds

/-- The text of a number of seconds, fractions dropped. -/
def durationText (seconds : Num) : Except Fault String :=
  if seconds.isNegative then .error (negativeDurationFault seconds)
  else match seconds.truncate with
    | .ok whole =>
      let d := Duration.ofSeconds whole.toNat
      if (Num.int d.days).isTooLong then .error tooLongNumeral else .ok d.text
    | .error cause => .error (.arithmetic cause)

end ForgeDashboard
