import ForgeDashboard.Log.Template
import ForgeDashboard.Time.Calendar

/-!
# Log records

A record is written as one message behind a header: the time, the number of the run in brackets, the
level, and the name of the log.

## Main definitions

* `LogRecord` : a record.
* `clockText` : a time in seconds, written as date and time of day.
* `LogRecord.written`, `LogRecord.emitted` : what is written for a record, and what that adds to the
  output.
-/

namespace ForgeDashboard

/-- A record of the log. -/
structure LogRecord where
  name : String
  level : String
  template : String
  arguments : List Value
  /-- Seconds since the start of 1970 in universal time. -/
  seconds : Int
  /-- Milliseconds beyond the second. -/
  millis : Int

/-- A number with zeros on the left up to two digits. -/
def twoDigits (n : Nat) : String := if n < 10 then "0" ++ toString n else toString n

/-- An integer with zeros after its sign up to a width. -/
def paddedInteger (width : Nat) (n : Int) : String :=
  let ds := toString n.natAbs
  let sign := if n < 0 then "-" else ""
  sign ++ String.ofList (List.replicate (width - sign.length - ds.length) '0') ++ ds

/-- The number of days from the start of year 1 to the start of 1970. -/
def daysBeforeEpoch : Int := daysBeforeYear 1970

/-- A number of seconds since the start of 1970 as date and time of day. -/
def clockText (seconds : Int) : String :=
  let date := Date.ofDayNumber (seconds.fdiv 86400 + daysBeforeEpoch)
  let time := (seconds.fmod 86400).toNat
  toString date.year ++ "-" ++ twoDigits date.month ++ "-" ++ twoDigits date.day ++ " " ++
    twoDigits (time / 3600) ++ ":" ++ twoDigits (time / 60 % 60) ++ ":" ++ twoDigits (time % 60)

namespace LogRecord

/-- The header of a record, up to the message. -/
def header (r : LogRecord) (run : String) : String :=
  clockText r.seconds ++ "," ++ paddedInteger 3 r.millis ++ " [" ++ run ++ "] " ++ r.level ++ " " ++
    r.name ++ ": "

/-- What is written for a record. -/
def written (r : LogRecord) (run : String) : Except Fault String := do
  return r.header run ++ (← Template.fill r.template r.arguments)

/-- What a record adds to the output of the log: what is written for it, and the end of a line. -/
def emitted (r : LogRecord) (run : String) : Except Fault String := do
  return (← r.written run) ++ "\n"

end LogRecord

end ForgeDashboard
