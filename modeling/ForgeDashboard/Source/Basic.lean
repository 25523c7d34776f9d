import ForgeDashboard.Entity.Latest
import ForgeDashboard.Number.Fixed
import ForgeDashboard.Reading

/-!
# Sources

A source answers one question of the dashboard.  It takes some time, and then gives a value, says
by itself that it has none, or fails.  Times are of any type with a zero, addition, subtraction and
an order: the program runs on doubles, and statements about deadlines can be made on exact numbers.

## Main definitions

* `SourceName`, `SourceName.text` : the questions.
* `Cause`, `Unavailable` : why there is no value.
* `Behaviour`, `Source` : what a source does, and when.
* `Notice` : what is logged about a call.
-/

namespace ForgeDashboard

/-- The questions of the dashboard. -/
inductive SourceName where
  | count (kind : EntityKind)
  | latest (kind : EntityKind)
  | owner
  | telemetry
  | versions
  deriving DecidableEq

/-- The name of a question. -/
def SourceName.text : SourceName → String
  | .count kind => kind.name ++ ".count"
  | .latest kind => kind.name ++ ".latest"
  | .owner => "repository.owner"
  | .telemetry => "telemetry"
  | .versions => "versions"

/-- Why a source gave no value. -/
inductive Cause (τ : Type) where
  /-- It did not answer within the limit. -/
  | late (limit : τ)
  /-- It failed. -/
  | fault (f : Fault)
  /-- It said so by itself. -/
  | stated (reason : String)

/-- A missing value: whose it is, and why it is missing. -/
structure Unavailable (τ : Type) where
  source : String
  cause : Cause τ

/-- The reason that is shown for a missing value. -/
def Cause.reason : Cause Binary64 → String
  | .late limit => "timed out after " ++ limit.text ++ "s"
  | .fault f => f.reason
  | .stated reason => reason

/-- The reason that a list of store failures keeps: of a database message only the line with the
cause. -/
def Cause.brief : Cause Binary64 → String
  | .fault f => if f.text = "" then f.reason else f.brief
  | c => c.reason

/-- What a source does in the end. -/
inductive Behaviour (τ α : Type) where
  /-- It gives a value, or says by itself that there is none. -/
  | answers (result : Except (Unavailable τ) α)
  /-- It fails. -/
  | fails (f : Fault)

/-- A source: how long it takes, and what it does then. -/
structure Source (τ α : Type) where
  delay : τ
  behaviour : Behaviour τ α

/-- What is logged about a call. -/
inductive Notice (τ : Type) where
  /-- The call did not answer within the limit. -/
  | late (source : String) (limit : τ)
  /-- The call failed. -/
  | failed (source : String)

/-- The level of a log line.  What is only logged for information is left out. -/
inductive Severity where
  | warning
  | error
  deriving DecidableEq

/-- The name of a level. -/
def Severity.name : Severity → String
  | .warning => "WARNING"
  | .error => "ERROR"

/-- A line of the log. -/
structure LogLine where
  severity : Severity
  message : String
  deriving DecidableEq

/-- The text of a line of the log. -/
def LogLine.text (l : LogLine) : String := l.severity.name ++ " " ++ l.message

/-- The line that is logged for a notice.  A limit is shown with one decimal. -/
def Notice.line : Notice Binary64 → LogLine
  | .late source limit =>
    ⟨.warning, "Dashboard source " ++ source ++ " timed out after " ++ limit.fixedText 1 ++ "s"⟩
  | .failed source => ⟨.error, "Dashboard source " ++ source ++ " failed"⟩

end ForgeDashboard
