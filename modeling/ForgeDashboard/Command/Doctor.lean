import ForgeDashboard.Service.Deployment

/-!
# The check of an installation

The doctor prints the environment and the configuration, asks the database for its version, and
lists what the host does not report.  A database that cannot be reached is a failed check; the other
checks cannot fail.

## Main definitions

* `Installed` : what the doctor is told about the running program.
* `DatabaseCheck` : what asking the database gives.
* `Diagnosis`, `Deployment.diagnose` : the findings of the doctor.
-/

namespace ForgeDashboard

/-- What is known of the running program itself. -/
structure Installed where
  /-- The version of the language runtime, followed by details. -/
  runtime : String
  /-- Where the runtime is installed. -/
  root : String
  /-- The number of this run. -/
  run : String

/-- What asking the database for its version gives. -/
inductive DatabaseCheck where
  | reached (label version : String)
  | failed (cause : Fault)

/-- The findings of the doctor. -/
structure Diagnosis where
  database : DatabaseCheck
  unreadable : List String

namespace DatabaseCheck

/-- The line on the database. -/
def line : DatabaseCheck → String
  | reached label version => "  " ++ label ++ ": OK (" ++ version ++ ")"
  | failed _ => "  Database: FAILED"

/-- The failure entries, of which there is at most one. -/
def failures (url : String) : DatabaseCheck → List String
  | reached _ _ => []
  | failed cause => ["Cannot reach " ++ url ++ ": " ++ cause.text]

end DatabaseCheck

namespace Diagnosis

/-- The line on the host. -/
def hostLine (g : Diagnosis) : String :=
  if g.unreadable.isEmpty then "  All fields readable"
  else "  Unreadable fields: " ++ ", ".intercalate g.unreadable

/-- The number of checks that passed: those of the environment and of the host, and that of the
database if it was reached. -/
def passed (g : Diagnosis) : Nat :=
  match g.database with
  | .reached _ _ => 3
  | .failed _ => 2

/-- The failure entries. -/
def failures (g : Diagnosis) (url : String) : List String := g.database.failures url

/-- The number of checks. -/
def total (g : Diagnosis) (url : String) : Nat := g.passed + (g.failures url).length

/-- The exit code: one if anything failed. -/
def exitCode (g : Diagnosis) (url : String) : Nat := if (g.failures url).isEmpty then 0 else 1

/-- The line on the checks that passed. -/
def resultLine (g : Diagnosis) (url : String) : String :=
  "Result: " ++ toString g.passed ++ "/" ++ toString (g.total url) ++ " checks passed"

/-- The lines at the end. -/
def summary (g : Diagnosis) (url : String) : List String :=
  let failures := g.failures url
  ["", String.ofList (List.replicate 50 '─'), g.resultLine url, ""] ++
    if failures.isEmpty then [] else failures.map ("  FAIL " ++ ·) ++ [""]

end Diagnosis

/-- The lines at the start. -/
def doctorOpening : List String := ["", "GitArena Admin Doctor", "", "[Environment]"]

/-- The lines on the environment, given the version of the runtime. -/
def environmentLines (i : Installed) (version : String) : List String :=
  ["  Python: " ++ version, "  Prefix: " ++ i.root, "  Run ID: " ++ i.run]

/-- The lines on the configuration, and the heading that follows them. -/
def configurationLines (s : Settings) : List String :=
  ["", "[Configuration]", "  GITARENA_DATABASE_URL:       " ++ s.databaseUrl,
    "  GITARENA_DASHBOARD_TIMEOUT:  " ++ s.timeout.text,
    "  GITARENA_LOG_LEVEL:          " ++ s.logLevel, "", "[Database]"]

namespace Deployment

/-- Asks the database for its version.  Only a failure of the database itself is a finding. -/
def checkDatabase (d : Deployment) : Except Fault DatabaseCheck :=
  match d.engine.serverVersion with
  | .ok version => .ok (.reached d.engine.label version)
  | .error f => if f.kind.isDatabase then .ok (.failed f) else .error f

/-- The findings on a deployment. -/
def diagnose (d : Deployment) : Except Fault Diagnosis := do
  let database ← d.checkDatabase
  return ⟨database, d.host.snapshot.unreadable⟩

end Deployment

end ForgeDashboard
