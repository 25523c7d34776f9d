import ForgeDashboard.Component.Basic
import ForgeDashboard.Component.Engine

/-!
# Finding out component versions

The versions of the program, its language runtime, the database and the libraries are found out
once, when the program starts.  A component whose version cannot be determined is listed as unknown
and noted as unresolved; only failures that do not mean "cannot be determined" stop the start.

## Main definitions

* `Installation` : what the environment says about the installed components.
* `isUndetermined` : the failures that leave a version unknown.
* `Resolution`, `Installation.resolve` : the registry with the notes on unresolved components.
-/

namespace ForgeDashboard

/-- What the environment says about the installed components. -/
structure Installation where
  package : String → Reading
  runtimeVersion : Reading
  runtimeName : Reading
  gitLibrary : Reading
  engine : Option Engine

/-- A component whose version could not be determined, with the reason. -/
structure Unresolved where
  name : String
  reason : String
  deriving DecidableEq

/-- The line that is logged for an unresolved component. -/
def Unresolved.message (u : Unresolved) : String :=
  "Version of " ++ u.name ++ " unresolved: " ++ u.reason

/-- The component versions together with the unresolved ones, both in display order. -/
structure Resolution where
  components : List Component
  unresolved : List Unresolved

namespace Resolution

/-- The resolution of no component. -/
def empty : Resolution := ⟨[], []⟩

/-- One resolution after another. -/
def append (a b : Resolution) : Resolution :=
  ⟨a.components ++ b.components, a.unresolved ++ b.unresolved⟩

instance : Append Resolution := ⟨append⟩

/-- A component whose version is known. -/
def known (name version : String) (description : Value) : Resolution :=
  ⟨[⟨.text name, .text version, description⟩], []⟩

/-- A component whose version is not known. -/
def unknown (name reason : String) (description : Value) : Resolution :=
  ⟨[⟨.text name, .text unknownText, description⟩], [⟨name, reason⟩]⟩

/-- The registry of a resolution. -/
def registry (r : Resolution) : Registry := ⟨r.components⟩

end Resolution

/-- The failures that mean that a version cannot be determined: a module, a package or a part of
one is missing, or the database or the operating system failed. -/
def isUndetermined (kind : FaultKind) : Bool :=
  kind.isMissingModule || kind == .missingAttribute || kind.isDatabase || kind.isSystem

/-- Resolves a component from a reading of its version. -/
def resolveReading (name : String) (reading : Reading) (description : Value) :
    Except Fault Resolution :=
  match reading with
  | .ok version => .ok (.known name version.shown description)
  | .error f =>
    if isUndetermined f.kind then .ok (.unknown name f.reason description) else .error f

/-- Resolves the database.  Only failures of the database itself leave it unknown. -/
def resolveDatabase (engine : Option Engine) : Except Fault Resolution :=
  match engine with
  | none => .ok (.unknown "database" "no engine configured" .null)
  | some e =>
    match e.serverVersion with
    | .ok version => .ok (.known "database" version (.text e.label))
    | .error f =>
      if f.kind.isDatabase then .ok (.unknown "database" f.text .null) else .error f

/-- The package that holds this program. -/
def ownPackage : String := "gitarena-admin"

/-- The libraries the program rests on, with their descriptions. -/
def libraries : List (String × String) :=
  [("pygit2", "Python bindings for libgit2"), ("fastapi", "HTTP framework"),
    ("sqlmodel", "ORM layer"), ("sqlalchemy", "SQL toolkit"), ("pydantic", "Data validation"),
    ("psutil", "Host telemetry")]

namespace Installation

/-- Resolves libraries one after another. -/
def resolveLibraries (i : Installation) : List (String × String) → Except Fault Resolution
  | [] => .ok .empty
  | (name, description) :: rest => do
    let first ← resolveReading name (i.package name) (.text description)
    let others ← i.resolveLibraries rest
    return first ++ others

/-- Finds out all component versions: the program, its runtime, the database, the git library and
the libraries, in this order. -/
def resolve (i : Installation) : Except Fault Resolution := do
  let program ← resolveReading "gitarena" (i.package ownPackage) (.text "GitArena admin")
  let runtimeName ← i.runtimeName
  let runtime ← resolveReading "python" i.runtimeVersion runtimeName
  let database ← resolveDatabase i.engine
  let git ← resolveReading "libgit2" i.gitLibrary (.text "Git implementation")
  let others ← i.resolveLibraries libraries
  return program ++ runtime ++ database ++ git ++ others

/-- The queries that resolving runs on the database. -/
def queries (i : Installation) : List String :=
  match i.engine with
  | none => []
  | some e => e.versionQueries

end Installation

end ForgeDashboard
