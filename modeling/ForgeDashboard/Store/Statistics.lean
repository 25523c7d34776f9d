import ForgeDashboard.Dashboard.Build
import ForgeDashboard.Store.Basic

/-!
# Statistics of the store

The dashboard asks the store for counts, for the latest entities and for the owner of a repository.
A failure of the database becomes a missing value; any other failure stays one.

## Main definitions

* `Access` : a store and whether it can be opened.
* `Access.count`, `Access.latest`, `Access.owner` : the answers of a store.
* `Access.sources` : the store as the sources of a dashboard.
-/

namespace ForgeDashboard

/-- The access to a store, which may fail as such. -/
structure Access where
  store : Store
  failure : Option Fault

/-- What a source that reads the store does: it answers, says that it has no value if the database
fails, and fails otherwise. -/
def Behaviour.ofQuery {τ α : Type} (source : SourceName) (r : Except Fault α) : Behaviour τ α :=
  match r with
  | .ok a => .answers (.ok a)
  | .error f =>
    if f.kind.isDatabase then .answers (.error ⟨source.text, .fault f⟩) else .fails f

/-- What a source does, with another form of its value. -/
def Behaviour.map {τ α β : Type} (f : α → β) : Behaviour τ α → Behaviour τ β
  | .answers result => .answers (f <$> result)
  | .fails cause => .fails cause

/-- The line that is logged about a source that reads the store, if the database failed. -/
def storeWarning {τ α : Type} : Behaviour τ α → Option LogLine
  | .answers (.error ⟨source, .fault f⟩) =>
    some ⟨.warning, "Store query " ++ source ++ " failed: " ++ f.brief⟩
  | _ => none

namespace Access

variable {τ : Type}

/-- Asks the store, if it can be opened. -/
def ask {α : Type} (a : Access) (query : Store → Except Fault α) : Except Fault α :=
  match a.failure with
  | some f => .error f
  | none => query a.store

/-- The latest entity of a kind in a store. -/
def latestEntity (s : Store) (kind : EntityKind) : Except Fault (Option LatestEntity) := do
  let row ← s.latest kind
  return row.map fun row => ⟨kind, row.id, .text row.name⟩

/-- The number of entities of a kind. -/
def count (a : Access) (kind : EntityKind) : Behaviour τ Int :=
  .ofQuery (.count kind) (a.ask (·.count kind))

/-- The latest entity of a kind. -/
def latest (a : Access) (kind : EntityKind) : Behaviour τ (Option LatestEntity) :=
  .ofQuery (.latest kind) (a.ask (latestEntity · kind))

/-- The owner of a repository. -/
def owner (a : Access) (repository : Int) : Behaviour τ (Option String) :=
  .ofQuery .owner (a.ask (·.ownerName repository))

/-- The answer to a question about the kind that a value names. -/
def ofKind {α : Type} (kind : Value) (answer : EntityKind → Behaviour τ α) : Behaviour τ α :=
  match EntityKind.parse kind with
  | .ok kind => answer kind
  | .error f => .fails f

/-- A name as a reported value. -/
def nameValue : Option String → Value
  | some name => .text name
  | none => .null

/-- The store as the sources of a dashboard, which answer at once, beside a snapshot and a component
list. -/
def sources [Zero τ] (a : Access) (snapshot : Snapshot) (components : List Component) :
    Sources τ where
  count := fun kind => ⟨0, a.count kind⟩
  latest := fun kind => ⟨0, a.latest kind⟩
  owner := fun repository => ⟨0, (a.owner repository).map nameValue⟩
  telemetry := ⟨0, .answers (.ok snapshot)⟩
  versions := ⟨0, .answers (.ok components)⟩

end Access

end ForgeDashboard
