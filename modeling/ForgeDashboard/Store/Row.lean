import ForgeDashboard.Entity.Kind
import ForgeDashboard.Time.Instant

/-!
# Rows of the store

The store has a table for each kind of entity.  A row has a number, a name, the instant of its
creation and what only its kind has: a user an address, a repository the number of its owner.  A row
enters the store as a draft, in which anything may be missing.

## Main definitions

* `EntityKind.table`, `EntityKind.nameColumn`, `EntityKind.hasUniqueName` : how the table of a kind
  is declared.
* `Row` : a row.
* `Draft` : a row before it is checked.
* `Draft.accept` : the row that a draft becomes beside given other rows.
-/

namespace ForgeDashboard

namespace EntityKind

/-- The name of the table of a kind. -/
def table : EntityKind → String
  | user => "users"
  | group => "groups"
  | repository => "repositories"

/-- The name of the column that holds the names. -/
def nameColumn : EntityKind → String
  | user => "username"
  | group => "name"
  | repository => "name"

/-- The name of the record type of a kind. -/
def record : EntityKind → String
  | user => "User"
  | group => "Group"
  | repository => "Repository"

/-- Are the names of a kind unique? -/
def hasUniqueName : EntityKind → Bool
  | user => true
  | group => true
  | repository => false

end EntityKind

/-- What the rows of a kind have besides number, name and time: the address of a user, which may be
missing, and the owner of a repository. -/
abbrev Detail : EntityKind → Type
  | .user => Option String
  | .group => Unit
  | .repository => Int

instance (kind : EntityKind) : DecidableEq (Detail kind) :=
  match kind with
  | .user => inferInstanceAs (DecidableEq (Option String))
  | .group => inferInstanceAs (DecidableEq Unit)
  | .repository => inferInstanceAs (DecidableEq Int)

/-- A row of the table of a kind. -/
structure Row (kind : EntityKind) where
  id : Int
  name : String
  createdAt : Instant
  detail : Detail kind
  deriving DecidableEq

/-- A row before it is checked. -/
structure Draft where
  id : Option Int
  name : Option String
  email : Option String
  ownerId : Option Int
  createdAt : Option Stamp
  deriving DecidableEq

/-- Is the number one of 64 bits? -/
def fitsColumn (n : Int) : Bool := -(Nat.pow 2 63 : Int) ≤ n && n < (Nat.pow 2 63 : Int)

/-- The value of a column that must not be missing. -/
def requireColumn {α : Type} (kind : EntityKind) (column : String) (value : Option α) :
    Except Fault α :=
  match value with
  | some a => .ok a
  | none => .error (.missingValue kind.table column)

namespace Draft

/-- A draft made now: its time stamp is that of the moment, unless one is given. -/
def dated (now : Instant) (given : Option (Option Stamp)) (d : Draft) : Draft :=
  { d with createdAt := given.getD (some (Stamp.ofInstant now)) }

/-- The instant of creation, which may be missing. -/
def instant (d : Draft) : Except Fault (Option Instant) :=
  match d.createdAt with
  | none => .ok none
  | some stamp => some <$> stamp.instant

/-- The owner that is written for a draft of a kind. -/
def writtenOwner (kind : EntityKind) (d : Draft) : Option Int :=
  match kind with
  | .repository => d.ownerId
  | _ => none

/-- Do the numbers of a draft fit into their columns? -/
def fits (kind : EntityKind) (d : Draft) : Bool :=
  d.id.all fitsColumn && (d.writtenOwner kind).all fitsColumn

/-- What the rows of a kind have besides number, name and time. -/
def detail (d : Draft) : (kind : EntityKind) → Except Fault (Detail kind)
  | .user => .ok d.email
  | .group => .ok ()
  | .repository => requireColumn .repository "owner_id" d.ownerId

/-- The row of a draft under a given number, if no required column is missing. -/
def row (kind : EntityKind) (d : Draft) (id : Int) (createdAt : Option Instant) :
    Except Fault (Row kind) := do
  let detail ← d.detail kind
  let name ← requireColumn kind kind.nameColumn d.name
  let created ← requireColumn kind "created_at" createdAt
  return ⟨id, name, created, detail⟩

/-- The row that a draft becomes beside given other rows: its numbers fit, no required column is
missing, and neither its number nor, where names are unique, its name is taken. -/
def accept (kind : EntityKind) (others : List (Row kind)) (d : Draft) (id : Int)
    (createdAt : Option Instant) : Except Fault (Row kind) := do
  if !d.fits kind then throw .integerTooWide
  let row ← d.row kind id createdAt
  if others.any (·.id == row.id) then throw (.duplicateValue kind.table "id")
  if kind.hasUniqueName && others.any (·.name == row.name) then
    throw (.duplicateValue kind.table kind.nameColumn)
  return row

end Draft

end ForgeDashboard
