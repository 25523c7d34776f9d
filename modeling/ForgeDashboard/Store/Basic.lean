import ForgeDashboard.Store.Row

/-!
# The store

The store has up to three tables, one for each kind of entity; a table that was never made or was
dropped is missing, and using it fails.  Rows are added one after another, changed and deleted by
their numbers.

## Main definitions

* `Store`, `Store.table`, `Store.withTable` : the store and its tables.
* `Store.createMissing`, `Store.drop` : making and dropping tables.
* `Store.insertAll`, `Store.change`, `Store.delete` : working on the rows of a table.
* `Store.count`, `Store.latest`, `Store.ownerName` : what is asked of a store.
-/

namespace ForgeDashboard

/-- The committed rows of all tables, in the order of their insertion. -/
structure Store where
  users : Option (List (Row .user))
  groups : Option (List (Row .group))
  repositories : Option (List (Row .repository))
  deriving DecidableEq

/-- Changes of a row: of its name, its time stamp and its owner, where given. -/
structure Change where
  name : Option (Option String)
  createdAt : Option (Option Stamp)
  ownerId : Option (Option Int)

/-- The number that a row without one gets: one more than the largest, or one.  The numbers of the
database end at `2 ^ 63 - 1`, whereas these go on.  A statement in which that matters, because a
number is looked up again, asks for stores whose numbers are below `2 ^ 63`. -/
def nextId {kind : EntityKind} (rows : List (Row kind)) : Int :=
  match (rows.map (·.id)).max? with
  | some m => m + 1
  | none => 1

/-- Was the first row created before the second, or at the same instant under a smaller number? -/
def Row.precedes {kind : EntityKind} (a b : Row kind) : Bool :=
  a.createdAt.micros < b.createdAt.micros ||
    (a.createdAt.micros == b.createdAt.micros && a.id < b.id)

/-- The row created last; of rows created at the same instant the one with the largest number. -/
def latestRow {kind : EntityKind} : List (Row kind) → Option (Row kind)
  | [] => none
  | row :: rest =>
    match latestRow rest with
    | none => some row
    | some other => if row.precedes other then some other else some row

/-- The row of a number. -/
def findRow {kind : EntityKind} (rows : List (Row kind)) (id : Int) : Option (Row kind) :=
  rows.find? (·.id == id)

/-- Adds a checked draft at the end of the rows. -/
def insertRow {kind : EntityKind} (rows : List (Row kind)) (d : Draft)
    (createdAt : Option Instant) : Except Fault (List (Row kind)) := do
  let row ← d.accept kind rows (d.id.getD (nextId rows)) createdAt
  return rows ++ [row]

/-- The draft that describes a row. -/
def Row.draft {kind : EntityKind} (row : Row kind) : Draft where
  id := some row.id
  name := some row.name
  email := match kind, row.detail with
    | .user, email => email
    | _, _ => none
  ownerId := match kind, row.detail with
    | .repository, owner => some owner
    | _, _ => none
  createdAt := some (Stamp.ofInstant row.createdAt)

/-- Applies changes to a draft of a kind.  Only repositories have an owner. -/
def Change.apply (kind : EntityKind) (c : Change) (d : Draft) : Except Fault Draft :=
  if c.ownerId.isSome ∧ kind ≠ .repository then .error (.noSuchField kind.record "owner_id")
  else .ok { d with
    name := c.name.getD d.name
    createdAt := c.createdAt.getD d.createdAt
    ownerId := c.ownerId.getD d.ownerId }

/-- Changes a row, which stays in its place; the result is checked beside the other rows. -/
def changeRow {kind : EntityKind} (rows : List (Row kind)) (row : Row kind) (c : Change) :
    Except Fault (List (Row kind)) := do
  let draft ← c.apply kind row.draft
  let createdAt ← draft.instant
  let changed ← draft.accept kind (rows.filter (·.id != row.id)) row.id createdAt
  return rows.map fun other => if other.id == row.id then changed else other

namespace Store

/-- The store without tables. -/
def empty : Store := ⟨none, none, none⟩

/-- The rows of the table of a kind, if there is such a table. -/
def table (s : Store) : (kind : EntityKind) → Option (List (Row kind))
  | .user => s.users
  | .group => s.groups
  | .repository => s.repositories

/-- The store with another table of a kind. -/
def withTable (s : Store) (kind : EntityKind) (rows : Option (List (Row kind))) : Store :=
  match kind with
  | .user => { s with users := rows }
  | .group => { s with groups := rows }
  | .repository => { s with repositories := rows }

/-- The rows of a table that must exist. -/
def rows (s : Store) (kind : EntityKind) : Except Fault (List (Row kind)) :=
  match s.table kind with
  | some rows => .ok rows
  | none => .error (.noSuchTable kind.table)

/-- Makes the missing tables. -/
def createMissing (s : Store) : Store where
  users := some (s.users.getD [])
  groups := some (s.groups.getD [])
  repositories := some (s.repositories.getD [])

/-- Drops a table. -/
def drop (s : Store) (kind : EntityKind) : Except Fault Store := do
  let _ ← s.rows kind
  return s.withTable kind none

/-- Adds drafts to a table, one after another.  All time stamps are looked at first, and so are all
numbers if no draft has a number of its own, because such drafts are sent together. -/
def insertAll (s : Store) (kind : EntityKind) (drafts : List Draft) : Except Fault Store := do
  let dated ← drafts.mapM fun d => return (d, ← d.instant)
  let rows ← s.rows kind
  if drafts.all (·.id.isNone) && !drafts.all (·.fits kind) then throw .integerTooWide
  let rows ← dated.foldlM (fun rows entry => insertRow rows entry.1 entry.2) rows
  return s.withTable kind (some rows)

/-- The row of a number in a table that must exist. -/
def find (s : Store) (kind : EntityKind) (id : Int) : Except Fault (Option (Row kind)) := do
  let rows ← s.rows kind
  if !fitsColumn id then throw .integerTooWide
  return findRow rows id

/-- Changes the row of a number.  The second part says whether there was such a row. -/
def change (s : Store) (kind : EntityKind) (id : Int) (c : Change) :
    Except Fault (Store × Bool) := do
  match ← s.find kind id with
  | none => return (s, false)
  | some row =>
    let rows ← s.rows kind
    let rows ← changeRow rows row c
    return (s.withTable kind (some rows), true)

/-- Deletes the row of a number.  The second part says whether there was such a row. -/
def delete (s : Store) (kind : EntityKind) (id : Int) : Except Fault (Store × Bool) := do
  match ← s.find kind id with
  | none => return (s, false)
  | some row =>
    let rows ← s.rows kind
    return (s.withTable kind (some (rows.filter (·.id != row.id))), true)

/-- The number of rows of a table. -/
def count (s : Store) (kind : EntityKind) : Except Fault Int := do
  let rows ← s.rows kind
  return rows.length

/-- The row of a table that was created last. -/
def latest (s : Store) (kind : EntityKind) : Except Fault (Option (Row kind)) := do
  let rows ← s.rows kind
  return latestRow rows

/-- The name of the user that owns the repository of a number. -/
def ownerName (s : Store) (repository : Int) : Except Fault (Option String) := do
  let users ← s.rows .user
  match ← s.find .repository repository with
  | none => return none
  | some row => return (findRow users row.detail).map (·.name)

end Store

end ForgeDashboard
