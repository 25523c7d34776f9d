import ForgeDashboard.Store.Session

/-!
# Operations on the store

The store changes by operations only.  An operation either succeeds or fails as a whole: one that
fails leaves the store as it was.

## Main definitions

* `Operation`, `Operation.Result` : the operations and what they give.
* `Store.apply` : the store after an operation, and the result.
* `Store.applyAll` : the store after operations in a row.
-/

namespace ForgeDashboard

/-- An operation on the store. -/
inductive Operation where
  /-- Makes the missing tables. -/
  | create
  /-- Drops a table. -/
  | drop (kind : EntityKind)
  /-- Adds a row. -/
  | add (kind : EntityKind) (draft : Draft)
  /-- Changes the row of a number. -/
  | change (kind : EntityKind) (id : Int) (changes : Change)
  /-- Deletes the row of a number. -/
  | delete (kind : EntityKind) (id : Int)
  /-- Runs actions in a unit of work. -/
  | act (actions : List Action)

/-- What an operation gives. -/
inductive Operation.Result where
  | done
  /-- The number of the new row. -/
  | added (id : Int)
  /-- Whether there was such a row. -/
  | found (found : Bool)
  /-- The outcomes of the actions, and the unit of work after its end. -/
  | acted (outcomes : List Outcome) (unit : WorkUnit)

namespace Store

/-- The number that a draft gets in a store. -/
def idFor (s : Store) (kind : EntityKind) (d : Draft) : Int :=
  d.id.getD (nextId ((s.table kind).getD []))

/-- The store after an attempt to change it: as it was, if the attempt failed. -/
def settle {α : Type} (s : Store) (attempt : Except Fault (Store × α)) :
    Store × Except Fault α :=
  match attempt with
  | .ok (store, result) => (store, .ok result)
  | .error f => (s, .error f)

/-- The store after an operation, and the result of the operation. -/
def apply (s : Store) : Operation → Store × Except Fault Operation.Result
  | .create => (s.createMissing, .ok .done)
  | .drop kind => s.settle do return (← s.drop kind, .done)
  | .add kind draft =>
    let ended := WorkUnit.new.run s fun session => do
      return (.added (s.idFor kind draft), ← (session.add kind draft).flush)
    (ended.store, ended.result)
  | .change kind id changes => s.settle do
    let (store, found) ← s.change kind id changes
    return (store, .found found)
  | .delete kind id => s.settle do
    let (store, found) ← s.delete kind id
    return (store, .found found)
  | .act actions =>
    let ended := WorkUnit.new.run s (·.performAll actions)
    (ended.store, ended.result.map (.acted · ended.unit))

/-- The store after operations in a row. -/
def applyAll (s : Store) (operations : List Operation) : Store :=
  operations.foldl (fun s operation => (s.apply operation).1) s

end Store

end ForgeDashboard
