import ForgeDashboard.Store.Basic

/-!
# Units of work

A unit of work opens a session on the store, lets actions run in it, and closes it.  A session sees
the committed rows and those that were flushed in it; rows are queued first and flushed before every
look at the store and at the end.  If anything fails the store stays as it was, otherwise it gets
every queued row.  Outside its session a unit of work has nothing to offer.

## Main definitions

* `Session`, `Session.flush` : a session and its queue.
* `Action`, `Session.perform`, `Session.performAll` : what is done in a session.
* `WorkUnit`, `WorkUnit.enter`, `WorkUnit.leave`, `WorkUnit.run` : the life of a unit of work.
-/

namespace ForgeDashboard

/-- A session: the store as it sees it, and the queued drafts in the order of queueing. -/
structure Session where
  store : Store
  queue : List (EntityKind × Draft)

namespace Session

/-- A new session on a store. -/
def start (s : Store) : Session := ⟨s, []⟩

/-- Queues a draft. -/
def add (s : Session) (kind : EntityKind) (d : Draft) : Session :=
  { s with queue := s.queue ++ [(kind, d)] }

/-- The queued drafts of a kind. -/
def queued (s : Session) (kind : EntityKind) : List Draft :=
  (s.queue.filter (·.1 = kind)).map (·.2)

/-- The order in which a flush goes through the tables. -/
def flushOrder : List EntityKind := [.group, .repository, .user]

/-- Drafts in runs that either all have a number or all have none. -/
def runs (drafts : List Draft) : List (List Draft) :=
  drafts.splitBy fun a b => a.id.isSome == b.id.isSome

/-- Adds the queued drafts of a kind to a store, run by run. -/
def flushKind (s : Session) (store : Store) (kind : EntityKind) : Except Fault Store :=
  (runs (s.queued kind)).foldlM (fun store run => store.insertAll kind run) store

/-- Adds all queued drafts to the store of the session. -/
def flush (s : Session) : Except Fault Session := do
  let store ← flushOrder.foldlM s.flushKind s.store
  return start store

end Session

/-- What is done in a session. -/
inductive Action where
  | add (kind : EntityKind) (draft : Draft)
  | flush
  | count (kind : Value)
  | latest (kind : Value)
  | fail (cause : Fault)

/-- What an action gives. -/
inductive Outcome where
  | queued
  | flushed
  | counted (n : Int)
  | found (latest : Option (Int × String))
  deriving DecidableEq

namespace Session

/-- Performs an action. -/
def perform (s : Session) : Action → Except Fault (Outcome × Session)
  | .add kind draft => return (.queued, s.add kind draft)
  | .flush => return (.flushed, ← s.flush)
  | .count kind => do
    let kind ← EntityKind.parse kind
    let s ← s.flush
    return (.counted (← s.store.count kind), s)
  | .latest kind => do
    let kind ← EntityKind.parse kind
    let s ← s.flush
    let row ← s.store.latest kind
    return (.found (row.map fun row => (row.id, row.name)), s)
  | .fail cause => throw cause

/-- Performs actions one after another. -/
def performAll (s : Session) : List Action → Except Fault (List Outcome × Session)
  | [] => return ([], s)
  | action :: rest => do
    let (outcome, s) ← s.perform action
    let (outcomes, s) ← s.performAll rest
    return (outcome :: outcomes, s)

/-- The store after the end of a session in which nothing failed. -/
def commit (s : Session) : Except Fault Store := do
  let s ← s.flush
  return s.store

end Session

/-- A unit of work, with its session while it is entered. -/
structure WorkUnit where
  session? : Option Session

namespace WorkUnit

/-- A new unit of work. -/
def new : WorkUnit := ⟨none⟩

/-- Opens a session on a store. -/
def enter (_ : WorkUnit) (s : Store) : WorkUnit := ⟨some (Session.start s)⟩

/-- The session of a unit of work that is entered. -/
def session (u : WorkUnit) : Except Fault Session :=
  match u.session? with
  | some s => .ok s
  | none => .error .closedUnit

/-- Ends the session. -/
def leave (_ : WorkUnit) : WorkUnit := ⟨none⟩

/-- What is left after a unit of work: the unit itself, the committed store, and the result. -/
structure Ended (α : Type) where
  unit : WorkUnit
  store : Store
  result : Except Fault α

/-- Runs a body in a unit of work: what it did is committed if neither it nor the commit fails. -/
def run {α : Type} (u : WorkUnit) (s : Store)
    (body : Session → Except Fault (α × Session)) : Ended α :=
  let entered := u.enter s
  let attempt := do
    let (result, session) ← body (← entered.session)
    return (result, ← session.commit)
  match attempt with
  | .ok (result, store) => ⟨entered.leave, store, .ok result⟩
  | .error f => ⟨entered.leave, s, .error f⟩

end WorkUnit

end ForgeDashboard
