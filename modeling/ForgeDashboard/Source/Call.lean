import ForgeDashboard.Source.Basic

/-!
# Calls

A call asks a source at some moment and waits up to a limit.  A limit that is not positive is
exceeded at once, without asking.  Otherwise the source is asked once, and its answer counts if it
comes before the deadline.  A source that itself reports a time-out is taken as late.

It is assumed that a source that is asked begins at once, because a worker is free for it: of the
time between question and answer only the delay of the source counts.

## Main definitions

* `Attempt` : what became of a call.
* `call` : one call.
* `limitOf` : the limit of a call.
* `restOf` : the limit that is left until a deadline.
-/

namespace ForgeDashboard

/-- What became of a call: its result, whether the source was asked, when the call ended, and what
is logged about it. -/
structure Attempt (τ α : Type) where
  result : Except (Unavailable τ) α
  asked : Bool
  ended : τ
  notice : Option (Notice τ)

variable {τ α : Type}

/-- A call that waited for its whole limit, or whose source reported a time-out. -/
def Attempt.late (name : String) (limit : τ) (asked : Bool) (ended : τ) : Attempt τ α :=
  ⟨.error ⟨name, .late limit⟩, asked, ended, some (.late name limit)⟩

/-- What becomes of a call whose source acts in time. -/
def Behaviour.attempt (name : String) (limit ended : τ) : Behaviour τ α → Attempt τ α
  | .answers result => ⟨result, true, ended, none⟩
  | .fails f =>
    if f.kind = .timeout then .late name limit true ended
    else ⟨.error ⟨name, .fault f⟩, true, ended, some (.failed name)⟩

variable [Zero τ] [Add τ] [Sub τ] [LT τ] [DecidableLT τ] [LE τ] [DecidableLE τ]

/-- Calls a source at the moment `start` and waits up to `limit`. -/
def call (name : String) (start limit : τ) (source : Source τ α) : Attempt τ α :=
  if limit ≤ 0 then .late name limit false start
  else if start + source.delay < start + limit then
    source.behaviour.attempt name limit (start + source.delay)
  else .late name limit true (start + limit)

/-- A limit that is at least zero. -/
def notNegative (limit : τ) : τ := if limit < 0 then 0 else limit

/-- The limit of a call: the one that is given for it, at least zero, or else the usual one. -/
def limitOf (usual : τ) (given : Option τ) : τ := (given.map notNegative).getD usual

/-- The limit that is left from `now` until a deadline, at least zero. -/
def restOf (deadline now : τ) : τ := notNegative (deadline - now)

end ForgeDashboard
