import ForgeDashboard.Dashboard.Assemble
import ForgeDashboard.Source.Call

/-!
# Building the dashboard

All sources are called at the same moment, each under the same limit, so the whole takes no longer
than the slowest.  Only the owner of the latest repository has to wait for another answer; both
calls together keep to one deadline.  What became of the calls decides the view.

## Main definitions

* `Sources` : the sources of the dashboard.
* `RepositoryBranch`, `repositoryBranch` : the latest repository and then its owner.
* `Run`, `runSources` : all calls of one build.
* `Run.view`, `Run.ended` : the view that they give, and when the build ended.
-/

namespace ForgeDashboard

/-- The sources of the dashboard.  The owner depends on the repository it is asked for. -/
structure Sources (τ : Type) where
  count : EntityKind → Source τ Int
  latest : EntityKind → Source τ (Option LatestEntity)
  owner : Int → Source τ Value
  telemetry : Source τ Snapshot
  versions : Source τ (List Component)

/-- A source that was asked, with the repository in question for the owner. -/
inductive Question where
  | plain (name : SourceName)
  | owner (repository : Int)
  deriving DecidableEq

/-- The name of the source that was asked. -/
def Question.source : Question → SourceName
  | .plain name => name
  | .owner _ => .owner

/-- The calls for the latest repository and for its owner. -/
structure RepositoryBranch (τ : Type) where
  latest : Attempt τ (Option LatestEntity)
  /-- The repository asked for and the call, if the owner was asked for at all. -/
  owner : Option (Int × Attempt τ Value)

/-- The answer on the owner: that of its call, or else what the answer on the repository implies. -/
def RepositoryBranch.ownerResult {τ : Type} (b : RepositoryBranch τ) :
    Except (Unavailable τ) Value :=
  match b.owner with
  | some asked => asked.2.result
  | none => match b.latest.result with
    | .error u => .error u
    | .ok _ => .ok .null

/-- When the calls for the repository and its owner ended. -/
def RepositoryBranch.ended {τ : Type} (b : RepositoryBranch τ) : τ :=
  match b.owner with
  | some asked => asked.2.ended
  | none => b.latest.ended

variable {τ : Type} [Zero τ] [Add τ] [Sub τ] [LT τ] [DecidableLT τ] [LE τ] [DecidableLE τ]

/-- Calls for the latest repository and, if there is one, for its owner in the time that is left. -/
def repositoryBranch (sources : Sources τ) (start limit : τ) : RepositoryBranch τ :=
  let deadline := start + limit
  let latest := call (SourceName.latest .repository).text start limit (sources.latest .repository)
  match latest.result with
  | .ok (some e) =>
    let rest := restOf deadline latest.ended
    ⟨latest, some (e.id, call SourceName.owner.text latest.ended rest (sources.owner e.id))⟩
  | _ => ⟨latest, none⟩

/-- The calls of one build. -/
structure Run (τ : Type) where
  count : EntityKind → Attempt τ Int
  latestUser : Attempt τ (Option LatestEntity)
  latestGroup : Attempt τ (Option LatestEntity)
  repository : RepositoryBranch τ
  telemetry : Attempt τ Snapshot
  versions : Attempt τ (List Component)

/-- Calls all sources at the moment `start` under one limit. -/
def runSources (sources : Sources τ) (start limit : τ) : Run τ where
  count := fun kind => call (SourceName.count kind).text start limit (sources.count kind)
  latestUser := call (SourceName.latest .user).text start limit (sources.latest .user)
  latestGroup := call (SourceName.latest .group).text start limit (sources.latest .group)
  repository := repositoryBranch sources start limit
  telemetry := call SourceName.telemetry.text start limit sources.telemetry
  versions := call SourceName.versions.text start limit sources.versions

namespace Run

omit [Zero τ] [Add τ] [Sub τ] [LE τ] [DecidableLE τ] [LT τ] [DecidableLT τ]

/-- The call for the latest entity of a kind. -/
def latest (r : Run τ) : EntityKind → Attempt τ (Option LatestEntity)
  | .user => r.latestUser
  | .group => r.latestGroup
  | .repository => r.repository.latest

/-- What the calls gave. -/
def answers (r : Run τ) : Answers (Unavailable τ) where
  count := fun kind => (r.count kind).result
  latest := fun kind => (r.latest kind).result
  owner := r.repository.ownerResult
  snapshot := r.telemetry.result
  components := r.versions.result

/-- The view that the calls give. -/
def view (r : Run τ) : Except Fault View := r.answers.view

/-- A question, if it was asked. -/
def questionOf {α : Type} (q : Question) (a : Attempt τ α) : List Question :=
  if a.asked then [q] else []

/-- The questions that were asked about the repository branch. -/
def branchQuestions (b : RepositoryBranch τ) : List Question :=
  questionOf (.plain (.latest .repository)) b.latest ++
    match b.owner with
    | some asked => questionOf (.owner asked.1) asked.2
    | none => []

/-- The questions that were asked. -/
def questions (r : Run τ) : List Question :=
  EntityKind.all.flatMap (fun kind => questionOf (.plain (.count kind)) (r.count kind)) ++
    questionOf (.plain (.latest .user)) r.latestUser ++
    questionOf (.plain (.latest .group)) r.latestGroup ++
    branchQuestions r.repository ++
    questionOf (.plain .telemetry) r.telemetry ++
    questionOf (.plain .versions) r.versions

/-- What is logged about the repository branch. -/
def branchNotices (b : RepositoryBranch τ) : List (Notice τ) :=
  b.latest.notice.toList ++
    match b.owner with
    | some asked => asked.2.notice.toList
    | none => []

/-- What is logged about the calls. -/
def notices (r : Run τ) : List (Notice τ) :=
  EntityKind.all.flatMap (fun kind => (r.count kind).notice.toList) ++
    r.latestUser.notice.toList ++ r.latestGroup.notice.toList ++
    branchNotices r.repository ++ r.telemetry.notice.toList ++ r.versions.notice.toList

/-- When each of the branches ended. -/
def endings (r : Run τ) : List τ :=
  EntityKind.all.map (fun kind => (r.count kind).ended) ++
    [r.latestUser.ended, r.latestGroup.ended, r.repository.ended, r.telemetry.ended,
      r.versions.ended]

/-- When the build ended: with the last of its branches. -/
def ended [Max τ] (r : Run τ) : τ := r.endings.max (by simp [endings])

end Run

end ForgeDashboard
