import ForgeDashboard.Dashboard.Section

/-!
# Assembling the view

The view is a function of eight answers: three counts, three latest entities, the owner of the
latest repository, the snapshot of the host and the component list.  The sections are built in
display order, and the first failure to build one is the failure of the whole.

## Main definitions

* `Answers` : the answers of all sources.
* `Answers.view` : the view assembled from them.
-/

namespace ForgeDashboard

/-- The answers of all sources, each of which may have failed. -/
structure Answers (ε : Type) where
  count : EntityKind → Except ε Int
  latest : EntityKind → Except ε (Option LatestEntity)
  owner : Except ε Value
  snapshot : Except ε Snapshot
  components : Except ε (List Component)

/-- The component list of an answer; a failed answer lists none. -/
def componentList {ε : Type} : Except ε (List Component) → List Component
  | .ok components => components
  | .error _ => []

/-- The view assembled from the answers of all sources. -/
def Answers.view {ε : Type} (a : Answers ε) : Except Fault View := do
  let users ← entitySection .user (a.count .user) (a.latest .user)
  let groups ← entitySection .group (a.count .group) (a.latest .group)
  let repos ← entitySection .repository (a.count .repository) (a.latest .repository)
  let system ← systemSection a.snapshot
  let versions ← (componentList a.components).mapM componentView
  let owner ← ownerText a.owner
  return ⟨users, groups, repos, owner, system, versions⟩

end ForgeDashboard
