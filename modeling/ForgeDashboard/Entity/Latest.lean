import ForgeDashboard.Entity.Kind

/-!
# Latest entities

A latest entity is the most recently created one of its kind, by number and name.

## Main definitions

* `LatestEntity`.
-/

namespace ForgeDashboard

/-- The most recent entity of a kind. -/
structure LatestEntity where
  kind : EntityKind
  id : Int
  displayName : Value

end ForgeDashboard
