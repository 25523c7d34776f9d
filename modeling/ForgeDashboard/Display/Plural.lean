import ForgeDashboard.Fault

/-!
# Plural forms

A count of one takes the singular suffix, any other count the plural one.

## Main definitions

* `pluralSuffix` : the suffix for a count.
-/

namespace ForgeDashboard

/-- The suffix for a count: singular for one, plural for zero and from two on. -/
def pluralSuffix (count : Int) (singular plural : String) : Except Fault String :=
  if count < 0 then .error (.negativeCount count)
  else .ok (if count = 1 then singular else plural)

end ForgeDashboard
