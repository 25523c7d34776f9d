import ForgeDashboard.Reading

/-!
# Component versions

The dashboard lists the versions of the program's components.  A registry is such a list, in a
fixed order; a name is looked up at its first entry.

## Main definitions

* `Component` : a component with its version.
* `Registry`, `Registry.versionOf` : the list, and the look-up by name.
-/

namespace ForgeDashboard

/-- What is shown for something that could not be found out. -/
def unknownText : String := "unknown"

/-- A component with its version and perhaps a description. -/
structure Component where
  name : Value
  version : Value
  description : Value

/-- The component versions of a running program, in display order. -/
structure Registry where
  components : List Component

namespace Registry

/-- Is the component of this name? -/
def isNamed (name : String) (c : Component) : Bool :=
  match c.name with
  | .text s => s == name
  | _ => false

/-- The version of the first component of a name. -/
def versionOf (r : Registry) (name : String) : Value :=
  match r.components.find? (isNamed name) with
  | some c => c.version
  | none => .text unknownText

end Registry

end ForgeDashboard
