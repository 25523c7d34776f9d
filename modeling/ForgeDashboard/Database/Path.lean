import ForgeDashboard.Text.Split

/-!
# Paths

A path starts in the working directory or at the root of the tree of files, and then leads from name
to name.  As a text its names stand between slashes; names that are empty or a single dot lead
nowhere and are left out, while a double dot is a name like others.

## Main definitions

* `Path`, `Path.parent` : a path, and the path of what holds its end.
* `Path.ofText`, `Path.text` : the path that a text spells, and the shortest text that spells it.
-/

namespace ForgeDashboard

/-- A path. -/
inductive Path where
  /-- The start of a path: the root, written with slashes, or the working directory if there are
  none. -/
  | start (root : String)
  | child (holder : Path) (name : String)
  deriving DecidableEq

namespace Path

/-- The slashes that a path starts with. -/
def root : Path → String
  | start root => root
  | child holder _ => holder.root

/-- The names along a path. -/
def names : Path → List String
  | start _ => []
  | child holder name => holder.names ++ [name]

/-- The path of what holds the end of a path.  Nothing is known to hold a start. -/
def parent : Path → Path
  | start root => start root
  | child holder _ => holder

/-- Does the path start in the working directory? -/
def isRelative (p : Path) : Bool := p.root == ""

/-- The text of a path. -/
def text (p : Path) : String :=
  if p.isRelative && p.names.isEmpty then "." else p.root ++ "/".intercalate p.names

/-- The root that a text starts with.  Two slashes stay two, any other number of them is one. -/
def rootOf (s : String) : String :=
  match (s.toList.takeWhile (· == '/')).length with
  | 0 => ""
  | 2 => "//"
  | _ => "/"

/-- The names in a text. -/
def namesOf (s : String) : List String :=
  ((splitWhere (· == '/') s.toList).map String.ofList).filter fun name => name != "" && name != "."

/-- The path that a text spells. -/
def ofText (s : String) : Path := (namesOf s).foldl child (start (rootOf s))

end Path

end ForgeDashboard
