import ForgeDashboard.Component.Resolve
import ForgeDashboard.Settings.EnvFile

/-!
# Listings of installed components

What is installed beside the program is listed in a file of names and versions, in the form of an
environment file.  A package that is not listed is missing.

## Main definitions

* `Listing` : a listing.
* `Listing.engine`, `Listing.installation` : the database and the components that it describes.
-/

namespace ForgeDashboard

/-- The names and versions of a listing. -/
structure Listing where
  entries : List EnvFile.Binding

namespace Listing

/-- The listing that a text holds. -/
def ofText (s : String) : Listing := ⟨EnvFile.resolved [] (EnvFile.bindings s)⟩

/-- The version of a name. -/
def version? (l : Listing) (name : String) : Option String := (l.entries.lookup name).join

/-- The version of a name, or a failure. -/
def reading (l : Listing) (name : String) (missing : Fault) : Reading :=
  match l.version? name with
  | some version => .ok (.text version)
  | none => .error missing

/-- The database of a dialect, whose version is listed. -/
def engine (l : Listing) (dialect : String) : Engine :=
  ⟨dialect, none, l.reading "database" (.raised .database (some "no database version is listed"))⟩

/-- The components that are listed. -/
def installation (l : Listing) (engine : Engine) : Installation where
  package := fun name => l.reading name (.missingPackage name)
  runtimeVersion := l.reading "python" (.missingPackage "python")
  runtimeName := .ok (.text ((l.version? "implementation").getD unknownText))
  gitLibrary := l.reading "libgit2" (.missingPackage "libgit2")
  engine := some engine

end Listing

end ForgeDashboard
