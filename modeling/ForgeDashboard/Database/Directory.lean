import ForgeDashboard.Database.Address
import ForgeDashboard.Database.FileSystem

/-!
# Directories of database files

Before a database file is opened, the directory that will hold it is made, with all directories on
the way that are missing.  The directory itself is asked for first; only if something on the way is
missing is the one above it made, in the same way, before it is asked for again.  A double dot steps
back out of a directory, which has been made all the same.

## Main definitions

* `makeDirectories` : makes the directory of a path and those on the way to it.
* `prepareDatabase` : makes the directory that the database of an address needs.
* `prepareDirectory` : the directories that this makes in a working directory.
-/

namespace ForgeDashboard

/-- Asks for a directory.  One that is there already will do; if one on the way is missing, it is up
to the caller what happens. -/
def makeDirectory (p : Path) (onMissing : Fault → ExceptT Fault (StateM FileSystem) Unit) :
    ExceptT Fault (StateM FileSystem) Unit := do
  let fs ← get
  match fs.create p with
  | .ok after => set after
  | .error f =>
    if f.kind = .missingFile then onMissing f
    else if f.kind.isSystem && fs.isDirectory p then return
    else throw f

/-- Makes the directory of a path and, before it, those on the way that are missing. -/
def makeDirectories : Path → ExceptT Fault (StateM FileSystem) Unit
  | .start root => makeDirectory (.start root) throw
  | .child holder name =>
    makeDirectory (.child holder name) fun _ => do
      makeDirectories holder
      makeDirectory (.child holder name) throw

/-- The path of the database file of an address, if the database is a file. -/
def databaseFile? (a : DatabaseAddress) : Option String :=
  match a.database with
  | some path => if path = "" ∨ path = ":memory:" then none else some path
  | none => none

/-- How a database is opened once its directory is prepared. -/
structure ConnectOptions where
  /-- May a connection be used only by the thread that opened it? -/
  checkSameThread : Bool
  deriving DecidableEq

/-- Prepares the directory of the database of an address.  Connections may move between threads,
since the sources of the dashboard are asked side by side. -/
def prepareDatabase (url : String) : ExceptT Fault (StateM FileSystem) ConnectOptions := do
  let address ← DatabaseAddress.parse url
  if let some file := databaseFile? address then makeDirectories (Path.ofText file).parent
  return ⟨false⟩

/-- Why the host does not look a path up: no path has a zero byte, and none is longer than the
system can take. -/
def hostPathRefusal (p : Path) : Option Fault :=
  if p.names.any (·.toList.contains '\x00') then some (.raised .value (some "embedded null byte"))
  else if 4096 ≤ p.text.utf8ByteSize then some (SystemError.nameTooLong.fault p)
  else none

/-- Why the host has no directory at a place: no name is longer than it can keep. -/
def hostPlaceRefusal (l : Location) : Option SystemError :=
  if (l.names.getLast?.getD "").utf8ByteSize ≤ 255 then none else some .nameTooLong

namespace FileSystem

/-- A tree with nothing but an empty working directory.  The name of that is not known: an empty one
stands for it, which no path can spell. -/
def bare : FileSystem where
  workingDirectory := ⟨[""]⟩
  directories := [.root, ⟨[""]⟩]
  files := []
  pathRefusal := hostPathRefusal
  placeRefusal := hostPlaceRefusal
  root_mem := by decide
  workingDirectory_mem := by decide
  above_mem := by decide
  notMem_files := by simp

/-- A tree with a working directory in which some directories were made before. -/
def around (existing : List Location) : FileSystem :=
  existing.foldl (fun fs l => ((makeDirectories (l.names.foldl .child (.start ""))).run.run fs).2)
    bare

/-- The directories of a tree below its working directory that another tree did not have, as they
are seen from there. -/
def madeSince (after before : FileSystem) : List Location :=
  (after.directories.filter (· ∉ before.directories)).filterMap (·.below? after.workingDirectory)

end FileSystem

/-- What preparing the database of an address gives. -/
structure Preparation where
  options : ConnectOptions
  made : List Location

/-- Prepares the directory of the database of an address, in a working directory that holds some
directories.  The places are seen from there. -/
def prepareDirectory (existing : List Location) (url : String) : Except Fault Preparation :=
  let before := FileSystem.around existing
  let (result, after) := (prepareDatabase url).run.run before
  result.map fun options => ⟨options, after.madeSince before⟩

end ForgeDashboard
