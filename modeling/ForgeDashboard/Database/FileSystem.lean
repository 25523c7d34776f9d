import ForgeDashboard.Database.Path
import ForgeDashboard.Fault

/-!
# The tree of files

Places are seen from the root of the tree.  The tree knows its directories and its other files; each
directory lies in another one, up to the root, and one of them is the working directory.  There are
no links, so a double dot leads back to where the last name came from.

What else the system has to say against a path or a place is a parameter of the tree: a name may be
too long, say, or a directory closed to this program.

## Main definitions

* `Location` : a place in the tree.
* `FileSystem` : the tree.
* `FileSystem.find` : following a path from directory to directory.
* `FileSystem.create` : what becomes of the tree when it is asked for a new directory.
-/

namespace ForgeDashboard

/-- A place: the names that lead down to it, from the root unless said otherwise. -/
structure Location where
  names : List String
  deriving DecidableEq

namespace Location

/-- The root of the tree. -/
def root : Location := ⟨[]⟩

/-- The place that a place lies in.  The root lies in itself. -/
def above (l : Location) : Location := ⟨l.names.dropLast⟩

/-- The place that a name leads to. -/
def enter (l : Location) (name : String) : Location :=
  if name = ".." then l.above else ⟨l.names ++ [name]⟩

/-- The path of a place. -/
def path (l : Location) : String := "/".intercalate l.names

/-- The place as it is seen from another one, if it lies below that. -/
def below? (l base : Location) : Option Location :=
  if base.names <+: l.names ∧ l ≠ base then some ⟨l.names.drop base.names.length⟩ else none

/-- The directory that a new name leads down from. -/
theorem above_enter {l : Location} {name : String} (h : l.enter name ≠ l.above) :
    (l.enter name).above = l := by
  have hdown : name ≠ ".." := fun hup => h (if_pos hup)
  simp [enter, above, hdown]

end Location

/-- An error of the operating system. -/
structure SystemError where
  kind : FaultKind
  number : Nat
  wording : String
  deriving DecidableEq

namespace SystemError

/-- Nothing is there. -/
def missing : SystemError := ⟨.missingFile, 2, "No such file or directory"⟩

/-- Something is there already. -/
def alreadyThere : SystemError := ⟨.existingFile, 17, "File exists"⟩

/-- A file is there that is no directory. -/
def notDirectory : SystemError := ⟨.notDirectory, 20, "Not a directory"⟩

/-- A name, or the whole path, is too long. -/
def nameTooLong : SystemError := ⟨.system, 36, "File name too long"⟩

/-- The failure that is reported for a path. -/
def fault (e : SystemError) (p : Path) : Fault :=
  .raised e.kind
    (some ("[Errno " ++ toString e.number ++ "] " ++ e.wording ++ ": " ++ quoted p.text))

end SystemError

/-- The tree of files as a program finds it. -/
structure FileSystem where
  workingDirectory : Location
  directories : List Location
  /-- All files that are no directories. -/
  files : List Location
  /-- Why a path is not looked up at all, if it is not. -/
  pathRefusal : Path → Option Fault
  /-- Why a place where no directory is may not be looked at or become one, if it may not. -/
  placeRefusal : Location → Option SystemError
  root_mem : .root ∈ directories
  workingDirectory_mem : workingDirectory ∈ directories
  above_mem : ∀ l ∈ directories, l.above ∈ directories
  notMem_files : ∀ l ∈ directories, l ∉ files

namespace FileSystem

/-- A directory of a tree. -/
abbrev Directory (fs : FileSystem) : Type := { l : Location // l ∈ fs.directories }

/-- The directory in which a path with a given root starts. -/
def origin (fs : FileSystem) (root : String) : fs.Directory :=
  if root = "" then ⟨fs.workingDirectory, fs.workingDirectory_mem⟩ else ⟨.root, fs.root_mem⟩

/-- Why a place that is no directory cannot be passed. -/
def obstacle (fs : FileSystem) (l : Location) : SystemError :=
  (fs.placeRefusal l).getD (if l ∈ fs.files then .notDirectory else .missing)

/-- The directory that a path leads to. -/
def find (fs : FileSystem) : Path → Except SystemError fs.Directory
  | .start root => .ok (fs.origin root)
  | .child holder name => do
    let d ← fs.find holder
    if h : d.1.enter name ∈ fs.directories then return ⟨d.1.enter name, h⟩
    else throw (fs.obstacle (d.1.enter name))

/-- Does a path lead to a directory? -/
def isDirectory (fs : FileSystem) (p : Path) : Bool :=
  (fs.pathRefusal p).isNone && (fs.find p).isOk

/-- The tree with one more directory, at a free place in a directory. -/
def add (fs : FileSystem) (l : Location) (habove : l.above ∈ fs.directories)
    (hfree : l ∉ fs.files) : FileSystem where
  workingDirectory := fs.workingDirectory
  directories := fs.directories ++ [l]
  files := fs.files
  pathRefusal := fs.pathRefusal
  placeRefusal := fs.placeRefusal
  root_mem := List.mem_append_left _ fs.root_mem
  workingDirectory_mem := List.mem_append_left _ fs.workingDirectory_mem
  above_mem d hd := by
    rcases List.mem_append.mp hd with hd | hd
    · exact List.mem_append_left _ (fs.above_mem d hd)
    · rw [List.mem_singleton.mp hd]
      exact List.mem_append_left _ habove
  notMem_files d hd := by
    rcases List.mem_append.mp hd with hd | hd
    · exact fs.notMem_files d hd
    · rwa [List.mem_singleton.mp hd]

/-- A name that leads from a directory to no directory leads down from it. -/
theorem Directory.above_enter_mem {fs : FileSystem} (d : fs.Directory) {name : String}
    (h : d.1.enter name ∉ fs.directories) : (d.1.enter name).above ∈ fs.directories := by
  rw [Location.above_enter fun hup => h (hup ▸ fs.above_mem d.1 d.2)]
  exact d.2

/-- The tree after a request for a new directory.  All that its path leads through must be there,
and nothing must be at its end. -/
def create (fs : FileSystem) (p : Path) : Except Fault FileSystem :=
  match fs.pathRefusal p, p with
  | some f, _ => .error f
  | none, .start _ => .error (SystemError.alreadyThere.fault p)
  | none, .child holder name =>
    match fs.find holder with
    | .error e => .error (e.fault p)
    | .ok d =>
      if h : d.1.enter name ∈ fs.directories ∨ d.1.enter name ∈ fs.files then
        .error (SystemError.alreadyThere.fault p)
      else match fs.placeRefusal (d.1.enter name) with
        | some e => .error (e.fault p)
        | none =>
          .ok (fs.add (d.1.enter name) (d.above_enter_mem (h ∘ .inl)) (h ∘ .inr))

end FileSystem

end ForgeDashboard
