import ForgeDashboard.Display.Plural

/-!
# Kinds of entities

The dashboard counts users, groups and repositories.  Each kind has a name, a noun with its plural,
and the addresses of its list and of its detail pages.

## Main definitions

* `EntityKind` : the three kinds.
* `EntityKind.parse` : the kind that a value names.
* `EntityKind.label` : the noun that goes with a count.
-/

namespace ForgeDashboard

/-- What the dashboard counts. -/
inductive EntityKind where
  | user
  | group
  | repository
  deriving DecidableEq

/-- A noun whose singular and plural share a stem. -/
structure Noun where
  stem : String
  singular : String
  plural : String

namespace EntityKind

/-- All kinds, in display order. -/
def all : List EntityKind := [user, group, repository]

/-- The name of a kind. -/
def name : EntityKind → String
  | user => "user"
  | group => "group"
  | repository => "repository"

/-- The noun for a kind. -/
def noun : EntityKind → Noun
  | user => ⟨"user", "", "s"⟩
  | group => ⟨"group", "", "s"⟩
  | repository => ⟨"repositor", "y", "ies"⟩

/-- The address of the list of a kind. -/
def listUrl : EntityKind → String
  | user => "/admin/users"
  | group => "/admin/groups"
  | repository => "/admin/repos"

/-- The address under which the detail pages of a kind lie. -/
def detailUrl : EntityKind → String
  | user => "/admin/user"
  | group => "/admin/group"
  | repository => "/admin/repos"

/-- The kind of a given name. -/
def ofName? (s : String) : Option EntityKind := all.find? (·.name == s)

/-- The kind that a value names. -/
def ofValue? : Value → Option EntityKind
  | .text s => ofName? s
  | _ => none

/-- The kind that a value names, or the failure to recognise it. -/
def parse (v : Value) : Except Fault EntityKind :=
  match ofValue? v with
  | some kind => .ok kind
  | none => .error (.unknownEntityKind v)

/-- The kind that a value must be. -/
def require (v : Value) : Except Fault EntityKind :=
  match ofValue? v with
  | some kind => .ok kind
  | none => .error (.invalidEntityKind v)

/-- The noun for a count; an unknown count reads as plural. -/
def label (kind : EntityKind) (count : Option Int) : Except Fault String := do
  let suffix ← pluralSuffix (count.getD 0) kind.noun.singular kind.noun.plural
  return kind.noun.stem ++ suffix

end EntityKind

end ForgeDashboard
