import ForgeDashboard.Component.Basic
import ForgeDashboard.Document.Basic
import ForgeDashboard.Entity.Kind

/-!
# The dashboard view

The view is what the dashboard shows: a section for each kind of entity, the owner of the latest
repository, a section on the host, and the component versions.  Besides the sections it offers flat
fields, each a copy of a part of a section.

## Main definitions

* `EntitySection`, `SystemSection`, `ComponentView`, `View` : the parts of the view.
* `View.versionOf` : the version shown for a component.
* `View.document` : the view as a document.
-/

namespace ForgeDashboard

/-- Whether the latest entity of a kind is known. -/
inductive LatestState where
  /-- There is one. -/
  | ok
  /-- There is none. -/
  | empty
  /-- It could not be found out. -/
  | unavailable
  deriving DecidableEq

/-- The name of a state. -/
def LatestState.name : LatestState → String
  | .ok => "ok"
  | .empty => "empty"
  | .unavailable => "unavailable"

/-- The latest entity of a kind, with the address of its page. -/
structure LatestView where
  id : Int
  name : String
  url : String
  deriving DecidableEq

/-- What is shown for one kind of entity. -/
structure EntitySection where
  kind : EntityKind
  count : Option Int
  countDisplay : String
  label : String
  listUrl : String
  latest : Option LatestView
  latestState : LatestState
  deriving DecidableEq

/-- What is shown for the host. -/
structure SystemSection where
  os : String
  version : String
  architecture : String
  uptime : String
  uptimeSeconds : Option Binary64
  memoryAvailable : String
  memoryTotal : String
  memoryUsage : String
  pid : String
  deriving DecidableEq

/-- What is shown for a component. -/
structure ComponentView where
  name : String
  version : String
  description : Option String
  deriving DecidableEq

/-- What the dashboard shows. -/
structure View where
  users : EntitySection
  groups : EntitySection
  repos : EntitySection
  latestRepoUsername : Option String
  system : SystemSection
  versions : List ComponentView
  deriving DecidableEq

/-! ### Documents of the parts -/

/-- The latest entity as a document. -/
def LatestView.document (v : LatestView) : Document :=
  .object [("id", .int v.id), ("name", .text v.name), ("url", .text v.url)]

/-- The section of a kind as a document. -/
def EntitySection.document (s : EntitySection) : Document :=
  .object
    [("kind", .text s.kind.name), ("count", .ofOption .int s.count),
      ("count_display", .text s.countDisplay), ("label", .text s.label),
      ("list_url", .text s.listUrl), ("latest", .ofOption LatestView.document s.latest),
      ("latest_state", .text s.latestState.name)]

/-- The section on the host as a document. -/
def SystemSection.document (s : SystemSection) : Document :=
  .object
    [("os", .text s.os), ("version", .text s.version), ("architecture", .text s.architecture),
      ("uptime", .text s.uptime), ("uptime_seconds", .ofOption .float s.uptimeSeconds),
      ("memory_available", .text s.memoryAvailable), ("memory_total", .text s.memoryTotal),
      ("memory_usage", .text s.memoryUsage), ("pid", .text s.pid)]

/-- A component as a document. -/
def ComponentView.document (c : ComponentView) : Document :=
  .object
    [("name", .text c.name), ("version", .text c.version),
      ("description", .ofOption .text c.description)]

/-- A latest entity by number and name, under a given name for the name. -/
def LatestView.brief (nameField : String) (v : LatestView) : Document :=
  .object [("id", .int v.id), (nameField, .text v.name)]

namespace View

/-- The section of a kind. -/
def entitySection (v : View) : EntityKind → EntitySection
  | .user => v.users
  | .group => v.groups
  | .repository => v.repos

/-- The version shown for a component: that of its first entry. -/
def versionOf (v : View) (name : String) : String :=
  match v.versions.find? (·.name == name) with
  | some c => c.version
  | none => unknownText

/-- The sections, by field name. -/
def sectionFields (v : View) : List (String × Document) :=
  [("users", v.users.document), ("groups", v.groups.document), ("repos", v.repos.document),
    ("latest_repo_username", .ofOption .text v.latestRepoUsername),
    ("system", v.system.document), ("versions", .list (v.versions.map ComponentView.document))]

/-- The flat fields of the entity sections. -/
def entityFields (v : View) : List (String × Document) :=
  [("users_count", .text v.users.countDisplay),
    ("latest_user", .ofOption (LatestView.brief "username") v.users.latest),
    ("groups_count", .text v.groups.countDisplay),
    ("latest_group", .ofOption (LatestView.brief "name") v.groups.latest),
    ("repos_count", .text v.repos.countDisplay),
    ("latest_repo", .ofOption (LatestView.brief "name") v.repos.latest)]

/-- The flat fields of component versions, each with the component that it shows. -/
def versionFieldNames : List (String × String) :=
  [("gitarena_version", "gitarena"), ("python_version", "python"),
    ("database_version", "database"), ("libgit2_version", "libgit2"),
    ("pygit2_version", "pygit2"), ("rustc_version", "python"),
    ("postgres_version", "database"), ("git2_rs_version", "pygit2")]

/-- The flat fields of the component versions. -/
def versionFields (v : View) : List (String × Document) :=
  versionFieldNames.map fun entry => (entry.1, .text (v.versionOf entry.2))

/-- The flat fields of the section on the host. -/
def systemFields (v : View) : List (String × Document) :=
  [("os", .text v.system.os), ("version", .text v.system.version),
    ("architecture", .text v.system.architecture), ("uptime", .text v.system.uptime),
    ("memory_available", .text v.system.memoryAvailable),
    ("memory_total", .text v.system.memoryTotal), ("pid", .text v.system.pid)]

/-- The view as a document: the sections, then the flat fields. -/
def document (v : View) : Document :=
  .object (v.sectionFields ++ v.entityFields ++ v.versionFields ++ v.systemFields)

end View

end ForgeDashboard
