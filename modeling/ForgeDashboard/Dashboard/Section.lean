import ForgeDashboard.Dashboard.View
import ForgeDashboard.Display.Duration
import ForgeDashboard.Display.Size
import ForgeDashboard.Entity.Latest
import ForgeDashboard.Host.Snapshot

/-!
# Building the sections

Each section is built from the answers of the sources that feed it.  A failed answer becomes a
placeholder, whatever the reason of the failure: the functions here take the type of reasons as a
parameter and never look at one.

## Main definitions

* `entitySection` : the section of a kind.
* `systemSection` : the section on the host.
* `componentView` : a component.
-/

namespace ForgeDashboard

variable {ε : Type}

/-- What is shown for a number that is not available. -/
def notAvailable : String := "n/a"

/-- The value of an answer that did not fail. -/
def answer? {α : Type} : Except ε α → Option α
  | .ok a => some a
  | .error _ => none

/-- The text that a value must be. -/
def requireText (field : String) (v : Value) : Except Fault String :=
  match v with
  | .text s => .ok s
  | _ => .error (.invalidFields [(field, .notText)])

/-- The latest entity with the address of its page. -/
def latestView (kind : EntityKind) (e : LatestEntity) : Except Fault LatestView := do
  let name ← requireText "name" e.displayName
  return ⟨e.id, name, kind.detailUrl ++ "/" ++ toString e.id⟩

/-- The state and the view of the latest entity of a kind. -/
def latestPart (kind : EntityKind) (latest : Except ε (Option LatestEntity)) :
    Except Fault (LatestState × Option LatestView) :=
  match latest with
  | .error _ => .ok (.unavailable, none)
  | .ok none => .ok (.empty, none)
  | .ok (some e) => do
    let view ← latestView kind e
    return (.ok, some view)

/-- The section of a kind, from the answers on its count and its latest entity. -/
def entitySection (kind : EntityKind) (count : Except ε Int)
    (latest : Except ε (Option LatestEntity)) : Except Fault EntitySection := do
  let known := answer? count
  let part ← latestPart kind latest
  let label ← kind.label known
  return {
    kind := kind
    count := known
    countDisplay := match known with
      | some n => toString n
      | none => notAvailable
    label := label
    listUrl := kind.listUrl
    latest := part.2
    latestState := part.1 }

/-- The text of a field of a snapshot. -/
def metricText (m : Metric Value) : String :=
  match m with
  | .ok v => v.shown
  | .error _ => unknownText

/-- The text of a number of bytes of a snapshot. -/
def metricSize (m : Metric Num) : Except Fault String :=
  match m with
  | .ok n => sizeText n binaryBase
  | .error _ => .ok unknownText

/-- The text and the number of seconds of the uptime of a snapshot. -/
def metricUptime (m : Metric Num) : Except Fault (String × Option Binary64) :=
  match m with
  | .ok n => do
    let text ← durationText n
    let seconds ← n.toBinary64.mapError .arithmetic
    return (text, some seconds)
  | .error _ => .ok (unknownText, none)

/-- Available and total memory in one text. -/
def usageText (available total : String) : String := available ++ " / " ++ total

/-- The section on a host about which nothing is known. -/
def unknownSystem : SystemSection where
  os := unknownText
  version := unknownText
  architecture := unknownText
  uptime := unknownText
  uptimeSeconds := none
  memoryAvailable := unknownText
  memoryTotal := unknownText
  memoryUsage := usageText unknownText unknownText
  pid := unknownText

/-- The section on the host, from a snapshot. -/
def snapshotSection (s : Snapshot) : Except Fault SystemSection := do
  let available ← metricSize s.memoryAvailable
  let total ← metricSize s.memoryTotal
  let uptime ← metricUptime s.uptimeSeconds
  return {
    os := metricText s.osName
    version := metricText s.osVersion
    architecture := metricText s.architecture
    uptime := uptime.1
    uptimeSeconds := uptime.2
    memoryAvailable := available
    memoryTotal := total
    memoryUsage := usageText available total
    pid := metricText s.processId }

/-- The section on the host, from the answer on the snapshot. -/
def systemSection (snapshot : Except ε Snapshot) : Except Fault SystemSection :=
  match snapshot with
  | .ok s => snapshotSection s
  | .error _ => .ok unknownSystem

/-- Is the value a text? -/
def isText : Value → Bool
  | .text _ => true
  | _ => false

/-- Is the value a text or missing? -/
def isOptionalText : Value → Bool
  | .null => true
  | v => isText v

/-- The fields of a component that are not of their type. -/
def componentProblems (c : Component) : List (String × Mismatch) :=
  ([("name", isText c.name), ("version", isText c.version),
    ("description", isOptionalText c.description)].filter (!·.2)).map (·.1, .notText)

/-- What is shown for a component. -/
def componentView (c : Component) : Except Fault ComponentView :=
  match c.name, c.version, c.description with
  | .text name, .text version, .text description => .ok ⟨name, version, some description⟩
  | .text name, .text version, .null => .ok ⟨name, version, none⟩
  | _, _, _ => .error (.invalidFields (componentProblems c))

/-- What is shown for the owner of the latest repository.  A failed answer is told apart from a
missing owner. -/
def ownerText (owner : Except ε Value) : Except Fault (Option String) :=
  match owner with
  | .error _ => .ok (some notAvailable)
  | .ok .null => .ok none
  | .ok v => do
    let name ← requireText "latest_repo_username" v
    return some name

end ForgeDashboard
