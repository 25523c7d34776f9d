import ForgeDashboard.Reading

/-!
# Snapshots of the host

A snapshot holds what the host says about itself and about this process at one moment.  A field
that the host refuses to report is marked as unreadable, with its own name and a reason; the other
fields are not touched by that.

## Main definitions

* `Unreadable`, `Metric` : a field that could not be read, and a field.
* `Snapshot` : the seven fields.
* `Snapshot.unreadable` : the names of the fields that could not be read, in field order.
-/

namespace ForgeDashboard

/-- A field that could not be read. -/
structure Unreadable where
  field : String
  reason : String
  deriving DecidableEq

/-- A field of a snapshot. -/
abbrev Metric (α : Type) := Except Unreadable α

/-- What the host reports at one moment. -/
structure Snapshot where
  osName : Metric Value
  osVersion : Metric Value
  architecture : Metric Value
  uptimeSeconds : Metric Num
  memoryAvailable : Metric Num
  memoryTotal : Metric Num
  processId : Metric Value

namespace Snapshot

/-- The names of the fields, in order. -/
def osNameField : String := "os_name"
def osVersionField : String := "os_version"
def architectureField : String := "architecture"
def uptimeField : String := "uptime_seconds"
def memoryAvailableField : String := "memory_available_bytes"
def memoryTotalField : String := "memory_total_bytes"
def processIdField : String := "process_id"

/-- Was the field read? -/
def isRead {α : Type} : Metric α → Bool
  | .ok _ => true
  | .error _ => false

/-- Each field's name with whether it was read, in field order. -/
def readFields (s : Snapshot) : List (String × Bool) :=
  [(osNameField, isRead s.osName), (osVersionField, isRead s.osVersion),
    (architectureField, isRead s.architecture), (uptimeField, isRead s.uptimeSeconds),
    (memoryAvailableField, isRead s.memoryAvailable), (memoryTotalField, isRead s.memoryTotal),
    (processIdField, isRead s.processId)]

/-- The names of the fields that could not be read, in field order. -/
def unreadable (s : Snapshot) : List String :=
  (s.readFields.filter (!·.2)).map (·.1)

end Snapshot

end ForgeDashboard
