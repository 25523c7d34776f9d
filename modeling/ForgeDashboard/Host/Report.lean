import ForgeDashboard.Host.Snapshot

/-!
# Host reports

A host report says what each reading of the host gives: its name, release and machine, its memory,
the clock, the start of this process and its number.  Every reading may fail on its own.  Taking a
snapshot never fails: each field is read by itself, a missing or empty value counts as unreadable,
the available memory is never shown above the total, and the uptime is never negative.

## Main definitions

* `HostReport` : the readings.
* `HostReport.snapshot` : the snapshot taken from them.
-/

namespace ForgeDashboard

/-- What the host says when it is asked for its memory. -/
inductive MemoryReport where
  /-- The question itself failed. -/
  | failed (cause : Fault)
  /-- The answer is no memory report but some other value. -/
  | other (value : Value)
  /-- The answer holds the total and the available number of bytes. -/
  | bytes (total available : Reading)

/-- How the running process is found. -/
inductive ProcessSource where
  /-- It was handed over. -/
  | given
  /-- It is looked up by its number, which may fail. -/
  | lookup (failure : Option Fault)

/-- The readings of a host. -/
structure HostReport where
  system : Reading
  release : Reading
  machine : Reading
  memory : MemoryReport
  now : Reading
  createTime : Reading
  processId : Reading
  process : ProcessSource

namespace HostReport

/-- The reason of a missing or empty value. -/
def emptyReason : String := "empty value"

/-- A field from its reading.  A failure is kept as its reason. -/
def metric {α : Type} (field : String) (reading : Except Fault α) : Metric α :=
  reading.mapError fun f => ⟨field, f.reason⟩

/-- A field that may hold any value that is not empty. -/
def valueMetric (field : String) (reading : Reading) : Metric Value := do
  let v ← metric field reading
  if v.isEmpty then throw ⟨field, emptyReason⟩ else return v

/-- The two numbers of bytes that a memory report holds, total first, or why there are none. -/
def memoryReadings (memory : MemoryReport) : Except String (Reading × Reading) :=
  match memory with
  | .failed f => .error f.reason
  | .other v =>
    if v.isEmpty then .error emptyReason
    else .ok (.error (.noSuchPart v "total"), .error (.noSuchPart v "available"))
  | .bytes total available => .ok (total, available)

/-- A number of bytes. -/
def byteMetric (field : String) (reading : Reading) : Metric Num :=
  metric field do
    let v ← reading
    return .int (← v.toInteger)

/-- The total memory. -/
def memoryTotal (r : HostReport) : Metric Num :=
  match memoryReadings r.memory with
  | .error reason => .error ⟨Snapshot.memoryTotalField, reason⟩
  | .ok bytes => byteMetric Snapshot.memoryTotalField bytes.1

/-- The available memory as the host gives it. -/
def memoryFree (r : HostReport) : Metric Num :=
  match memoryReadings r.memory with
  | .error reason => .error ⟨Snapshot.memoryAvailableField, reason⟩
  | .ok bytes => byteMetric Snapshot.memoryAvailableField bytes.2

/-- The available memory, lowered to the total where both are known. -/
def memoryAvailable (r : HostReport) : Metric Num :=
  match r.memoryTotal, r.memoryFree with
  | .ok total, .ok free => .ok (if total.lt free then total else free)
  | _, free => free

/-- Finds the running process, which may fail. -/
def findProcess (r : HostReport) : Except Fault Unit :=
  match r.process with
  | .given => .ok ()
  | .lookup failure => do
    let _ ← r.processId
    match failure with
    | none => return ()
    | some f => throw f

/-- The number of seconds since the start of the process, at least zero. -/
def uptime (r : HostReport) : Except Fault Num := do
  r.findProcess
  let now ← r.now
  let start ← r.createTime
  let elapsed ← now.subtract start
  return if (Num.float Binary64.zero).lt elapsed then elapsed else .float Binary64.zero

/-- The snapshot of a host. -/
def snapshot (r : HostReport) : Snapshot where
  osName := valueMetric Snapshot.osNameField r.system
  osVersion := valueMetric Snapshot.osVersionField r.release
  architecture := valueMetric Snapshot.architectureField r.machine
  uptimeSeconds := metric Snapshot.uptimeField r.uptime
  memoryAvailable := r.memoryAvailable
  memoryTotal := r.memoryTotal
  processId := valueMetric Snapshot.processIdField r.processId

end HostReport

end ForgeDashboard
