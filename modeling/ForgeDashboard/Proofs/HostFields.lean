import ForgeDashboard.Proofs.Integration

/-!
# Fields of a snapshot

Whatever a host reports, each field of its snapshot is a value or is unreadable under its own name.
A field looks at a few readings only: those of its own, and in two cases a little of another one.
Available memory is lowered to the total, and a process that is looked up by its number cannot be
found while the number cannot be read.  So a reading that fails or changes is seen in the fields
that it feeds and nowhere else.

## Main definitions

* `SnapshotField`, `SnapshotField.content` : the fields of a snapshot.
* `Unread`, `HostReport.fieldReading` : what a field gets from the host, or why it gets nothing.
* `HostReading`, `HostReading.feeds` : the readings of a host, and the fields that they feed.
* `HostReport.DiffersIn` : two reports differ in one reading only.

## Main results

* `HostReport.content_eq_error_iff` : a field is unreadable exactly if its reading is.
* `HostReport.content_eq_of_differsIn` : a reading is not seen in the fields that it does not feed.
* `snapshot_bounded_and_isolated` : the bounds of all fields, and their isolation.
-/

namespace ForgeDashboard

/-! ### Fields -/

/-- A field of a snapshot. -/
inductive SnapshotField where
  | osName
  | osVersion
  | architecture
  | uptime
  | memoryAvailable
  | memoryTotal
  | processId
  deriving DecidableEq

namespace SnapshotField

/-- The name of a field. -/
def name : SnapshotField → String
  | osName => "os_name"
  | osVersion => "os_version"
  | architecture => "architecture"
  | uptime => "uptime_seconds"
  | memoryAvailable => "memory_available_bytes"
  | memoryTotal => "memory_total_bytes"
  | processId => "process_id"

/-- What a field holds. -/
abbrev Content : SnapshotField → Type
  | osName | osVersion | architecture | processId => Value
  | uptime | memoryAvailable | memoryTotal => Num

/-- A field of a snapshot. -/
def content (s : Snapshot) : (field : SnapshotField) → Metric field.Content
  | osName => s.osName
  | osVersion => s.osVersion
  | architecture => s.architecture
  | uptime => s.uptimeSeconds
  | memoryAvailable => s.memoryAvailable
  | memoryTotal => s.memoryTotal
  | processId => s.processId

end SnapshotField

/-! ### What a field gets from the host -/

/-- Why a field gets nothing from the host. -/
inductive Unread where
  /-- The reading failed. -/
  | failed (f : Fault)
  /-- There was no value, or an empty text. -/
  | empty

/-- The reason that is given for a field that got nothing. -/
def Unread.reason : Unread → String
  | failed f => f.reason
  | empty => "empty value"

/-- A reading that counts as none if it is empty. -/
def told (reading : Reading) : Except Unread Value :=
  match reading with
  | .error f => .error (.failed f)
  | .ok v => if v.isEmpty then .error .empty else .ok v

/-- The number of bytes that a memory report holds in a part of the given name. -/
def MemoryReport.bytesIn (part : String) (pick : Reading × Reading → Reading) :
    MemoryReport → Except Unread Num
  | .failed f => .error (.failed f)
  | .other v => if v.isEmpty then .error .empty else .error (.failed (.noSuchPart v part))
  | .bytes total available =>
    Num.int <$> (pick (total, available) >>= Value.toInteger).mapError .failed

/-- Available memory, lowered to the total where both are known. -/
def clampedTo : Metric Num → Metric Num → Metric Num
  | .ok (.int total), .ok (.int free) => .ok (.int (min total free))
  | _, free => free

namespace HostReport

/-- What a field gets from the host.  Available memory is not yet lowered to the total. -/
def fieldReading (r : HostReport) : (field : SnapshotField) → Except Unread field.Content
  | .osName => told r.system
  | .osVersion => told r.release
  | .architecture => told r.machine
  | .uptime => r.uptime.mapError .failed
  | .memoryAvailable => r.memory.bytesIn "available" Prod.snd
  | .memoryTotal => r.memory.bytesIn "total" Prod.fst
  | .processId => told r.processId

/-- What a field shows of its reading. -/
def noted {α : Type} (field : SnapshotField) (reading : Except Unread α) : Metric α :=
  reading.mapError fun e => ⟨field.name, e.reason⟩

theorem noted_eq_error_iff {α : Type} {field : SnapshotField} {reading : Except Unread α}
    {u : Unreadable} :
    noted field reading = .error u ↔ ∃ e, reading = .error e ∧ u = ⟨field.name, e.reason⟩ := by
  rcases reading with e | a
  · simp [noted, Except.mapError, eq_comm]
  · simp [noted, Except.mapError]

theorem noted_eq_ok_iff {α : Type} {field : SnapshotField} {reading : Except Unread α} {a : α} :
    noted field reading = .ok a ↔ reading = .ok a := by
  rcases reading with e | b <;> simp [noted, Except.mapError]

theorem valueMetric_eq (field : SnapshotField) (reading : Reading) :
    valueMetric field.name reading = noted field (told reading) := by
  rcases reading with f | v
  · rfl
  · by_cases hv : v.isEmpty = true
    · simp only [valueMetric, metric, Except.mapError, told, noted, bind, Except.bind, if_pos hv]
      rfl
    · simp only [valueMetric, metric, Except.mapError, told, noted, bind, Except.bind, if_neg hv]
      rfl

/-- A part of a memory report that cannot be looked at is unreadable for the reason of the whole. -/
theorem noted_bytesIn (m : MemoryReport) (field : SnapshotField) {part : String}
    {pick : Reading × Reading → Reading}
    (hpart : ∀ v, pick (.error (.noSuchPart v "total"), .error (.noSuchPart v "available")) =
      .error (.noSuchPart v part)) :
    (match memoryReadings m with
      | .error reason => .error ⟨field.name, reason⟩
      | .ok bytes => byteMetric field.name (pick bytes)) = noted field (m.bytesIn part pick) := by
  rcases m with f | v | ⟨total, available⟩
  · rfl
  · by_cases hv : v.isEmpty = true
    · simp only [memoryReadings, MemoryReport.bytesIn, if_pos hv]
      rfl
    · simp only [memoryReadings, MemoryReport.bytesIn, if_neg hv, hpart]
      rfl
  · simp only [memoryReadings, MemoryReport.bytesIn, byteMetric]
    rcases pick (total, available) with f | v
    · rfl
    · show metric _ (v.toInteger >>= _) = noted _ (_ <$> v.toInteger.mapError _)
      rcases v.toInteger with f | k <;> rfl

theorem memoryTotal_eq (r : HostReport) :
    r.memoryTotal = noted .memoryTotal (r.fieldReading .memoryTotal) :=
  noted_bytesIn r.memory .memoryTotal fun _ => rfl

theorem memoryFree_eq (r : HostReport) :
    r.memoryFree = noted .memoryAvailable (r.fieldReading .memoryAvailable) :=
  noted_bytesIn r.memory .memoryAvailable fun _ => rfl

/-- Available memory is the free memory, lowered to the total. -/
theorem memoryAvailable_eq (r : HostReport) :
    r.memoryAvailable = clampedTo r.memoryTotal r.memoryFree := by
  rw [memoryAvailable]
  rcases ht : r.memoryTotal with u | t
  · rfl
  obtain ⟨t, rfl⟩ := exists_int_of_memoryTotal ht
  rcases hf : r.memoryFree with u | f
  · rfl
  obtain ⟨f, rfl⟩ := exists_int_of_memoryFree hf
  simp only [clampedTo, lt_int_int, decide_eq_true_eq]
  split_ifs with hlt
  · rw [min_eq_left hlt.le]
  · rw [min_eq_right (not_lt.mp hlt)]

/-- A field shows what it got from the host; only available memory is lowered to the total. -/
theorem content_eq_noted (r : HostReport) {field : SnapshotField} (h : field ≠ .memoryAvailable) :
    field.content r.snapshot = noted field (r.fieldReading field) := by
  cases field with
  | osName => exact valueMetric_eq .osName r.system
  | osVersion => exact valueMetric_eq .osVersion r.release
  | architecture => exact valueMetric_eq .architecture r.machine
  | uptime =>
    show metric _ r.uptime = noted .uptime (r.uptime.mapError .failed)
    rcases r.uptime with f | n <;> rfl
  | memoryAvailable => exact absurd rfl h
  | memoryTotal => exact r.memoryTotal_eq
  | processId => exact valueMetric_eq .processId r.processId

theorem content_memoryAvailable_eq (r : HostReport) :
    r.snapshot.memoryAvailable =
      clampedTo r.snapshot.memoryTotal (noted .memoryAvailable (r.fieldReading .memoryAvailable)) :=
  r.memoryAvailable_eq.trans (congrArg (clampedTo r.memoryTotal) r.memoryFree_eq)

theorem clampedTo_eq_error_iff {total free : Metric Num} {u : Unreadable} :
    clampedTo total free = .error u ↔ free = .error u := by
  unfold clampedTo
  split
  · simp
  · exact Iff.rfl

/-- A field is unreadable exactly if its reading is, and then under its own name. -/
theorem content_eq_error_iff {r : HostReport} {field : SnapshotField} {u : Unreadable} :
    field.content r.snapshot = .error u ↔
      ∃ e, r.fieldReading field = .error e ∧ u = ⟨field.name, e.reason⟩ := by
  by_cases h : field = .memoryAvailable
  · subst h
    show r.snapshot.memoryAvailable = .error u ↔ _
    rw [content_memoryAvailable_eq, clampedTo_eq_error_iff]
    exact noted_eq_error_iff
  · rw [r.content_eq_noted h]
    exact noted_eq_error_iff

/-- A field holds a value exactly if the host gave one for it. -/
theorem exists_content_iff {r : HostReport} {field : SnapshotField} :
    (∃ c, field.content r.snapshot = .ok c) ↔ ∃ c, r.fieldReading field = .ok c := by
  have herror : (∃ u, field.content r.snapshot = .error u) ↔
      ∃ e, r.fieldReading field = .error e := by
    simp only [content_eq_error_iff]
    constructor
    · rintro ⟨_, e, he, -⟩
      exact ⟨e, he⟩
    · rintro ⟨e, he⟩
      exact ⟨_, e, he, rfl⟩
  rcases hcontent : field.content r.snapshot with u | c
  · rcases hreading : r.fieldReading field with e | d
    · simp
    · simp [hcontent, hreading] at herror
  · rcases hreading : r.fieldReading field with e | d
    · simp [hcontent, hreading] at herror
    · simp

/-! ### Bounds -/

theorem told_eq_ok_iff {reading : Reading} {v : Value} :
    told reading = .ok v ↔ reading = .ok v ∧ v ≠ .null ∧ v ≠ .text "" := by
  rcases reading with f | w
  · simp [told]
  · have hempty : w.isEmpty = true ↔ w = .null ∨ w = .text "" := by
      cases w <;> simp [Value.isEmpty]
    rw [told]
    split_ifs with hw
    · refine iff_of_false (by simp) ?_
      rintro ⟨hv, hnull, htext⟩
      cases hv
      exact (hempty.mp hw).elim hnull htext
    · rw [hempty, not_or] at hw
      constructor
      · rintro ⟨⟩
        exact ⟨rfl, hw⟩
      · rintro ⟨⟨⟩, -⟩
        rfl

theorem ne_empty_of_valueMetric (field : SnapshotField) {reading : Reading} {v : Value}
    (h : valueMetric field.name reading = .ok v) : v ≠ .null ∧ v ≠ .text "" := by
  rw [valueMetric_eq, noted_eq_ok_iff, told_eq_ok_iff] at h
  exact h.2

/-- A number of seconds that is raised to zero is a number, and not below zero. -/
theorem not_isNegative_notBelowZero (n : Num) :
    (notBelowZero n).isNegative = false ∧ notBelowZero n ≠ .float .nan := by
  rw [notBelowZero, zero_lt_eq]
  split_ifs with hpos
  · refine ⟨Bool.eq_false_iff.mpr (not_isNegative_of_zero_lt hpos), ?_⟩
    rintro rfl
    cases hpos
  · exact ⟨by decide +kernel, by simp [Binary64.zero]⟩

theorem not_isNegative_of_uptime {r : HostReport} {n : Num}
    (h : r.snapshot.uptimeSeconds = .ok n) : n.isNegative = false ∧ n ≠ .float .nan := by
  have huptime : metric _ r.uptime = .ok n := h
  rw [uptime_eq] at huptime
  rcases helapsed : r.elapsed with f | elapsed
  · rw [helapsed] at huptime
    cases huptime
  · rw [helapsed] at huptime
    cases huptime
    exact not_isNegative_notBelowZero elapsed

/-- Memory that is lowered to a total is not above it. -/
theorem memoryAvailable_le_memoryTotal {r : HostReport} {a t : Num}
    (ha : r.snapshot.memoryAvailable = .ok a) (ht : r.snapshot.memoryTotal = .ok t) :
    a.le t = true := by
  obtain ⟨t, rfl⟩ := exists_int_of_memoryTotal ht
  have havailable : clampedTo r.memoryTotal r.memoryFree = .ok a := r.memoryAvailable_eq ▸ ha
  have htotal : r.memoryTotal = .ok (.int t) := ht
  rcases hf : r.memoryFree with u | f
  · rw [htotal, hf] at havailable
    cases havailable
  obtain ⟨f, rfl⟩ := exists_int_of_memoryFree hf
  rw [htotal, hf] at havailable
  cases havailable
  simp [Num.le, Num.line?, Line.lt]

end HostReport

/-! ### Isolation -/

/-- A reading of the host. -/
inductive HostReading where
  | system
  | release
  | machine
  /-- The memory report as a whole. -/
  | memory
  /-- The total in a memory report. -/
  | memoryTotal
  /-- The available number in a memory report. -/
  | memoryAvailable
  | clock
  | createTime
  /-- How the running process is found. -/
  | process
  | processId
  deriving DecidableEq

/-- The fields that a reading feeds. -/
def HostReading.feeds : HostReading → List SnapshotField
  | system => [.osName]
  | release => [.osVersion]
  | machine => [.architecture]
  | memory => [.memoryTotal, .memoryAvailable]
  | memoryTotal => [.memoryTotal, .memoryAvailable]
  | memoryAvailable => [.memoryAvailable]
  | clock => [.uptime]
  | createTime => [.uptime]
  | process => [.uptime]
  | processId => [.processId, .uptime]

namespace HostReport

/-- Two reports differ in one reading only. -/
inductive DiffersIn (r : HostReport) : HostReading → HostReport → Prop
  | system (reading : Reading) : DiffersIn r .system { r with system := reading }
  | release (reading : Reading) : DiffersIn r .release { r with release := reading }
  | machine (reading : Reading) : DiffersIn r .machine { r with machine := reading }
  | memory (memory : MemoryReport) : DiffersIn r .memory { r with memory := memory }
  | memoryTotal {total available : Reading} (h : r.memory = .bytes total available)
      (reading : Reading) :
      DiffersIn r .memoryTotal { r with memory := .bytes reading available }
  | memoryAvailable {total available : Reading} (h : r.memory = .bytes total available)
      (reading : Reading) :
      DiffersIn r .memoryAvailable { r with memory := .bytes total reading }
  | clock (reading : Reading) : DiffersIn r .clock { r with now := reading }
  | createTime (reading : Reading) : DiffersIn r .createTime { r with createTime := reading }
  | process (process : ProcessSource) : DiffersIn r .process { r with process := process }
  | processId (reading : Reading) : DiffersIn r .processId { r with processId := reading }

variable {r r' : HostReport} {x : HostReading} {field : SnapshotField}

/-- A field gets the same from reports that differ in a reading that does not feed it.  Before it is
lowered, available memory does so even where the total differs. -/
theorem fieldReading_eq_of_differsIn (h : r.DiffersIn x r')
    (hfield : field ∉ x.feeds ∨ x = .memoryTotal ∧ field = .memoryAvailable) :
    r.fieldReading field = r'.fieldReading field := by
  cases h with
  | system reading =>
    cases field with
    | osName => simp [HostReading.feeds] at hfield
    | _ => rfl
  | release reading =>
    cases field with
    | osVersion => simp [HostReading.feeds] at hfield
    | _ => rfl
  | machine reading =>
    cases field with
    | architecture => simp [HostReading.feeds] at hfield
    | _ => rfl
  | memory memory =>
    cases field with
    | memoryTotal => simp [HostReading.feeds] at hfield
    | memoryAvailable => simp [HostReading.feeds] at hfield
    | _ => rfl
  | memoryTotal hmemory reading =>
    cases field with
    | memoryTotal => simp [HostReading.feeds] at hfield
    | memoryAvailable =>
      rw [fieldReading, fieldReading, hmemory]
      rfl
    | _ => rfl
  | memoryAvailable hmemory reading =>
    cases field with
    | memoryTotal =>
      rw [fieldReading, fieldReading, hmemory]
      rfl
    | memoryAvailable => simp [HostReading.feeds] at hfield
    | _ => rfl
  | clock reading =>
    cases field with
    | uptime => simp [HostReading.feeds] at hfield
    | _ => rfl
  | createTime reading =>
    cases field with
    | uptime => simp [HostReading.feeds] at hfield
    | _ => rfl
  | process process =>
    cases field with
    | uptime => simp [HostReading.feeds] at hfield
    | _ => rfl
  | processId reading =>
    cases field with
    | uptime => simp [HostReading.feeds] at hfield
    | processId => simp [HostReading.feeds] at hfield
    | _ => rfl

/-- A reading is not seen in the fields that it does not feed. -/
theorem content_eq_of_differsIn (h : r.DiffersIn x r') (hfield : field ∉ x.feeds) :
    field.content r.snapshot = field.content r'.snapshot := by
  have hreading := fieldReading_eq_of_differsIn h (Or.inl hfield)
  by_cases havailable : field = .memoryAvailable
  · subst havailable
    have htotal : r.fieldReading .memoryTotal = r'.fieldReading .memoryTotal := by
      refine fieldReading_eq_of_differsIn h (Or.inl ?_)
      cases x <;> simp_all [HostReading.feeds]
    have htotal : r.snapshot.memoryTotal = r'.snapshot.memoryTotal := by
      have hne : SnapshotField.memoryTotal ≠ .memoryAvailable := by decide
      have hcontent := r.content_eq_noted hne
      rw [htotal, ← r'.content_eq_noted hne] at hcontent
      exact hcontent
    show r.snapshot.memoryAvailable = r'.snapshot.memoryAvailable
    rw [content_memoryAvailable_eq, content_memoryAvailable_eq, hreading, htotal]
  · rw [r.content_eq_noted havailable, r'.content_eq_noted havailable, hreading]

/-- A total is seen in available memory only as far as that is lowered to it. -/
theorem exists_clampedTo_of_differsIn (h : r.DiffersIn .memoryTotal r') :
    ∃ free, r.snapshot.memoryAvailable = clampedTo r.snapshot.memoryTotal free ∧
      r'.snapshot.memoryAvailable = clampedTo r'.snapshot.memoryTotal free := by
  refine ⟨_, r.content_memoryAvailable_eq, ?_⟩
  rw [fieldReading_eq_of_differsIn h (Or.inr ⟨rfl, rfl⟩)]
  exact r'.content_memoryAvailable_eq

/-- The number of the process is not seen in the uptime if the process was handed over, or if the
number can be read. -/
theorem uptime_eq_of_differsIn (h : r.DiffersIn .processId r')
    (hfound : r.process = .given ∨ (∃ v, r.processId = .ok v) ∧ ∃ v, r'.processId = .ok v) :
    r.snapshot.uptimeSeconds = r'.snapshot.uptimeSeconds := by
  cases h with
  | processId reading =>
    have hprocess : r.findProcess = { r with processId := reading }.findProcess := by
      rcases hfound with hgiven | ⟨⟨v, hv⟩, v', hv'⟩
      · simp only [findProcess, hgiven]
      · have hv' : reading = .ok v' := hv'
        simp only [findProcess, hv, hv']
        rfl
    show metric _ r.uptime = metric _ { r with processId := reading }.uptime
    rw [uptime, uptime, hprocess]

end HostReport

/-- **Snapshots are bounded, and their fields isolated.**  Whatever a host reports, there is a
snapshot, and each of its fields is a value or is unreadable under its own name, the former exactly
if the host gave a value for it.  The texts of a snapshot are not empty, its uptime is a number not
below zero, and its available memory is at most the total.  A reading is not seen in the fields that
it does not feed.  A total is seen in available memory only as far as that is lowered to it, and the
number of the process is seen in the uptime only if it cannot be read and the process is looked
up. -/
theorem snapshot_bounded_and_isolated :
    (∀ r : HostReport,
      (∀ field : SnapshotField,
        ((∃ c, field.content r.snapshot = .ok c) ↔ ∃ c, r.fieldReading field = .ok c) ∧
          ∀ u, field.content r.snapshot = .error u → u.field = field.name) ∧
      (∀ text ∈ [r.snapshot.osName, r.snapshot.osVersion, r.snapshot.architecture],
        ∀ v, text = .ok v → v ≠ .null ∧ v ≠ .text "") ∧
      (∀ n, r.snapshot.uptimeSeconds = .ok n → n.isNegative = false ∧ n ≠ .float .nan) ∧
      ∀ a t, r.snapshot.memoryAvailable = .ok a → r.snapshot.memoryTotal = .ok t →
        a.le t = true) ∧
    ∀ r r' : HostReport,
      (∀ x, r.DiffersIn x r' → ∀ field ∉ x.feeds,
        field.content r.snapshot = field.content r'.snapshot) ∧
      (r.DiffersIn .memoryTotal r' → ∃ free,
        r.snapshot.memoryAvailable = clampedTo r.snapshot.memoryTotal free ∧
          r'.snapshot.memoryAvailable = clampedTo r'.snapshot.memoryTotal free) ∧
      (r.DiffersIn .processId r' →
        (r.process = .given ∨ (∃ v, r.processId = .ok v) ∧ ∃ v, r'.processId = .ok v) →
          r.snapshot.uptimeSeconds = r'.snapshot.uptimeSeconds) := by
  refine ⟨fun r => ⟨fun field => ⟨HostReport.exists_content_iff, fun u hu => ?_⟩,
    fun text htext v hv => ?_, fun n => HostReport.not_isNegative_of_uptime,
    fun a t => HostReport.memoryAvailable_le_memoryTotal⟩,
    fun r r' => ⟨fun x h field => HostReport.content_eq_of_differsIn h,
      HostReport.exists_clampedTo_of_differsIn, HostReport.uptime_eq_of_differsIn⟩⟩
  · obtain ⟨e, -, rfl⟩ := HostReport.content_eq_error_iff.mp hu
    rfl
  · simp only [List.mem_cons, List.not_mem_nil, or_false] at htext
    rcases htext with rfl | rfl | rfl
    · exact HostReport.ne_empty_of_valueMetric .osName hv
    · exact HostReport.ne_empty_of_valueMetric .osVersion hv
    · exact HostReport.ne_empty_of_valueMetric .architecture hv

/-- A host of two gibibytes that does not tell its total, and says that three billion bytes are
free. -/
def totalDenied : HostReport :=
  { plainHost 3000000000 with
    memory := .bytes (.error (.raised .permission none)) (.ok (.num (.int 3000000000))) }

/-- Without its total the host keeps all other fields, and its free memory is no longer lowered. -/
theorem denied_total_leaves_fields :
    (plainHost 3000000000).DiffersIn .memoryTotal totalDenied ∧
      (plainHost 3000000000).snapshot.memoryAvailable = .ok (.int 2147483648) ∧
      (plainHost 3000000000).snapshot.memoryTotal = .ok (.int 2147483648) ∧
      (Num.int 2147483648).le (.int 2147483648) = true ∧
      totalDenied.snapshot.memoryAvailable = .ok (.int 3000000000) ∧
      totalDenied.snapshot.memoryTotal = .error ⟨"memory_total_bytes", "PermissionError"⟩ ∧
      (plainHost 3000000000).snapshot.uptimeSeconds = totalDenied.snapshot.uptimeSeconds ∧
      (plainHost 3000000000).snapshot.processId = totalDenied.snapshot.processId := by
  have hdiffers : (plainHost 3000000000).DiffersIn .memoryTotal totalDenied := .memoryTotal rfl _
  have htotal : (plainHost 3000000000).snapshot.memoryTotal = .ok (.int 2147483648) := rfl
  have havailable : (plainHost 3000000000).snapshot.memoryAvailable = .ok (.int 2147483648) := by
    rw [HostReport.content_memoryAvailable_eq, htotal]
    rfl
  obtain ⟨hbounds, hisolated⟩ := snapshot_bounded_and_isolated
  obtain ⟨hfields, -, -⟩ := hisolated (plainHost 3000000000) totalDenied
  exact ⟨hdiffers, havailable, htotal, (hbounds _).2.2.2 _ _ havailable htotal, rfl, rfl,
    hfields _ hdiffers .uptime (by decide), hfields _ hdiffers .processId (by decide)⟩

end ForgeDashboard
