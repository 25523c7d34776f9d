import ForgeDashboard.Proofs.Degradation
import ForgeDashboard.Proofs.HostFields
import ForgeDashboard.Proofs.Outcome
import ForgeDashboard.Proofs.StoreReads

/-!
# Failures are reported with a reason

A failure that becomes a missing value is reported with its text, or with the name of its kind if
the text is empty.  So it is with the sources of the dashboard, whose time-outs are reported as
such, with the queries of the store, with the fields of a snapshot and with the components of the
list.  There is one exception: for the database of the component list the text is noted even if it
is empty.

## Main definitions

* `Fault.IsExplainedBy` : a reason tells what failed.

## Main results

* `isExplainedBy_reason`, `isExplainedBy_text_iff` : the two ways to make a reason.
* `failures_have_reasons` : the reasons of all failures that become missing values.
* `silent_database_without_reason` : the one that is empty.
-/

namespace ForgeDashboard

/-! ### Reasons -/

/-- A reason tells what failed: it is not empty, and it is the text of the failure or, if there is
none, the name of its kind. -/
structure Fault.IsExplainedBy (f : Fault) (reason : String) : Prop where
  ne_empty : reason ≠ ""
  eq_text : f.text ≠ "" → reason = f.text
  eq_name : f.text = "" → reason = f.kind.name

theorem FaultKind.name_ne_empty (kind : FaultKind) : kind.name ≠ "" := by
  cases kind <;> decide

namespace Fault

theorem isExplainedBy_reason (f : Fault) : f.IsExplainedBy f.reason := by
  by_cases htext : f.text = ""
  · have hreason : f.reason = f.kind.name := if_pos htext
    rw [hreason]
    exact ⟨f.kind.name_ne_empty, fun h => absurd htext h, fun _ => rfl⟩
  · have hreason : f.reason = f.text := if_neg htext
    rw [hreason]
    exact ⟨htext, fun _ => rfl, fun h => absurd h htext⟩

/-- The text alone explains a failure only if it is not empty. -/
theorem isExplainedBy_text_iff {f : Fault} : f.IsExplainedBy f.text ↔ f.text ≠ "" :=
  ⟨fun h => h.ne_empty, fun h => ⟨h, fun _ => rfl, fun htext => absurd htext h⟩⟩

end Fault

/-! ### Sources and queries -/

/-- A source that fails in time is reported with a reason; a time-out has a reason of its own. -/
theorem call_of_fails {α : Type} {name : String} {start limit : Binary64} {s : Source Binary64 α}
    {f : Fault} (hin : s.InTime start limit) (hs : s.behaviour = .fails f) :
    ∃ cause, (call name start limit s).result = .error ⟨name, cause⟩ ∧
      if f.kind = .timeout then cause.reason = "timed out after " ++ limit.text ++ "s"
      else f.IsExplainedBy cause.reason := by
  rw [call_of_inTime hin, hs, Behaviour.attempt]
  split_ifs with htimeout
  · exact ⟨.late limit, rfl, rfl⟩
  · exact ⟨.fault f, rfl, f.isExplainedBy_reason⟩

/-- A query that the database fails is reported with a reason. -/
theorem ofQuery_of_database {α : Type} (name : SourceName) {r : Except Fault α} {f : Fault}
    (hr : r = .error f) (hf : f.kind.isDatabase = true) :
    ∃ u : Unavailable Binary64, Behaviour.ofQuery name r = .answers (.error u) ∧
      u.source = name.text ∧ f.IsExplainedBy u.cause.reason := by
  subst hr
  refine ⟨⟨name.text, .fault f⟩, ?_, rfl, f.isExplainedBy_reason⟩
  rw [Behaviour.ofQuery, if_pos hf]

/-! ### Fields of a snapshot -/

/-- A field whose reading failed is reported with a reason. -/
theorem HostReport.content_of_failed {r : HostReport} {field : SnapshotField} {f : Fault}
    (h : r.fieldReading field = .error (.failed f)) :
    ∃ u, field.content r.snapshot = .error u ∧ u.field = field.name ∧ f.IsExplainedBy u.reason :=
  ⟨_, content_eq_error_iff.mpr ⟨_, h, rfl⟩, rfl, f.isExplainedBy_reason⟩

/-! ### Components -/

/-- The warning about an unresolved component. -/
def unresolvedWarning (name reason : String) : LogLine :=
  ⟨.warning, "Version of " ++ name ++ " unresolved: " ++ reason⟩

namespace Inquiry

/-- What is noted of a failed inquiry, and that it is logged. -/
theorem noted_of_failed {i : Installation} {runtimeName : Value} {r : Resolution}
    (hname : i.runtimeName = .ok runtimeName) (hr : i.resolve = .ok r) {q : Inquiry}
    (hq : q ∈ i.inquiries runtimeName) {f : Fault} (hf : q.failure = some f) :
    r.unresolved.filter (·.name == q.name) = [⟨q.name, q.reason f⟩] ∧
      unresolvedWarning q.name (q.reason f) ∈ CommandContext.resolutionLog r := by
  obtain ⟨name, hname', -, rfl⟩ := i.resolve_eq_ok_iff.mp hr
  obtain rfl : name = runtimeName := by simpa [hname] using hname'.symm
  have hnote := note_of_failed hf
  refine ⟨?_, ?_⟩
  · rw [filter_notes_eq (i.nodup_names name) hq, hnote]
    rfl
  · exact List.mem_map.mpr ⟨_, List.mem_filterMap.mpr ⟨q, hq, hnote⟩, rfl⟩

/-- The failure of an inquiry is explained by what is noted of it, unless the database failed
without a text. -/
theorem isExplainedBy_reason_iff {i : Installation} {runtimeName : Value} {q : Inquiry}
    (hq : q ∈ i.inquiries runtimeName) (f : Fault) :
    f.IsExplainedBy (q.reason f) ↔ q.name ≠ "database" ∨ f.text ≠ "" := by
  rcases Installation.exists_ofReading_or_eq_ofEngine hq with
    ⟨name, reading, description, hne, rfl⟩ | rfl
  · exact iff_of_true f.isExplainedBy_reason (.inl hne)
  · have hdatabase : (ofEngine i.engine).name = "database" := rfl
    rw [or_iff_right (not_not.mpr hdatabase)]
    exact Fault.isExplainedBy_text_iff

end Inquiry

/-- **Failures are reported with a reason.**  A source that fails in time, a query that the database
fails, a field whose reading failed and a component that could not be found out are each reported
with a reason that explains the failure.  There are two exceptions.  A time-out of a source is
reported as such, with the limit.  The failure of the database of the component list is noted and
logged with its text alone, so that it is without a reason exactly if that is empty. -/
theorem failures_have_reasons (f : Fault) :
    (∀ (α : Type) (name : String) (start limit : Binary64) (s : Source Binary64 α),
      s.InTime start limit → s.behaviour = .fails f →
        ∃ cause, (call name start limit s).result = .error ⟨name, cause⟩ ∧
          if f.kind = .timeout then cause.reason = "timed out after " ++ limit.text ++ "s"
          else f.IsExplainedBy cause.reason) ∧
    (f.kind.isDatabase = true → ∀ a : Access,
      (∀ kind, a.ask (·.count kind) = .error f →
        ∃ u, (a.count kind : Behaviour Binary64 Int) = .answers (.error u) ∧
          u.source = kind.name ++ ".count" ∧ f.IsExplainedBy u.cause.reason) ∧
      (∀ kind, a.ask (Access.latestEntity · kind) = .error f →
        ∃ u, (a.latest kind : Behaviour Binary64 (Option LatestEntity)) = .answers (.error u) ∧
          u.source = kind.name ++ ".latest" ∧ f.IsExplainedBy u.cause.reason) ∧
      ∀ id, a.ask (·.ownerName id) = .error f →
        ∃ u, (a.owner id : Behaviour Binary64 (Option String)) = .answers (.error u) ∧
          u.source = "repository.owner" ∧ f.IsExplainedBy u.cause.reason) ∧
    (∀ r : HostReport,
      (∀ field, r.fieldReading field = .error (.failed f) →
        ∃ u, field.content r.snapshot = .error u ∧ u.field = field.name ∧
          f.IsExplainedBy u.reason) ∧
      (r.memory = .failed f → ∀ field ∈ [SnapshotField.memoryAvailable, .memoryTotal],
        r.fieldReading field = .error (.failed f))) ∧
    ∀ (i : Installation) (runtimeName : Value) (r : Resolution),
      i.runtimeName = .ok runtimeName → i.resolve = .ok r →
        ∀ q ∈ i.inquiries runtimeName, q.failure = some f → ∃ reason,
          r.unresolved.filter (·.name == q.name) = [⟨q.name, reason⟩] ∧
          unresolvedWarning q.name reason ∈ CommandContext.resolutionLog r ∧
          (f.IsExplainedBy reason ↔ q.name ≠ "database" ∨ f.text ≠ "") := by
  refine ⟨fun α name start limit s => call_of_fails, fun hf a => ⟨fun kind hask => ?_,
    fun kind hask => ?_, fun id hask => ?_⟩, fun r => ⟨fun field => r.content_of_failed, ?_⟩,
    fun i runtimeName r hname hr q hq hf => ?_⟩
  · exact ofQuery_of_database (.count kind) hask hf
  · exact ofQuery_of_database (.latest kind) hask hf
  · exact ofQuery_of_database .owner hask hf
  · intro hmemory field hfield
    simp only [List.mem_cons, List.not_mem_nil, or_false] at hfield
    rcases hfield with rfl | rfl
    · rw [HostReport.fieldReading, hmemory]
      rfl
    · rw [HostReport.fieldReading, hmemory]
      rfl
  · obtain ⟨hnote, hlog⟩ := Inquiry.noted_of_failed hname hr hq hf
    exact ⟨q.reason f, hnote, hlog, Inquiry.isExplainedBy_reason_iff hq f⟩

/-- A failure of the database without a text. -/
def silentFault : Fault := .raised .database (some "")

/-- A host whose memory cannot be looked at, for no reason that is told. -/
def silentHost : HostReport := { plainHost 0 with memory := .failed (.raised .permission none) }

/-- A source that fails at once, without a text. -/
def silentSource : Source Binary64 Snapshot := ⟨0, .fails (.raised .runtime none)⟩

/-- Failures without a text are reported by the names of their kinds. -/
theorem silent_failures_have_reasons :
    silentSource.InTime 0 (.ofRat 5) ∧
      (∃ cause, (call "telemetry" 0 (.ofRat 5) silentSource).result = .error ⟨"telemetry", cause⟩ ∧
        cause.reason = "RuntimeError") ∧
      (∃ u, ((⟨mixedStore, some silentFault⟩ : Access).count .user : Behaviour Binary64 Int) =
        .answers (.error u) ∧ u.cause.reason = "SQLAlchemyError") ∧
      (∃ u, silentHost.snapshot.memoryAvailable = .error u ∧ u.reason = "PermissionError") ∧
      ∃ r, blankDeployment.inspected.resolve = .ok r ∧
        unresolvedWarning "libgit2" "AttributeError" ∈ CommandContext.resolutionLog r := by
  have hin : silentSource.InTime 0 (.ofRat 5) := by decide +kernel
  obtain ⟨hsources, -⟩ := failures_have_reasons (.raised .runtime none)
  obtain ⟨-, hqueries, -⟩ := failures_have_reasons silentFault
  obtain ⟨-, -, hfields, -⟩ := failures_have_reasons (.raised .permission none)
  obtain ⟨-, -, -, hcomponents⟩ := failures_have_reasons (.raised .missingAttribute none)
  refine ⟨hin, ?_, ?_, ?_, ?_⟩
  · obtain ⟨cause, hresult, hreason⟩ := hsources _ "telemetry" _ _ _ hin rfl
    rw [if_neg (by decide)] at hreason
    exact ⟨cause, hresult, hreason.eq_name rfl⟩
  · obtain ⟨u, hu, -, hreason⟩ := (hqueries rfl ⟨mixedStore, some silentFault⟩).1 .user rfl
    exact ⟨u, hu, hreason.eq_name rfl⟩
  · obtain ⟨hfailed, hmemory⟩ := hfields silentHost
    have hreading := hmemory rfl .memoryAvailable List.mem_cons_self
    obtain ⟨u, hu, -, hreason⟩ := hfailed .memoryAvailable hreading
    exact ⟨u, hu, hreason.eq_name rfl⟩
  · obtain ⟨r, hr⟩ : ∃ r, blankDeployment.inspected.resolve = .ok r := ⟨_, rfl⟩
    let libgit2 : Inquiry := .ofReading "libgit2" blankDeployment.inspected.gitLibrary
      (.text "Git implementation")
    have hmem : libgit2 ∈ blankDeployment.inspected.inquiries (.text "CPython") := by
      simp [libgit2, Installation.inquiries, Installation.others]
    obtain ⟨reason, -, hlog, hreason⟩ := hcomponents _ (.text "CPython") r rfl hr libgit2 hmem rfl
    obtain rfl := (hreason.mpr (.inl (by decide))).eq_name rfl
    exact ⟨r, hr, hlog⟩

/-- A deployment whose database fails without a text. -/
def silentDeployment : Deployment :=
  deploymentWith (.ok (.text "2.0")) (.ok (.text "2.0")) (some silentFault)

/-- That the database failed without a text is noted and logged without a reason. -/
theorem silent_database_without_reason :
    ∃ r, silentDeployment.inspected.resolve = .ok r ∧
      silentDeployment.engine.serverVersion = .error silentFault ∧
      r.unresolved = [⟨"database", ""⟩] ∧
      CommandContext.resolutionLog r = [⟨.warning, "Version of database unresolved: "⟩] ∧
      ¬silentFault.IsExplainedBy "" :=
  ⟨_, rfl, rfl, rfl, rfl, fun h => h.ne_empty rfl⟩

end ForgeDashboard
