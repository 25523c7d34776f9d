import ForgeDashboard.Proofs.ComponentList
import ForgeDashboard.Proofs.Integration
import ForgeDashboard.Service.App

/-!
# Which missing versions the start survives

A version that cannot be determined is listed as unknown, whatever the component: a package or a
part of one is missing, or the database or the operating system fails.  The database is stricter
than the other components.  It is unknown only if the failure is one of the database itself; if,
say, the connection to it is refused by the operating system, nothing is listed at all, and the
service does not start.  Nor does it start if its tables cannot be made, for which there has to be a
connection, whatever the reason.

## Main results

* `firstFatal_eq_of_undetermined` : of the failures that leave a version unknown elsewhere, only one
  of the database can stop the whole.
* `App.start_eq_ok_iff`, `App.start_eq_error_iff` : when the service starts, and why it does not.
* `start_survives_iff` : when the components are listed and when the service starts.
-/

namespace ForgeDashboard

/-! ### Notes -/

namespace Inquiry

theorem name_of_note {q : Inquiry} {u : Unresolved} (h : q.note = some u) : u.name = q.name := by
  unfold note at h
  split at h
  · cases h
  · cases h
    rfl
  · cases h
    rfl

/-- The notes under the name of an inquiry are its own, if the names differ. -/
theorem filter_notes_eq {qs : List Inquiry} (hnames : (qs.map name).Nodup) {q : Inquiry}
    (hq : q ∈ qs) : (qs.filterMap note).filter (·.name == q.name) = q.note.toList :=
  filter_filterMap_eq_toList (fun _ _ => name_of_note) hnames hq

theorem note_of_failed {q : Inquiry} {f : Fault} (h : q.failure = some f) :
    q.note = some ⟨q.name, q.reason f⟩ := by
  unfold failure at h
  split at h
  · next g hreading =>
    cases h
    simp [note, hreading]
  · cases h

theorem version_entry_of_failed {q : Inquiry} {f : Fault} (h : q.failure = some f) :
    q.entry.version = .text "unknown" := by
  unfold failure at h
  split at h
  · next g hreading => simp [entry, hreading]
  · cases h

theorem fatal_eq_some_iff {q : Inquiry} {f : Fault} :
    q.fatal = some f ↔ q.failure = some f ∧ q.isRecoverable f.kind = false := by
  rw [fatal]
  rcases q.failure with _ | g
  · simp
  · simp only [Option.ite_none_left_eq_some, Option.some.injEq, Bool.not_eq_true]
    constructor
    · rintro ⟨h, rfl⟩
      exact ⟨rfl, h⟩
    · rintro ⟨rfl, h⟩
      exact ⟨h, rfl⟩

/-- The database fails as its server does. -/
theorem failure_ofEngine_eq_some_iff {engine : Option Engine} {f : Fault} :
    (ofEngine engine).failure = some f ↔ ∃ e, engine = some e ∧ e.serverVersion = .error f := by
  rcases engine with _ | ⟨dialect, _ | g, g | version⟩ <;>
    simp [failure, ofEngine, Engine.serverVersion, Except.map]

end Inquiry

/-! ### Failures that mean that a version cannot be determined -/

namespace Installation

variable {i : Installation} {runtimeName : Value}

/-- All inquiries but the one about the database are about a module, a package or a part of one. -/
theorem exists_ofReading_or_eq_ofEngine {q : Inquiry} (hq : q ∈ i.inquiries runtimeName) :
    (∃ name reading description, name ≠ "database" ∧ q = .ofReading name reading description) ∨
      q = .ofEngine i.engine := by
  simp only [inquiries, others, List.mem_cons, List.not_mem_nil, or_false] at hq
  rcases hq with rfl | rfl | rfl | hq
  · exact .inl ⟨"gitarena", _, _, by decide, rfl⟩
  · exact .inl ⟨"python", _, _, by decide, rfl⟩
  · exact .inr rfl
  · rcases hq with rfl | rfl | rfl | rfl | rfl | rfl | rfl
    all_goals exact .inl ⟨_, _, _, by decide, rfl⟩

/-- All inquiries but the one about the database forgive the same failures. -/
theorem isRecoverable_or_eq_ofEngine {q : Inquiry} (hq : q ∈ i.inquiries runtimeName) :
    q.isRecoverable = isUndetermined ∨ q = .ofEngine i.engine := by
  refine (exists_ofReading_or_eq_ofEngine hq).imp_left ?_
  rintro ⟨name, reading, description, -, rfl⟩
  rfl

theorem ofEngine_mem_inquiries : .ofEngine i.engine ∈ i.inquiries runtimeName := by
  simp [inquiries, others]

/-- Once the name of the runtime is known, the inquiries alone decide. -/
theorem firstFatal_eq_findSome (hname : i.runtimeName = .ok runtimeName) :
    i.firstFatal = (i.inquiries runtimeName).findSome? Inquiry.fatal := by
  rw [firstFatal, hname, inquiries, List.findSome?_cons]
  rcases i.program.fatal with _ | f <;> rfl

/-- If all failures mean that a version cannot be determined, only that of the database can stop the
whole. -/
theorem firstFatal_eq_of_undetermined (hname : i.runtimeName = .ok runtimeName)
    (hundetermined : ∀ q ∈ i.inquiries runtimeName, ∀ f,
      q.failure = some f → isUndetermined f.kind = true) :
    i.firstFatal = (Inquiry.ofEngine i.engine).fatal := by
  have hothers : ∀ q ∈ i.inquiries runtimeName, q = .ofEngine i.engine ∨ q.fatal = none := by
    intro q hq
    rcases isRecoverable_or_eq_ofEngine hq with hrecoverable | rfl
    · refine .inr (Inquiry.fatal_eq_none_iff.mpr ?_)
      rw [hrecoverable]
      exact hundetermined q hq
    · exact .inl rfl
  rw [firstFatal_eq_findSome hname]
  rcases hfatal : (Inquiry.ofEngine i.engine).fatal with _ | f
  · refine List.findSome?_eq_none_iff.mpr fun q hq => ?_
    rcases hothers q hq with rfl | hnone
    · exact hfatal
    · exact hnone
  · rcases hfind : (i.inquiries runtimeName).findSome? Inquiry.fatal with _ | g
    · have hnone := List.findSome?_eq_none_iff.mp hfind _ ofEngine_mem_inquiries
      simp [hnone] at hfatal
    · obtain ⟨q, hq, hsome⟩ := List.exists_of_findSome?_eq_some hfind
      rcases hothers q hq with rfl | hnone
      · rw [← hsome, hfatal]
      · simp [hnone] at hsome

end Installation

/-- What is inspected when the service starts: the database is that of the deployment. -/
def Deployment.inspected (d : Deployment) : Installation :=
  { d.installation with engine := some d.engine }

namespace Deployment

variable {d : Deployment}

theorem createTables_of_none (h : d.createFailure = none) : d.createTables = .ok d.withTables := by
  rw [createTables, h]

theorem createTables_of_some {f : Fault} (h : d.createFailure = some f) :
    d.createTables = .error f := by
  rw [createTables, h]

/-- Without a connection no table is made. -/
theorem createFailure_of_connectFailure {f : Fault} (h : d.engine.connectFailure = some f) :
    d.createFailure = some f := by
  rw [createFailure, h]

end Deployment

namespace App

variable {d : Deployment}

/-- The service does not start without its tables. -/
theorem start_of_some {f : Fault} (h : d.createFailure = some f) : start d = .error f := by
  rw [start, Deployment.createTables_of_some h]
  rfl

/-- Once its tables are made, the service starts with the components that are listed. -/
theorem start_of_none (h : d.createFailure = none) :
    start d = (fun r : Resolution => (⟨r.registry⟩, d.withTables)) <$> d.inspected.resolve := by
  rw [start, Deployment.createTables_of_none h]
  have hresolve : d.withTables.resolve = d.inspected.resolve := rfl
  show (d.withTables.resolve >>= _) = _
  rw [hresolve]
  cases d.inspected.resolve <;> rfl

/-- Why the service does not start: its tables cannot be made, or its components cannot be
listed. -/
theorem start_eq_error_iff {f : Fault} :
    start d = .error f ↔
      d.createFailure = some f ∨ (d.createFailure = none ∧ d.inspected.resolve = .error f) := by
  rcases h : d.createFailure with _ | g
  · rw [start_of_none h]
    rcases d.inspected.resolve with g | r <;> simp
  · simp [start_of_some h]

/-- The service starts exactly if its tables can be made and its components are listed. -/
theorem start_eq_ok_iff {app : App} {d' : Deployment} :
    start d = .ok (app, d') ↔ d.createFailure = none ∧ d' = d.withTables ∧
      ∃ r, d.inspected.resolve = .ok r ∧ app = ⟨r.registry⟩ := by
  rcases h : d.createFailure with _ | g
  · rw [start_of_none h]
    rcases d.inspected.resolve with g | r
    · simp
    · simp [eq_comm, and_comm]
  · simp [start_of_some h]

end App

/-- **Only the database decides whether the program starts.**  Let every failure be one that leaves
a version unknown: something is missing, or the database or the operating system fails.  Then the
components are listed exactly if the failure of the database, if there is one, is one of the
database itself; any other failure of it is the failure of the whole.  Whenever the components are
listed, there are ten of them, and each one that failed has an unknown version and one note.  The
service starts exactly if they are listed and its tables can be made, and otherwise fails with the
failure of the one or the other; so no failure to connect to the database is survived. -/
theorem start_survives_iff (i : Installation) (runtimeName : Value)
    (hname : i.runtimeName = .ok runtimeName)
    (hundetermined : ∀ q ∈ i.inquiries runtimeName, ∀ f,
      q.failure = some f → isUndetermined f.kind = true) :
    ((∃ r, i.resolve = .ok r) ↔ ∀ e f, i.engine = some e → e.serverVersion = .error f →
      f.kind.isDatabase = true) ∧
    (∀ f, i.resolve = .error f ↔ ∃ e, i.engine = some e ∧ e.serverVersion = .error f ∧
      f.kind.isDatabase = false) ∧
    (∀ r, i.resolve = .ok r → r.components.length = 10 ∧
      ∀ q ∈ i.inquiries runtimeName, ∀ f, q.failure = some f →
        r.registry.versionOf q.name = .text "unknown" ∧
        r.unresolved.filter (·.name == q.name) = [⟨q.name, q.reason f⟩]) ∧
    ∀ d : Deployment, d.inspected = i →
      ((∃ started, App.start d = .ok started) ↔
        d.createFailure = none ∧ ∃ r, i.resolve = .ok r) ∧
      (∀ f, App.start d = .error f ↔
        d.createFailure = some f ∨ (d.createFailure = none ∧ i.resolve = .error f)) ∧
      ∀ f, d.engine.connectFailure = some f → d.createFailure = some f := by
  have hfirst := Installation.firstFatal_eq_of_undetermined hname hundetermined
  have hfails : FailsWith (Inquiry.ofEngine i.engine).fatal i.resolve :=
    hfirst ▸ i.resolve_failsWith
  refine ⟨?_, fun f => ?_, fun r hr => ?_, ?_⟩
  · rw [hfails.exists_ok_iff, Inquiry.fatal_eq_none_iff]
    simp only [Inquiry.failure_ofEngine_eq_some_iff]
    constructor
    · intro h e f he hf
      exact h f ⟨e, he, hf⟩
    · rintro h f ⟨e, he, hf⟩
      exact h e f he hf
  · rw [hfails.eq_error_iff, Inquiry.fatal_eq_some_iff, Inquiry.failure_ofEngine_eq_some_iff]
    constructor
    · rintro ⟨⟨e, he, hf⟩, hkind⟩
      exact ⟨e, he, hf, hkind⟩
    · rintro ⟨e, he, hf, hkind⟩
      exact ⟨⟨e, he, hf⟩, hkind⟩
  · obtain ⟨name, hname', -, rfl⟩ := i.resolve_eq_ok_iff.mp hr
    obtain rfl : name = runtimeName := by simpa [hname] using hname'.symm
    refine ⟨rfl, fun q hq f hf => ⟨?_, ?_⟩⟩
    · rw [← Inquiry.version_entry_of_failed hf]
      exact Inquiry.versionOf_map_entry (i.nodup_names name) hq
    · rw [Inquiry.filter_notes_eq (i.nodup_names name) hq, Inquiry.note_of_failed hf]
      rfl
  · rintro d rfl
    refine ⟨?_, fun f => App.start_eq_error_iff,
      fun f => Deployment.createFailure_of_connectFailure⟩
    simp [Prod.exists, App.start_eq_ok_iff]

/-- A deployment with an SQLite database that may refuse to be connected to, the versions of whose
packages and of whose runtime are read alike. -/
def deploymentWith (version gitLibrary : Reading) (connectFailure : Option Fault) : Deployment where
  settings := .default
  access := bareAccess
  host := plainHost 0
  engine := ⟨"sqlite", connectFailure, .ok (.text "3.40.1")⟩
  installation :=
    { package := fun _ => version
      runtimeVersion := version
      runtimeName := .ok (.text "CPython")
      gitLibrary := gitLibrary
      engine := none }

/-- A database that can be connected to, but is interrupted when it is asked for its version. -/
def interruptedEngine : Engine :=
  ⟨"sqlite", none, .error (.raised .operational (some "interrupted"))⟩

/-- No version at all can be determined, although there is a connection to the database. -/
def blankDeployment : Deployment :=
  { deploymentWith (.error (.raised .missingFile none)) (.error (.raised .missingAttribute none))
      none with
    engine := interruptedEngine }

theorem blankDeployment_starts :
    ∃ r, blankDeployment.inspected.resolve = .ok r ∧
      r.components.length = 10 ∧
      r.registry.versionOf "database" = .text "unknown" ∧
      r.unresolved.filter (·.name == "libgit2") = [⟨"libgit2", "AttributeError"⟩] ∧
      ∃ started, App.start blankDeployment = .ok started := by
  have hundetermined : ∀ q ∈ blankDeployment.inspected.inquiries (.text "CPython"), ∀ f,
      q.failure = some f → isUndetermined f.kind = true := by
    have hall : (blankDeployment.inspected.inquiries (.text "CPython")).all (fun q =>
        q.failure.all fun f => isUndetermined f.kind) = true := rfl
    simpa only [List.all_eq_true, Option.all_eq_true] using hall
  obtain ⟨hresolve, -, hlisted, hstart⟩ :=
    start_survives_iff blankDeployment.inspected (.text "CPython") rfl hundetermined
  obtain ⟨r, hr⟩ := hresolve.mpr fun e f he hf => by
    cases he
    cases hf
    rfl
  obtain ⟨hlength, hall⟩ := hlisted r hr
  have hdatabase := hall (.ofEngine blankDeployment.inspected.engine)
    Installation.ofEngine_mem_inquiries _ rfl
  have hgit := hall (.ofReading "libgit2" blankDeployment.inspected.gitLibrary
    (.text "Git implementation")) (by simp [Installation.inquiries, Installation.others]) _ rfl
  exact ⟨r, hr, hlength, hdatabase.1, hgit.2, (hstart blankDeployment rfl).1.mpr ⟨rfl, r, hr⟩⟩

/-- The operating system refuses a connection. -/
def refusedConnection : Fault := .raised .connectionRefused (some "connection refused")

/-- A deployment with an outdated git library, to whose database there is no connection. -/
def strandedDeployment : Deployment :=
  deploymentWith (.ok (.text "2.0")) (.error (.raised .missingAttribute none))
    (some refusedConnection)

/-- The same deployment, whose database drops the connection when it is asked for its version. -/
def droppedDeployment : Deployment :=
  { strandedDeployment with engine := ⟨"sqlite", none, .error refusedConnection⟩ }

/-- A connection that the operating system refuses leaves a version unknown, but not that of the
database: there nothing is listed, and the service does not start, be it on connecting or later. -/
theorem refused_connection_stops_start :
    (∀ d ∈ [strandedDeployment, droppedDeployment],
      (∀ q ∈ d.inspected.inquiries (.text "CPython"), ∀ f,
        q.failure = some f → isUndetermined f.kind = true) ∧
      d.inspected.resolve = .error refusedConnection ∧
      App.start d = .error refusedConnection) ∧
    droppedDeployment.createFailure = none ∧
    ∃ started, App.start (deploymentWith (.ok (.text "2.0")) (.error refusedConnection) none) =
      .ok started := by
  have hundetermined : ∀ d ∈ [strandedDeployment, droppedDeployment],
      ∀ q ∈ d.inspected.inquiries (.text "CPython"), ∀ f,
        q.failure = some f → isUndetermined f.kind = true := by
    have hall : [strandedDeployment, droppedDeployment].all (fun d =>
        (d.inspected.inquiries (.text "CPython")).all fun q =>
          q.failure.all fun f => isUndetermined f.kind) = true := rfl
    simpa only [List.all_eq_true, Option.all_eq_true] using hall
  refine ⟨fun d hd => ⟨hundetermined d hd, ?_⟩, rfl, _, rfl⟩
  simp only [List.mem_cons, List.not_mem_nil, or_false] at hd
  rcases hd with rfl | rfl <;> exact ⟨rfl, rfl⟩

end ForgeDashboard
