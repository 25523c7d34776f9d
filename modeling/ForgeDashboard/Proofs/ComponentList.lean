import ForgeDashboard.Command.Run
import ForgeDashboard.Proofs.Refusal

/-!
# What the component list says

Each line of the component list comes from one inquiry.  An inquiry that reads a version puts it
into the list; any other one leaves the version unknown and is noted, unless it fails in a way that
does not mean "cannot be determined": such a failure stops the whole.  The name of the runtime is
read between the first two inquiries, and no failure of that is forgiven.

So the list, the notes and the failure of the whole are those of the inquiries, taken one after
another.

## Main definitions

* `Inquiry`, `Inquiry.entry`, `Inquiry.note`, `Inquiry.fatal` : an inquiry, and what comes of it.
* `Installation.inquiries` : the inquiries that the environment answers, in display order.
* `Installation.firstFatal` : the failure that stops the whole.

## Main results

* `resolve_eq_ok_iff`, `resolve_failsWith` : the list with its notes, and the failure of the whole.
* `component_list_of_inquiries` : the two together, with the look-up by name and the queries.
-/

namespace ForgeDashboard

/-! ### Inquiries -/

/-- An inquiry about the version of a component: what reading it gives, if there is anything to
read, the kinds of failures that leave it unknown, and what is noted of a failure.  A description
stands beside a version that is known, another one beside an unknown version. -/
structure Inquiry where
  name : String
  reading : Option Reading
  isRecoverable : FaultKind → Bool
  reason : Fault → String
  description : Value
  fallback : Value

namespace Inquiry

/-- The failure of the reading. -/
def failure (q : Inquiry) : Option Fault :=
  match q.reading with
  | some (.error f) => some f
  | _ => none

/-- The failure of the reading, if it stops the whole. -/
def fatal (q : Inquiry) : Option Fault :=
  match q.failure with
  | some f => if q.isRecoverable f.kind then none else some f
  | none => none

/-- The entry of the list. -/
def entry (q : Inquiry) : Component :=
  match q.reading with
  | some (.ok version) => ⟨.text q.name, .text version.shown, q.description⟩
  | _ => ⟨.text q.name, .text "unknown", q.fallback⟩

/-- The note on an inquiry that gave no version. -/
def note (q : Inquiry) : Option Unresolved :=
  match q.reading with
  | some (.ok _) => none
  | some (.error f) => some ⟨q.name, q.reason f⟩
  | none => some ⟨q.name, "no engine configured"⟩

/-- What comes of an inquiry. -/
def settled (q : Inquiry) : Except Fault Resolution :=
  match q.fatal with
  | some f => .error f
  | none => .ok ⟨[q.entry], q.note.toList⟩

/-- What comes of inquiries that are made one after another. -/
def settledAll : List Inquiry → Except Fault Resolution
  | [] => .ok .empty
  | q :: qs => do
    let first ← q.settled
    let others ← settledAll qs
    return first ++ others

/-- An inquiry about a module, a package or a part of one.  Its version stays unknown if something
is missing, or if the database or the operating system fails. -/
def ofReading (name : String) (reading : Reading) (description : Value) : Inquiry where
  name := name
  reading := some reading
  isRecoverable := fun kind =>
    kind.isMissingModule || kind == .missingAttribute || kind.isDatabase || kind.isSystem
  reason := Fault.reason
  description := description
  fallback := description

/-- The inquiry about the database.  Its version stays unknown if there is no database or if the
database fails, be it on connecting or on reading the answer. -/
def ofEngine (engine : Option Engine) : Inquiry where
  name := "database"
  reading := engine.map fun e => match e.connectFailure with
    | some f => .error f
    | none => e.version
  isRecoverable := FaultKind.isDatabase
  reason := Fault.text
  description := match engine with
    | some e => .text e.label
    | none => .null
  fallback := .null

end Inquiry

namespace Installation

/-- The first inquiry, about the program itself. -/
def program (i : Installation) : Inquiry :=
  .ofReading "gitarena" (i.package "gitarena-admin") (.text "GitArena admin")

/-- The other inquiries, once the name of the runtime is known. -/
def others (i : Installation) (runtimeName : Value) : List Inquiry :=
  [.ofReading "python" i.runtimeVersion runtimeName,
    .ofEngine i.engine,
    .ofReading "libgit2" i.gitLibrary (.text "Git implementation"),
    .ofReading "pygit2" (i.package "pygit2") (.text "Python bindings for libgit2"),
    .ofReading "fastapi" (i.package "fastapi") (.text "HTTP framework"),
    .ofReading "sqlmodel" (i.package "sqlmodel") (.text "ORM layer"),
    .ofReading "sqlalchemy" (i.package "sqlalchemy") (.text "SQL toolkit"),
    .ofReading "pydantic" (i.package "pydantic") (.text "Data validation"),
    .ofReading "psutil" (i.package "psutil") (.text "Host telemetry")]

/-- All inquiries, in display order. -/
def inquiries (i : Installation) (runtimeName : Value) : List Inquiry :=
  i.program :: i.others runtimeName

/-- The failure that stops the whole: the first one that is not recoverable, where the name of the
runtime is read after the first inquiry. -/
def firstFatal (i : Installation) : Option Fault :=
  i.program.fatal <|>
    match i.runtimeName with
    | .error f => some f
    | .ok runtimeName => (i.others runtimeName).findSome? Inquiry.fatal

end Installation

/-! ### Resolutions -/

namespace Resolution

theorem append_eq (a b : Resolution) :
    a ++ b = ⟨a.components ++ b.components, a.unresolved ++ b.unresolved⟩ := rfl

theorem append_assoc (a b c : Resolution) : a ++ b ++ c = a ++ (b ++ c) := by
  simp only [append_eq, List.append_assoc]

end Resolution

/-! ### What comes of inquiries -/

namespace Inquiry

/-- A failure stops the whole unless it is recoverable. -/
theorem fatal_eq_none_iff {q : Inquiry} :
    q.fatal = none ↔ ∀ f, q.failure = some f → q.isRecoverable f.kind = true := by
  rw [fatal]
  rcases q.failure with _ | f
  · simp
  · simp

theorem settled_failsWith (q : Inquiry) : FailsWith q.fatal q.settled := by
  rw [settled]
  rcases q.fatal with _ | f
  · exact failsWith_ok _
  · rfl

theorem settled_eq_ok_iff {q : Inquiry} {r : Resolution} :
    q.settled = .ok r ↔ q.fatal = none ∧ r = ⟨[q.entry], q.note.toList⟩ := by
  rw [settled]
  rcases q.fatal with _ | f
  · simp [eq_comm]
  · simp

/-- Inquiries fail as the first of them whose failure is not recoverable. -/
theorem settledAll_failsWith (qs : List Inquiry) :
    FailsWith (qs.findSome? fatal) (settledAll qs) := by
  induction qs with
  | nil => exact failsWith_ok _
  | cons q qs ih =>
    have hall : FailsWith (q.fatal <|> qs.findSome? fatal) (settledAll (q :: qs)) :=
      q.settled_failsWith.bind fun _ _ => ih.map fun _ => ⟨_, rfl⟩
    rw [List.findSome?_cons]
    rcases hq : q.fatal with _ | f
    · rw [hq] at hall
      exact hall
    · rw [hq] at hall
      exact hall

/-- Otherwise their entries and their notes follow one another. -/
theorem settledAll_eq_ok_iff {qs : List Inquiry} {r : Resolution} :
    settledAll qs = .ok r ↔
      (∀ q ∈ qs, q.fatal = none) ∧ r = ⟨qs.map entry, qs.filterMap note⟩ := by
  induction qs generalizing r with
  | nil => simp [settledAll, Resolution.empty, eq_comm]
  | cons q qs ih =>
    simp only [settledAll, bind_eq_ok_iff, settled_eq_ok_iff, ih, pure, Except.pure,
      Except.ok.injEq, List.forall_mem_cons, List.map_cons]
    constructor
    · rintro ⟨_, ⟨hq, rfl⟩, _, ⟨hqs, rfl⟩, rfl⟩
      refine ⟨⟨hq, hqs⟩, ?_⟩
      rcases hnote : q.note with _ | u <;> simp [Resolution.append_eq, hnote]
    · rintro ⟨⟨hq, hqs⟩, rfl⟩
      refine ⟨_, ⟨hq, rfl⟩, _, ⟨hqs, rfl⟩, ?_⟩
      rcases hnote : q.note with _ | u <;> simp [Resolution.append_eq, hnote]

/-- A reading that fails leaves the version unknown, or stops the whole. -/
theorem settled_of_failed {q : Inquiry} {f : Fault} (h : q.reading = some (.error f)) :
    q.settled =
      if q.isRecoverable f.kind then
        .ok ⟨[⟨.text q.name, .text "unknown", q.fallback⟩], [⟨q.name, q.reason f⟩]⟩
      else .error f := by
  by_cases hf : q.isRecoverable f.kind = true <;> simp [settled, fatal, failure, entry, note, h, hf]

/-- Resolving a component is settling the inquiry about it. -/
theorem resolveReading_eq (name : String) (reading : Reading) (description : Value) :
    resolveReading name reading description = (ofReading name reading description).settled := by
  rcases reading with f | version
  · rw [settled_of_failed rfl]
    rfl
  · rfl

/-- Resolving the database is settling the inquiry about it. -/
theorem resolveDatabase_eq (engine : Option Engine) :
    resolveDatabase engine = (ofEngine engine).settled := by
  rcases engine with _ | ⟨dialect, _ | f, g | version⟩
  · rfl
  · rw [settled_of_failed rfl]
    rfl
  · rfl
  · rw [settled_of_failed rfl]
    rfl
  · rw [settled_of_failed rfl]
    rfl

theorem entry_name (q : Inquiry) : q.entry.name = .text q.name := by
  unfold entry
  split <;> rfl

theorem isNamed_entry (q : Inquiry) (name : String) :
    Registry.isNamed name q.entry = (q.name == name) := by
  rw [Registry.isNamed, entry_name]

/-- Under its name each inquiry finds its own entry, if the names differ. -/
theorem versionOf_map_entry {qs : List Inquiry} (hnames : (qs.map name).Nodup) {q : Inquiry}
    (hq : q ∈ qs) : (Registry.mk (qs.map entry)).versionOf q.name = q.entry.version := by
  have hfind : (qs.map entry).find? (Registry.isNamed q.name) = some q.entry := by
    induction qs with
    | nil => cases hq
    | cons p qs ih =>
      obtain ⟨hp, hrest⟩ := List.nodup_cons.mp hnames
      rw [List.map_cons, List.find?_cons, isNamed_entry]
      rcases List.mem_cons.mp hq with rfl | hmem
      · simp
      · have hne : (p.name == q.name) = false :=
          beq_eq_false_iff_ne.mpr fun h => hp (h ▸ List.mem_map_of_mem hmem)
        rw [hne]
        exact ih hrest hmem
  rw [Registry.versionOf, hfind]

end Inquiry

/-! ### The whole -/

namespace Installation

variable (i : Installation)

/-- Resolving libraries is settling the inquiries about their packages. -/
theorem resolveLibraries_eq (names : List (String × String)) :
    i.resolveLibraries names =
      Inquiry.settledAll (names.map fun p => .ofReading p.1 (i.package p.1) (.text p.2)) := by
  induction names with
  | nil => rfl
  | cons p names ih =>
    simp only [resolveLibraries, List.map_cons, Inquiry.settledAll, ih, Inquiry.resolveReading_eq]

/-- The libraries come last. -/
theorem others_eq (runtimeName : Value) :
    i.others runtimeName =
      .ofReading "python" i.runtimeVersion runtimeName :: .ofEngine i.engine ::
        .ofReading "libgit2" i.gitLibrary (.text "Git implementation") ::
          libraries.map fun p => .ofReading p.1 (i.package p.1) (.text p.2) := rfl

/-- The whole settles the first inquiry, reads the name of the runtime, and settles the others. -/
theorem resolve_eq :
    i.resolve = do
      let first ← i.program.settled
      let runtimeName ← i.runtimeName
      let others ← Inquiry.settledAll (i.others runtimeName)
      return first ++ others := by
  simp only [resolve, Inquiry.resolveReading_eq, Inquiry.resolveDatabase_eq, resolveLibraries_eq,
    others_eq, Inquiry.settledAll, bind_assoc, pure_bind, Resolution.append_assoc]
  rfl

/-- The failure of the whole is that of the first inquiry that is not recoverable. -/
theorem resolve_failsWith : FailsWith i.firstFatal i.resolve := by
  rw [resolve_eq]
  refine i.program.settled_failsWith.bind fun _ _ => ?_
  rcases hname : i.runtimeName with f | runtimeName
  · rfl
  · exact (Inquiry.settledAll_failsWith _).map fun _ => ⟨_, rfl⟩

/-- Without such a failure the list holds the entries of the inquiries, with their notes. -/
theorem resolve_eq_ok_iff {r : Resolution} :
    i.resolve = .ok r ↔
      ∃ runtimeName, i.runtimeName = .ok runtimeName ∧
        (∀ q ∈ i.inquiries runtimeName, q.fatal = none) ∧
        r = ⟨(i.inquiries runtimeName).map Inquiry.entry,
          (i.inquiries runtimeName).filterMap Inquiry.note⟩ := by
  rw [resolve_eq]
  constructor
  · intro h
    obtain ⟨first, hfirst, h⟩ := bind_eq_ok_iff.mp h
    obtain ⟨runtimeName, hname, h⟩ := bind_eq_ok_iff.mp h
    have hall : Inquiry.settledAll (i.inquiries runtimeName) = .ok r := by
      rw [inquiries, Inquiry.settledAll, hfirst]
      exact h
    exact ⟨runtimeName, hname, Inquiry.settledAll_eq_ok_iff.mp hall⟩
  · rintro ⟨runtimeName, hname, h⟩
    rw [hname]
    exact Inquiry.settledAll_eq_ok_iff.mpr h

/-- The names of the components, in display order. -/
theorem names_inquiries (runtimeName : Value) :
    (i.inquiries runtimeName).map Inquiry.name =
      ["gitarena", "python", "database", "libgit2", "pygit2", "fastapi", "sqlmodel", "sqlalchemy",
        "pydantic", "psutil"] := rfl

/-- The database is asked one question at most. -/
theorem length_queries_le_one : i.queries.length ≤ 1 := by
  rw [queries]
  rcases i.engine with _ | ⟨dialect, _ | f, version⟩
  · exact Nat.zero_le 1
  · exact le_refl 1
  · exact Nat.zero_le 1

/-- The question is that of the dialect, once the database is connected to. -/
theorem mem_queries_iff {s : String} :
    s ∈ i.queries ↔ ∃ e, i.engine = some e ∧ e.connectFailure = none ∧ s = e.versionQuery := by
  rw [queries]
  rcases i.engine with _ | ⟨dialect, _ | f, version⟩
  · simp
  · simp [Engine.versionQueries]
  · simp [Engine.versionQueries]

/-- No two inquiries have the same name. -/
theorem nodup_names (runtimeName : Value) :
    ((i.inquiries runtimeName).map Inquiry.name).Nodup := by
  rw [i.names_inquiries]
  decide

end Installation

/-- **The list of components is that of the inquiries.**  A failure that is not recoverable stops
the whole, and it is the first one of them.  If all failures are recoverable, there is one entry for
each of the ten components, in this order, with the text of its reading or else an unknown version;
looking a component up by name gives the version of its entry; and one warning is logged for each
unknown version, in the order of the entries.  The database is asked one question at most, the one
of its dialect, and it is asked exactly if there is a database that can be connected to. -/
theorem component_list_of_inquiries (i : Installation) :
    (∀ f, i.resolve = .error f ↔ i.firstFatal = some f) ∧
    ∀ runtimeName, i.runtimeName = .ok runtimeName →
      (∀ q ∈ i.inquiries runtimeName, ∀ f, q.failure = some f → q.isRecoverable f.kind = true) →
      ∃ r, i.resolve = .ok r ∧
        r.components = (i.inquiries runtimeName).map Inquiry.entry ∧
        r.components.map (·.name) =
          [.text "gitarena", .text "python", .text "database", .text "libgit2", .text "pygit2",
            .text "fastapi", .text "sqlmodel", .text "sqlalchemy", .text "pydantic",
            .text "psutil"] ∧
        (∀ q ∈ i.inquiries runtimeName, r.registry.versionOf q.name = q.entry.version) ∧
        CommandContext.resolutionLog r = (i.inquiries runtimeName).filterMap (fun q =>
          q.note.map fun u =>
            ⟨.warning, "Version of " ++ u.name ++ " unresolved: " ++ u.reason⟩) ∧
        i.queries.length ≤ 1 ∧
        ∀ s, s ∈ i.queries ↔ ∃ e, i.engine = some e ∧ e.connectFailure = none ∧
          s = if e.dialect = "postgresql" then "SHOW server_version"
            else if e.dialect = "sqlite" then "SELECT sqlite_version()"
            else "SELECT version()" := by
  refine ⟨i.resolve_failsWith.eq_error_iff, fun runtimeName hname hrecoverable => ?_⟩
  have hfatal : ∀ q ∈ i.inquiries runtimeName, q.fatal = none := fun q hq =>
    Inquiry.fatal_eq_none_iff.mpr (hrecoverable q hq)
  refine ⟨_, i.resolve_eq_ok_iff.mpr ⟨runtimeName, hname, hfatal, rfl⟩, rfl, ?_, fun q hq => ?_, ?_,
    i.length_queries_le_one, fun s => i.mem_queries_iff⟩
  · have hcomponents : ((i.inquiries runtimeName).map Inquiry.entry).map (·.name) =
        ((i.inquiries runtimeName).map Inquiry.name).map Value.text := by
      simp only [List.map_map]
      exact List.map_congr_left fun q _ => q.entry_name
    rw [hcomponents, i.names_inquiries]
    rfl
  · exact Inquiry.versionOf_map_entry (i.nodup_names runtimeName) hq
  · exact List.map_filterMap

/-- An installation without the web framework, whose git library has no version, and whose database
does not answer. -/
def incomplete : Installation where
  package := fun name =>
    if name = "fastapi" then .error (.raised .missingPackage (some name)) else .ok (.text "2.0")
  runtimeVersion := .ok (.text "3.12.1")
  runtimeName := .ok (.text "CPython")
  gitLibrary := .error (.raised .missingAttribute none)
  engine := some ⟨"mysql", none, .error (.raised .database (some "server has gone away"))⟩

theorem incomplete_component_list :
    ∃ r, incomplete.resolve = .ok r ∧
      r.components.map (·.version) =
        [.text "2.0", .text "3.12.1", .text "unknown", .text "unknown", .text "2.0",
          .text "unknown", .text "2.0", .text "2.0", .text "2.0", .text "2.0"] ∧
      r.registry.versionOf "fastapi" = .text "unknown" ∧
      CommandContext.resolutionLog r =
        [⟨.warning, "Version of database unresolved: server has gone away"⟩,
          ⟨.warning, "Version of libgit2 unresolved: AttributeError"⟩,
          ⟨.warning, "Version of fastapi unresolved: No package metadata was found for fastapi"⟩] ∧
      "SELECT version()" ∈ incomplete.queries := by
  have hrecoverable : ∀ q ∈ incomplete.inquiries (.text "CPython"), ∀ f,
      q.failure = some f → q.isRecoverable f.kind = true := by
    have hall : (incomplete.inquiries (.text "CPython")).all (fun q =>
        q.failure.all fun f => q.isRecoverable f.kind) = true := rfl
    simpa only [List.all_eq_true, Option.all_eq_true] using hall
  obtain ⟨r, hr, hcomponents, -, hversion, hlog, -, hqueries⟩ :=
    (component_list_of_inquiries incomplete).2 (.text "CPython") rfl hrecoverable
  refine ⟨r, hr, ?_, ?_, ?_, ?_⟩
  · rw [hcomponents]
    rfl
  · exact hversion (.ofReading "fastapi" (incomplete.package "fastapi") (.text "HTTP framework"))
      (by simp [Installation.inquiries, Installation.others])
  · rw [hlog]
    rfl
  · exact (hqueries _).mpr ⟨_, rfl, rfl, rfl⟩

end ForgeDashboard
