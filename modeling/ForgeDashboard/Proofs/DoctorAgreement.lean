import ForgeDashboard.Command.Run
import ForgeDashboard.Proofs.Degradation
import ForgeDashboard.Proofs.HostFields
import ForgeDashboard.Proofs.StandardText

/-!
# The doctor and the dashboard

The doctor and the dashboard look at the same database and the same host, each in its own way.  The
doctor asks the database itself and goes through the fields of a snapshot; the dashboard lists the
component versions found out at the start, and writes one text for each field.  What the one reports
as failed is what the other shows as unknown.

For this the texts that are written for what is known must never read "unknown".  A number, a size
and a duration never do; a text of the host might, and that is the only one.

## Main definitions

* `linesUnder`, `failureEntries` : parts of the report of the doctor.
* `SnapshotField.cell` : the text of a field in the section on the host.
* `Resolution.IsUnresolved` : the components whose version is not known.
* `DoctorAgrees` : what the doctor reports, told by what the dashboard shows.

## Main results

* `Value.shown_eq_unknown_iff`, `sizeText_ne_unknown` : which texts read "unknown".
* `cell_eq_unknown_iff` : the fields that the dashboard shows as unknown.
* `mem_components_database_iff` : the entry of the database.
* `doctor_agrees_with_dashboard` : the two agree.
-/

namespace ForgeDashboard

/-! ### Texts that read "unknown" -/

theorem Num.text_ne_unknown (n : Num) : n.text ≠ unknownText := by
  rcases n with n | _ | s | ⟨s, m, e, hcanonical⟩
  · exact toString_ne_of_mem (c := 'u') (by decide) (by decide) (by decide)
  · decide
  · cases s <;> decide
  · intro h
    have hnumber : Json.IsNumber (Binary64.finite s m e hcanonical).text.toList :=
      Json.isNumber_text
    rw [show (Binary64.finite s m e hcanonical).text = unknownText from h] at hnumber
    exact absurd hnumber.head (by decide)

/-- Only the text "unknown" is shown as "unknown". -/
theorem Value.shown_eq_unknown_iff {v : Value} : v.shown = unknownText ↔ v = .text unknownText := by
  cases v with
  | text s => simp [shown]
  | null => simp [shown, quoted, unknownText]
  | flag b => cases b <;> simp [shown, quoted, unknownText]
  | num n => simp [shown, quoted, n.text_ne_unknown]
  | list items => simp [shown, quoted, unknownText, ← String.toList_inj]
  | dict fields => simp [shown, quoted, unknownText, ← String.toList_inj]

/-- A size has a blank before its unit. -/
theorem blank_mem_of_sizeText {size base : Num} {text : String}
    (h : sizeText size base = .ok text) : ' ' ∈ text.toList := by
  unfold sizeText at h
  split_ifs at h with hneg hlt
  · obtain ⟨whole, -, h⟩ := bind_eq_ok_iff.mp (mapError_eq_ok_iff.mp h)
    obtain rfl := Except.ok.inj h
    simp
  · obtain ⟨value, -, h⟩ := bind_eq_ok_iff.mp (mapError_eq_ok_iff.mp h)
    obtain ⟨scaled, -, h⟩ := bind_eq_ok_iff.mp h
    obtain ⟨shown, -, h⟩ := bind_eq_ok_iff.mp h
    obtain rfl := Except.ok.inj h
    simp [scaledText]

theorem sizeText_ne_unknown {size base : Num} {text : String} (h : sizeText size base = .ok text) :
    text ≠ unknownText := by
  rintro rfl
  exact absurd (blank_mem_of_sizeText h) (by decide)

/-! ### Fields that are shown as unknown -/

/-- The texts that a host is asked for. -/
def HostReport.texts (r : HostReport) : List Reading :=
  [r.system, r.release, r.machine, r.processId]

namespace SnapshotField

/-- The fields, in order. -/
def inOrder : List SnapshotField :=
  [osName, osVersion, architecture, uptime, memoryAvailable, memoryTotal, processId]

/-- The text of a field in the section on the host. -/
def cell (p : SystemSection) : SnapshotField → String
  | osName => p.os
  | osVersion => p.version
  | architecture => p.architecture
  | uptime => p.uptime
  | memoryAvailable => p.memoryAvailable
  | memoryTotal => p.memoryTotal
  | processId => p.pid

/-- Going through the fields of a snapshot is going through them in order. -/
theorem unreadable_eq (s : Snapshot) :
    s.unreadable = (inOrder.filter fun field => !Snapshot.isRead (field.content s)).map name := by
  have hfields : s.readFields =
      inOrder.map fun field => (field.name, Snapshot.isRead (field.content s)) := rfl
  rw [Snapshot.unreadable, hfields, List.filter_map, List.map_map]
  rfl

end SnapshotField

theorem metricText_eq_unknown_iff (field : SnapshotField) {reading : Reading}
    (h : reading ≠ .ok (.text unknownText)) :
    metricText (HostReport.valueMetric field.name reading) = unknownText ↔
      Snapshot.isRead (HostReport.valueMetric field.name reading) = false := by
  rcases hmetric : HostReport.valueMetric field.name reading with u | v
  · exact iff_of_true rfl rfl
  · rw [HostReport.valueMetric_eq, HostReport.noted_eq_ok_iff, HostReport.told_eq_ok_iff] at hmetric
    refine iff_of_false (fun hshown => h ?_) (by simp [Snapshot.isRead])
    rw [hmetric.1, Value.shown_eq_unknown_iff.mp hshown]

theorem metricSize_unknown_iff {m : Metric Num} {text : String} (h : metricSize m = .ok text) :
    text = unknownText ↔ Snapshot.isRead m = false := by
  rcases m with u | n
  · obtain rfl := Except.ok.inj h
    exact iff_of_true rfl rfl
  · exact iff_of_false (sizeText_ne_unknown h) (by simp [Snapshot.isRead])

theorem metricUptime_unknown_iff {m : Metric Num} {text : String × Option Binary64}
    (h : metricUptime m = .ok text) : text.1 = unknownText ↔ Snapshot.isRead m = false := by
  rcases m with u | n
  · obtain rfl := Except.ok.inj h
    exact iff_of_true rfl rfl
  · obtain ⟨duration, hduration, h⟩ := bind_eq_ok_iff.mp h
    obtain ⟨seconds, -, h⟩ := bind_eq_ok_iff.mp h
    obtain rfl := Except.ok.inj h
    exact iff_of_false (durationText_ne_unknown hduration) (by simp [Snapshot.isRead])

/-- The dashboard shows a field as unknown exactly if it could not be read. -/
theorem cell_eq_unknown_iff {r : HostReport} {p : SystemSection}
    (h : snapshotSection r.snapshot = .ok p) (htexts : .ok (.text unknownText) ∉ r.texts)
    (field : SnapshotField) :
    field.cell p = unknownText ↔ Snapshot.isRead (field.content r.snapshot) = false := by
  obtain ⟨available, havailable, h⟩ := bind_eq_ok_iff.mp h
  obtain ⟨total, htotal, h⟩ := bind_eq_ok_iff.mp h
  obtain ⟨uptime, huptime, h⟩ := bind_eq_ok_iff.mp h
  obtain rfl := Except.ok.inj h
  have htext : ∀ reading ∈ r.texts, reading ≠ .ok (.text unknownText) := by
    rintro reading hmem rfl
    exact htexts hmem
  simp only [HostReport.texts, List.forall_mem_cons] at htext
  obtain ⟨hsystem, hrelease, hmachine, hprocess, -⟩ := htext
  cases field with
  | osName => exact metricText_eq_unknown_iff .osName hsystem
  | osVersion => exact metricText_eq_unknown_iff .osVersion hrelease
  | architecture => exact metricText_eq_unknown_iff .architecture hmachine
  | uptime => exact metricUptime_unknown_iff huptime
  | memoryAvailable => exact metricSize_unknown_iff havailable
  | memoryTotal => exact metricSize_unknown_iff htotal
  | processId => exact metricText_eq_unknown_iff .processId hprocess

/-- The fields that the doctor lists are those that the dashboard shows as unknown. -/
theorem unreadable_eq_unknown_cells {r : HostReport} {p : SystemSection}
    (h : snapshotSection r.snapshot = .ok p) (htexts : .ok (.text unknownText) ∉ r.texts) :
    r.snapshot.unreadable =
      (SnapshotField.inOrder.filter (·.cell p = unknownText)).map SnapshotField.name := by
  rw [SnapshotField.unreadable_eq]
  congr 1
  refine List.filter_congr fun field _ => ?_
  simp [cell_eq_unknown_iff h htexts field]

/-! ### The entry of the database -/

/-- There is a note that the version of a component is not known. -/
def Resolution.IsUnresolved (r : Resolution) (name : String) : Prop :=
  ∃ u ∈ r.unresolved, u.name = name

namespace Inquiry

theorem entry_ofEngine_of_ok {e : Engine} {version : String} (h : e.serverVersion = .ok version) :
    (ofEngine (some e)).entry = ⟨.text "database", .text version, .text e.label⟩ := by
  rcases e with ⟨dialect, _ | f, g | v⟩ <;>
    simp_all [Engine.serverVersion, Except.map, ofEngine, entry]

theorem entry_ofEngine_of_error {e : Engine} {f : Fault} (h : e.serverVersion = .error f) :
    (ofEngine (some e)).entry = ⟨.text "database", .text "unknown", .null⟩ := by
  rcases e with ⟨dialect, _ | g, g | v⟩ <;>
    simp_all [Engine.serverVersion, Except.map, ofEngine, entry]

theorem note_ofEngine_eq_none_iff {e : Engine} :
    (ofEngine (some e)).note = none ↔ ∀ f, e.serverVersion ≠ .error f := by
  rcases e with ⟨dialect, _ | g, g | v⟩ <;>
    simp [Engine.serverVersion, Except.map, ofEngine, note]

end Inquiry

section Resolved

variable {d : Deployment} {r : Resolution} (h : d.resolve = .ok r)

include h

/-- The list holds one entry of the database, that of the inquiry about it. -/
theorem mem_components_database_iff {version description : Value} :
    ⟨.text "database", version, description⟩ ∈ r.components ↔
      ⟨.text "database", version, description⟩ = (Inquiry.ofEngine (some d.engine)).entry := by
  obtain ⟨runtimeName, -, -, rfl⟩ := d.inspected.resolve_eq_ok_iff.mp h
  rw [List.mem_map]
  constructor
  · rintro ⟨q, hq, hentry⟩
    rcases Installation.exists_ofReading_or_eq_ofEngine hq with ⟨name, _, _, hname, rfl⟩ | rfl
    · have htext := congrArg Component.name hentry
      rw [Inquiry.entry_name] at htext
      exact absurd (Value.text.inj htext) hname
    · exact hentry.symm
  · exact fun hentry => ⟨_, Installation.ofEngine_mem_inquiries, hentry.symm⟩

/-- The database is noted exactly if its server gives no version. -/
theorem isUnresolved_database_iff :
    r.IsUnresolved "database" ↔ ∃ f, d.engine.serverVersion = .error f := by
  obtain ⟨runtimeName, -, -, rfl⟩ := d.inspected.resolve_eq_ok_iff.mp h
  have hnotes : ((d.inspected.inquiries runtimeName).filterMap Inquiry.note).filter
      (·.name == "database") = (Inquiry.ofEngine (some d.engine)).note.toList :=
    Inquiry.filter_notes_eq (d.inspected.nodup_names runtimeName)
      Installation.ofEngine_mem_inquiries
  rw [← not_iff_not, not_exists, ← Inquiry.note_ofEngine_eq_none_iff,
    ← Option.toList_eq_nil_iff, ← hnotes]
  simp [Resolution.IsUnresolved]

/-- What keeps the version of the server from being known is a failure of the database. -/
theorem isDatabase_of_serverVersion {f : Fault} (hf : d.engine.serverVersion = .error f) :
    f.kind.isDatabase = true := by
  obtain ⟨runtimeName, -, hfatal, -⟩ := d.inspected.resolve_eq_ok_iff.mp h
  have hnone := hfatal _ Installation.ofEngine_mem_inquiries
  exact Inquiry.fatal_eq_none_iff.mp hnone f (Inquiry.failure_ofEngine_eq_some_iff.mpr ⟨_, rfl, hf⟩)

end Resolved

/-! ### The report -/

/-- The lines after a heading. -/
def linesAfter (heading : String) (lines : List String) : List String :=
  (lines.dropWhile (· ≠ heading)).tail

/-- The lines that stand under a heading, up to an empty line. -/
def linesUnder (heading : String) (lines : List String) : List String :=
  (linesAfter heading lines).takeWhile (· ≠ "")

/-- The line above the result. -/
def resultRule : String := String.ofList (List.replicate 50 '─')

/-- The failure entries: they stand after the result and an empty line. -/
def failureEntries (lines : List String) : List String :=
  ((linesAfter resultRule lines).drop 2).takeWhile (· ≠ "")

theorem linesAfter_append {heading : String} {before after : List String} (h : heading ∉ before) :
    linesAfter heading (before ++ heading :: after) = after := by
  have hbefore : ∀ line ∈ before, decide (line ≠ heading) = true := by
    intro line hline
    have hne : line ≠ heading := fun heq => h (heq ▸ hline)
    simpa using hne
  rw [linesAfter, List.dropWhile_append_of_pos hbefore]
  simp

/-- The line starts with a blank. -/
def IsIndented (line : String) : Prop := line.toList.head? = some ' '

/-- The lines at the start that are not indented. -/
def openingLines : List String := ["", "GitArena Admin Doctor", "[Environment]", "[Configuration]"]

theorem head?_resultRule : resultRule.toList.head? = some '─' := by
  unfold resultRule
  rw [String.toList_ofList, List.head?_replicate, if_neg (by decide)]

/-- No other line starts like the rule above the result. -/
theorem resultRule_notMem {lines : List String}
    (h : ∀ line ∈ lines, line.toList.head? ≠ some '─') : resultRule ∉ lines := by
  intro hmem
  have hne := h resultRule hmem
  exact hne head?_resultRule

theorem IsIndented.ne {line heading : String} (h : IsIndented line)
    (hheading : heading.toList.head? ≠ some ' ') : line ≠ heading := by
  rintro rfl
  exact hheading h

theorem DatabaseCheck.isIndented_line (check : DatabaseCheck) : IsIndented check.line := by
  cases check <;> simp [line, IsIndented]

theorem Diagnosis.isIndented_hostLine (g : Diagnosis) : IsIndented g.hostLine := by
  unfold hostLine
  split_ifs <;> simp [IsIndented]

theorem Diagnosis.summary_eq (g : Diagnosis) (url : String) :
    g.summary url = "" :: resultRule :: g.resultLine url :: "" ::
      if (g.failures url).isEmpty then []
      else (g.failures url).map ("  FAIL " ++ ·) ++ [""] := rfl

namespace CommandContext

variable (c : CommandContext) (version : String) (g : Diagnosis)

/-- The address of the database. -/
abbrev url : String := c.deployment.settings.databaseUrl

/-- The lines of the doctor up to the heading of the database. -/
def opening : List String :=
  doctorOpening ++ environmentLines c.installed version ++
    (configurationLines c.deployment.settings).dropLast

/-- The lines of the doctor. -/
def report : List String :=
  c.opening version ++ "[Database]" :: g.database.line :: "" :: "[Telemetry]" :: g.hostLine ::
    g.summary c.url

/-- The lines at the start are indented but for four. -/
theorem isIndented_or_mem_of_mem_opening :
    ∀ line ∈ c.opening version, IsIndented line ∨ line ∈ openingLines := by
  simp only [opening, openingLines, doctorOpening, environmentLines, configurationLines,
    List.dropLast, List.forall_mem_append, List.forall_mem_cons]
  simp [IsIndented]

theorem notMem_opening {heading : String} (hhead : heading.toList.head? ≠ some ' ')
    (hheading : heading ∉ openingLines) : heading ∉ c.opening version := by
  intro hmem
  exact (c.isIndented_or_mem_of_mem_opening version heading hmem).elim hhead hheading

theorem linesUnder_database : linesUnder "[Database]" (c.report version g) = [g.database.line] := by
  have hafter : linesAfter "[Database]" (c.report version g) = g.database.line :: "" :: _ :=
    linesAfter_append (c.notMem_opening version (by decide) (by decide))
  have hline : g.database.line ≠ "" := g.database.isIndented_line.ne (by decide)
  rw [linesUnder, hafter]
  simp [hline]

theorem linesUnder_telemetry : linesUnder "[Telemetry]" (c.report version g) = [g.hostLine] := by
  have hreport : c.report version g =
      (c.opening version ++ ["[Database]", g.database.line, ""]) ++ "[Telemetry]" :: g.hostLine ::
        g.summary c.url := by
    simp [report]
  have hbefore : "[Telemetry]" ∉ c.opening version ++ ["[Database]", g.database.line, ""] := by
    have hopening : "[Telemetry]" ∉ c.opening version :=
      c.notMem_opening version (by decide) (by decide)
    have hline : g.database.line ≠ "[Telemetry]" := g.database.isIndented_line.ne (by decide)
    simp [hopening, hline.symm]
  have hline : g.hostLine ≠ "" := g.isIndented_hostLine.ne (by decide)
  rw [linesUnder, hreport, linesAfter_append hbefore]
  simp [hline, Diagnosis.summary_eq]

/-- The lines after the rule: the result, and the failure entries if there are any. -/
theorem linesAfter_resultRule :
    linesAfter resultRule (c.report version g) = g.resultLine c.url :: "" ::
      if (g.failures c.url).isEmpty then []
      else (g.failures c.url).map ("  FAIL " ++ ·) ++ [""] := by
  have hreport : c.report version g =
      (c.opening version ++ ["[Database]", g.database.line, "", "[Telemetry]", g.hostLine, ""]) ++
        resultRule :: g.resultLine c.url :: "" ::
        if (g.failures c.url).isEmpty then []
        else (g.failures c.url).map ("  FAIL " ++ ·) ++ [""] := by
    simp only [report, Diagnosis.summary_eq, List.append_assoc, List.cons_append, List.nil_append]
  have hbefore : resultRule ∉ c.opening version ++
      ["[Database]", g.database.line, "", "[Telemetry]", g.hostLine, ""] := by
    have hhead : resultRule.toList.head? ≠ some ' ' := by
      rw [head?_resultRule]
      decide
    have hopening : resultRule ∉ c.opening version :=
      c.notMem_opening version hhead (resultRule_notMem (by decide))
    have hdatabase : g.database.line ≠ resultRule := g.database.isIndented_line.ne hhead
    have hhost : g.hostLine ≠ resultRule := g.isIndented_hostLine.ne hhead
    have hfixed : resultRule ∉ ["[Database]", "", "[Telemetry]"] := resultRule_notMem (by decide)
    simp only [List.mem_cons, List.not_mem_nil, or_false, not_or] at hfixed
    simp [hopening, hdatabase.symm, hhost.symm, hfixed]
  rw [hreport, linesAfter_append hbefore]

theorem linesUnder_result :
    linesUnder resultRule (c.report version g) = [g.resultLine c.url] := by
  have hline : g.resultLine c.url ≠ "" := by simp [Diagnosis.resultLine]
  rw [linesUnder, linesAfter_resultRule]
  simp [hline]

theorem failureEntries_report :
    failureEntries (c.report version g) = (g.failures c.url).map ("  FAIL " ++ ·) := by
  rw [failureEntries, linesAfter_resultRule]
  rcases g.failures c.url with _ | ⟨failure, failures⟩
  · rfl
  · simp

variable {c version g}

/-- With a version of the runtime and findings, the doctor prints its report. -/
theorem doctor_eq (hruntime : firstWord? c.installed.runtime = some version)
    (hg : c.deployment.diagnose = .ok g) :
    c.doctor = c.finished (g.exitCode c.url) (c.report version g) [] := by
  have hlines : doctorOpening ++ environmentLines c.installed version ++
      configurationLines c.deployment.settings ++
      [g.database.line, "", "[Telemetry]", g.hostLine] ++ g.summary c.url = c.report version g := by
    simp [report, opening, configurationLines]
  rw [doctor, hruntime]
  simp only [hg]
  rw [hlines]

end CommandContext

/-! ### Agreement -/

/-- What the doctor reports, told by what is listed of the components and by the section on the
host. -/
structure DoctorAgrees (d : Deployment) (r : Resolution) (p : SystemSection)
    (result : CommandResult) : Prop where
  /-- The doctor runs to its end. -/
  escaped : result.escaped = none
  /-- It succeeds, and prints name and version of the database, exactly if they are listed. -/
  reached : ∀ label version : String,
    ⟨.text "database", .text version, .text label⟩ ∈ r.components ↔
      label = d.engine.label ∧ result.exitCode = 0 ∧
        linesUnder "[Database]" result.output = ["  " ++ label ++ ": OK (" ++ version ++ ")"]
  /-- It fails, with one failure entry, exactly if the version of the database is not known. -/
  failed : r.IsUnresolved "database" ↔
    result.exitCode = 1 ∧ (failureEntries result.output).length = 1
  /-- Then, and only then, the database is listed with no description. -/
  unresolved : r.IsUnresolved "database" ↔
    ⟨.text "database", .text "unknown", .null⟩ ∈ r.components
  /-- The checks that passed and the failure entries make up the total. -/
  counted : ∃ passed total : Nat, linesUnder resultRule result.output =
      ["Result: " ++ toString passed ++ "/" ++ toString total ++ " checks passed"] ∧
    passed + (failureEntries result.output).length = total
  /-- The fields that are listed as unreadable are those that are shown as unknown. -/
  unreadable :
    let unknown := (SnapshotField.inOrder.filter (·.cell p = "unknown")).map SnapshotField.name
    linesUnder "[Telemetry]" result.output =
      [if unknown = [] then "  All fields readable"
        else "  Unreadable fields: " ++ ", ".intercalate unknown]

/-- The doctor finds what asking the server for its version gives. -/
theorem exists_diagnose {d : Deployment} {r : Resolution} (h : d.resolve = .ok r) :
    ∃ g, d.diagnose = .ok g ∧ g.unreadable = d.host.snapshot.unreadable ∧
      ((∃ v, d.engine.serverVersion = .ok v ∧ g.database = .reached d.engine.label v) ∨
        ∃ f, d.engine.serverVersion = .error f ∧ g.database = .failed f) := by
  rcases hserver : d.engine.serverVersion with f | v
  · refine ⟨⟨.failed f, d.host.snapshot.unreadable⟩, ?_, rfl, .inr ⟨f, rfl, rfl⟩⟩
    simp [Deployment.diagnose, Deployment.checkDatabase, hserver,
      isDatabase_of_serverVersion h hserver, bind, Except.bind, pure, Except.pure]
  · refine ⟨⟨.reached d.engine.label v, d.host.snapshot.unreadable⟩, ?_, rfl, .inl ⟨v, rfl, rfl⟩⟩
    simp [Deployment.diagnose, Deployment.checkDatabase, hserver, bind, Except.bind, pure,
      Except.pure]

namespace Diagnosis

variable {g : Diagnosis} (url : String)

theorem failures_of_reached {label version : String} (h : g.database = .reached label version) :
    g.failures url = [] ∧ g.exitCode url = 0 := by
  have hfailures : g.failures url = [] := by rw [failures, h, DatabaseCheck.failures]
  exact ⟨hfailures, by rw [exitCode, hfailures]; rfl⟩

theorem failures_of_failed {cause : Fault} (h : g.database = .failed cause) :
    (g.failures url).length = 1 ∧ g.exitCode url = 1 := by
  have hfailures : g.failures url = ["Cannot reach " ++ url ++ ": " ++ cause.text] := by
    rw [failures, h, DatabaseCheck.failures]
  exact ⟨by rw [hfailures]; rfl, by rw [exitCode, hfailures]; rfl⟩

end Diagnosis

/-- **The doctor and the dashboard agree** on the database and on the host: let the runtime have a
version, let the component versions be found out, and let the section on the host be built, where no
text of the host reads "unknown". -/
theorem doctor_agrees_with_dashboard {c : CommandContext} {runtime : String} {r : Resolution}
    {p : SystemSection} (hruntime : firstWord? c.installed.runtime = some runtime)
    (hresolve : c.deployment.resolve = .ok r)
    (hsection : snapshotSection c.deployment.host.snapshot = .ok p)
    (htexts : .ok (.text "unknown") ∉ c.deployment.host.texts) :
    DoctorAgrees c.deployment r p (Command.run c .doctor) := by
  obtain ⟨g, hg, hunreadable, hdatabase⟩ := exists_diagnose hresolve
  rw [unreadable_eq_unknown_cells hsection htexts] at hunreadable
  have hentries : (failureEntries (c.report runtime g)).length = (g.failures c.url).length := by
    rw [c.failureEntries_report runtime g, List.length_map]
  rw [Command.run, CommandContext.doctor_eq hruntime hg]
  refine ⟨rfl, fun label version => ?_, ?_, ?_, ⟨g.passed, _, c.linesUnder_result runtime g, ?_⟩,
    ?_⟩
  · show _ ↔ _ ∧ g.exitCode c.url = 0 ∧ linesUnder "[Database]" (c.report runtime g) = _
    rw [mem_components_database_iff hresolve, c.linesUnder_database runtime g]
    rcases hdatabase with ⟨v, hserver, hreached⟩ | ⟨f, hserver, hfailed⟩
    · rw [Inquiry.entry_ofEngine_of_ok hserver, (Diagnosis.failures_of_reached _ hreached).2,
        hreached, DatabaseCheck.line]
      constructor
      · rintro ⟨⟩
        exact ⟨rfl, rfl, rfl⟩
      · rintro ⟨rfl, -, hline⟩
        obtain rfl : v = version := by simpa using hline
        rfl
    · rw [Inquiry.entry_ofEngine_of_error hserver, (Diagnosis.failures_of_failed _ hfailed).2]
      simp
  · show _ ↔ g.exitCode c.url = 1 ∧ (failureEntries (c.report runtime g)).length = 1
    rw [isUnresolved_database_iff hresolve, hentries]
    rcases hdatabase with ⟨v, hserver, hreached⟩ | ⟨f, hserver, hfailed⟩
    · have hfailures := (Diagnosis.failures_of_reached c.url hreached).1
      simp [hserver, hfailures]
    · exact iff_of_true ⟨f, hserver⟩ (Diagnosis.failures_of_failed _ hfailed).symm
  · rw [isUnresolved_database_iff hresolve, mem_components_database_iff hresolve]
    rcases hdatabase with ⟨v, hserver, -⟩ | ⟨f, hserver, -⟩
    · simp [hserver, Inquiry.entry_ofEngine_of_ok hserver]
    · simp [hserver, Inquiry.entry_ofEngine_of_error hserver]
  · exact congrArg (g.passed + ·) hentries
  · show linesUnder "[Telemetry]" (c.report runtime g) = _
    rw [c.linesUnder_telemetry runtime g, Diagnosis.hostLine, hunreadable]
    simp only [List.isEmpty_iff]
    rfl

/-- A host that neither tells its machine nor lets its memory be read, and a database file that
cannot be opened. -/
def lockedContext : CommandContext where
  deployment :=
    { deploymentWith (.ok (.text "2.0")) (.ok (.text "1.7.2"))
        (some (.raised .database (some "unable to open database file"))) with
      host := { plainHost 0 with
        machine := .ok (.text "")
        memory := .failed (.raised .permission none) } }
  installed := ⟨"3.12.1 (main)", "/usr", "0123abcd"⟩
  components := none
  initFailure := none

theorem locked_doctor_agrees :
    ∃ r p, lockedContext.deployment.resolve = .ok r ∧
      snapshotSection lockedContext.deployment.host.snapshot = .ok p ∧
      .ok (.text "unknown") ∉ lockedContext.deployment.host.texts ∧
      DoctorAgrees lockedContext.deployment r p (Command.run lockedContext .doctor) ∧
      r.IsUnresolved "database" ∧ (Command.run lockedContext .doctor).exitCode = 1 ∧
      p.os ≠ "unknown" ∧ p.architecture = "unknown" ∧
      linesUnder "[Telemetry]" (Command.run lockedContext .doctor).output =
        ["  Unreadable fields: architecture, memory_available_bytes, memory_total_bytes"] := by
  have hruntime : firstWord? lockedContext.installed.runtime = some "3.12.1" := by decide +kernel
  obtain ⟨r, hresolve⟩ : ∃ r, lockedContext.deployment.resolve = .ok r := ⟨_, rfl⟩
  have hbuilt : (snapshotSection lockedContext.deployment.host.snapshot).isOk = true := by
    decide +kernel
  have htexts : .ok (.text "unknown") ∉ lockedContext.deployment.host.texts := by
    simp [HostReport.texts, lockedContext, deploymentWith, plainHost]
  obtain ⟨p, hsection⟩ : ∃ p, snapshotSection lockedContext.deployment.host.snapshot = .ok p := by
    rcases hresult : snapshotSection lockedContext.deployment.host.snapshot with f | p
    · simp [hresult, Except.isOk, Except.toBool] at hbuilt
    · exact ⟨p, rfl⟩
  have hagrees := doctor_agrees_with_dashboard hruntime hresolve hsection htexts
  have hcells := cell_eq_unknown_iff hsection htexts
  have hunknown : (SnapshotField.inOrder.filter (·.cell p = "unknown")).map SnapshotField.name =
      ["architecture", "memory_available_bytes", "memory_total_bytes"] :=
    (unreadable_eq_unknown_cells hsection htexts).symm.trans (by decide +kernel)
  have hdatabase : r.IsUnresolved "database" :=
    (isUnresolved_database_iff hresolve).mpr ⟨_, rfl⟩
  have hlines := hagrees.unreadable
  simp only [hunknown] at hlines
  refine ⟨r, p, hresolve, hsection, htexts, hagrees, hdatabase, (hagrees.failed.mp hdatabase).1,
    fun hos => ?_, (hcells .architecture).mpr rfl, hlines⟩
  exact absurd ((hcells .osName).mp hos) (by decide)

end ForgeDashboard
