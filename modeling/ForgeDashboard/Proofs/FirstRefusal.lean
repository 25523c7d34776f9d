import ForgeDashboard.Proofs.Outcome
import ForgeDashboard.Proofs.Refusal

/-!
# The first refused value

A view is built in display order, and fails with the first value that it cannot show.  If all
delivered values are of their types, only counts and the snapshot of the host hold such values.  A
source that fails or that is late takes no part in this, so no failure of a source becomes one of
the view.

## Main definitions

* `Answers.refusal` : the first refused value of the answers.
* `Sources.Typed`, `Sources.refusal` : delivered values of their types, and the first of them that
  is refused.

## Main results

* `Answers.view_failsWith` : a view fails with the first refused value, or not at all.
* `view_fails_iff_refused` : the same for a run of sources.
-/

namespace ForgeDashboard

variable {ε : Type}

/-! ### Texts -/

/-- A field that must be a text refuses any other value. -/
def fieldRefusal (field : String) (v : Value) : Option Fault :=
  if isText v then none else some (.invalidFields [(field, .notText)])

theorem requireText_failsWith (field : String) (v : Value) :
    FailsWith (fieldRefusal field v) (requireText field v) := by
  cases v with
  | text s => exact failsWith_ok s
  | _ => rfl

/-- A latest entity is refused if its name is not a text. -/
def latestRefusal (latest : Option LatestEntity) : Option Fault :=
  latest.bind fun e => fieldRefusal "name" e.displayName

theorem latestPart_failsWith (kind : EntityKind) (latest : Except ε (Option LatestEntity)) :
    FailsWith ((answer? latest).bind latestRefusal) (latestPart kind latest) := by
  rcases latest with u | _ | e
  · exact failsWith_ok _
  · exact failsWith_ok _
  · have hview : FailsWith (fieldRefusal "name" e.displayName) (latestView kind e) :=
      (requireText_failsWith _ _).map fun _ => ⟨_, rfl⟩
    exact hview.map fun _ => ⟨_, rfl⟩

/-- An owner is refused if it is neither missing nor a text. -/
def ownerRefusal (owner : Value) : Option Fault :=
  if isOptionalText owner then none
  else some (.invalidFields [("latest_repo_username", .notText)])

theorem ownerText_failsWith (owner : Except ε Value) :
    FailsWith ((answer? owner).bind ownerRefusal) (ownerText owner) := by
  rcases owner with u | v
  · exact failsWith_ok _
  cases v with
  | null => exact failsWith_ok none
  | text s => exact failsWith_ok (some s)
  | _ => rfl

/-! ### Components -/

/-- The texts of a component are texts. -/
def Component.IsTyped (c : Component) : Prop :=
  isText c.name = true ∧ isText c.version = true ∧ isOptionalText c.description = true

instance (c : Component) : Decidable c.IsTyped := inferInstanceAs (Decidable (_ ∧ _))

/-- A component is refused if one of its texts is none. -/
def componentRefusal (c : Component) : Option Fault :=
  if c.IsTyped then none else some (.invalidFields (componentProblems c))

theorem componentView_failsWith (c : Component) :
    FailsWith (componentRefusal c) (componentView c) := by
  obtain ⟨name, version, description⟩ := c
  cases name with
  | text name =>
    cases version with
    | text version =>
      cases description with
      | null => exact failsWith_ok _
      | text description => exact failsWith_ok _
      | _ => rfl
    | _ => rfl
  | _ => rfl

/-- Of a list of components the first that is refused counts. -/
theorem componentViews_failsWith (cs : List Component) :
    FailsWith (cs.findSome? componentRefusal) (cs.mapM componentView) := by
  induction cs with
  | nil => exact failsWith_ok []
  | cons c cs ih =>
    have hcons : (c :: cs).findSome? componentRefusal =
        (componentRefusal c <|> cs.findSome? componentRefusal) := by
      rw [List.findSome?_cons]
      cases componentRefusal c <;> rfl
    rw [hcons, List.mapM_cons]
    exact (componentView_failsWith c).bind fun _ _ => ih.map fun _ => ⟨_, rfl⟩

/-! ### Sections -/

theorem entitySection_failsWith (kind : EntityKind) (count : Except ε Int)
    (latest : Except ε (Option LatestEntity)) :
    FailsWith ((answer? latest).bind latestRefusal <|> (answer? count).bind countRefusal)
      (entitySection kind count latest) :=
  (latestPart_failsWith kind latest).bind fun _ _ =>
    (label_failsWith kind (answer? count)).map fun _ => ⟨_, rfl⟩

/-- The first refused value of a snapshot, in the order of the fields of its section. -/
def Snapshot.refusal (s : Snapshot) : Option Fault :=
  s.memoryAvailable.refusal sizeRefusal <|> s.memoryTotal.refusal sizeRefusal <|>
    s.uptimeSeconds.refusal durationRefusal

theorem isRefusal_of_snapshotRefusal {s : Snapshot} {f : Fault} (h : s.refusal = some f) :
    IsRefusal f := by
  simp only [Snapshot.refusal, Metric.refusal, Option.orElse_eq_some, Option.bind_eq_some_iff] at h
  rcases h with ⟨n, -, hn⟩ | ⟨-, ⟨n, -, hn⟩ | ⟨-, n, -, hn⟩⟩
  · exact isRefusal_of_sizeRefusal hn
  · exact isRefusal_of_sizeRefusal hn
  · exact isRefusal_of_durationRefusal hn

theorem snapshotSection_failsWith (s : Snapshot) :
    FailsWith s.refusal (snapshotSection s) := by
  refine (metricSize_failsWith _).bind fun _ _ => (metricSize_failsWith _).bind fun _ _ => ?_
  exact (metricUptime_failsWith _).map fun _ => ⟨_, rfl⟩

theorem systemSection_failsWith (snapshot : Except ε Snapshot) :
    FailsWith ((answer? snapshot).bind Snapshot.refusal) (systemSection snapshot) := by
  rcases snapshot with u | s
  · exact failsWith_ok _
  · exact snapshotSection_failsWith s

/-! ### The view -/

namespace Answers

/-- The first refused value of a section. -/
def sectionRefusal (a : Answers ε) (kind : EntityKind) : Option Fault :=
  (answer? (a.latest kind)).bind latestRefusal <|> (answer? (a.count kind)).bind countRefusal

/-- The first refused value of the answers, in display order. -/
def refusal (a : Answers ε) : Option Fault :=
  a.sectionRefusal .user <|> a.sectionRefusal .group <|> a.sectionRefusal .repository <|>
    (answer? a.snapshot).bind Snapshot.refusal <|>
    (componentList a.components).findSome? componentRefusal <|>
    (answer? a.owner).bind ownerRefusal

theorem view_failsWith (a : Answers ε) : FailsWith a.refusal a.view := by
  refine (entitySection_failsWith _ _ _).bind fun _ _ => ?_
  refine (entitySection_failsWith _ _ _).bind fun _ _ => ?_
  refine (entitySection_failsWith _ _ _).bind fun _ _ => ?_
  refine (systemSection_failsWith _).bind fun _ _ => ?_
  refine (componentViews_failsWith _).bind fun _ _ => ?_
  exact (ownerText_failsWith _).map fun _ => ⟨_, rfl⟩

end Answers

/-! ### Answers of their types -/

theorem answer?_eq_some_iff {α : Type} {r : Except ε α} {a : α} :
    answer? r = some a ↔ r = .ok a := by
  cases r <;> simp [answer?]

/-- Answers in which names are texts, and so is an owner that is not missing. -/
structure Answers.NamesTyped (a : Answers ε) : Prop where
  latest : ∀ kind e, a.latest kind = .ok (some e) → isText e.displayName = true
  owner : ∀ v, a.owner = .ok v → isOptionalText v = true

/-- If all names are texts, only counts, the snapshot and components can be refused. -/
theorem Answers.NamesTyped.refusal_eq {a : Answers ε} (h : a.NamesTyped) :
    a.refusal =
      ((answer? (a.count .user)).bind countRefusal <|>
        (answer? (a.count .group)).bind countRefusal <|>
        (answer? (a.count .repository)).bind countRefusal <|>
        (answer? a.snapshot).bind Snapshot.refusal <|>
        (componentList a.components).findSome? componentRefusal) := by
  have hlatest (kind : EntityKind) : (answer? (a.latest kind)).bind latestRefusal = none := by
    rw [Option.bind_eq_none_iff]
    rintro (_ | e) he
    · rfl
    · have htext := h.latest kind e (answer?_eq_some_iff.mp he)
      simp only [latestRefusal, fieldRefusal, Option.bind_some, htext, if_true]
  have howner : (answer? a.owner).bind ownerRefusal = none := by
    rw [Option.bind_eq_none_iff]
    intro v hv
    have htext := h.owner v (answer?_eq_some_iff.mp hv)
    simp only [ownerRefusal, htext, if_true]
  simp [Answers.refusal, Answers.sectionRefusal, hlatest, howner]

/-- A list of components of their types is not refused. -/
theorem componentRefusals_eq_none_iff {cs : List Component} :
    cs.findSome? componentRefusal = none ↔ ∀ c ∈ cs, c.IsTyped := by
  simp [componentRefusal]

/-! ### The view of a run -/

section Run

variable {τ : Type} [Zero τ] [Add τ] [LT τ] [DecidableLT τ] [LE τ] [DecidableLE τ]
  {sources : Sources τ} {start limit : τ}

/-- The first refused value that the sources deliver, in display order. -/
def Sources.refusal (sources : Sources τ) (start limit : τ) : Option Fault :=
  ((sources.count .user).outcome start limit).value?.bind countRefusal <|>
    ((sources.count .group).outcome start limit).value?.bind countRefusal <|>
    ((sources.count .repository).outcome start limit).value?.bind countRefusal <|>
    (sources.telemetry.outcome start limit).value?.bind Snapshot.refusal

/-- The first refused value is the value of a source that delivered it. -/
theorem exists_delivers_of_refusal {f : Fault} (h : sources.refusal start limit = some f) :
    (∃ k n, (sources.count k).Delivers start limit n ∧ countRefusal n = some f) ∨
      ∃ s, sources.telemetry.Delivers start limit s ∧ s.refusal = some f := by
  simp only [Sources.refusal, Option.orElse_eq_some, Option.bind_eq_some_iff, value?_eq_some_iff,
    Source.outcome_eq_delivered_iff] at h
  rcases h with ⟨n, hn⟩ | ⟨-, ⟨n, hn⟩ | ⟨-, ⟨n, hn⟩ | ⟨-, s, hs⟩⟩⟩
  · exact .inl ⟨_, n, hn⟩
  · exact .inl ⟨_, n, hn⟩
  · exact .inl ⟨_, n, hn⟩
  · exact .inr ⟨s, hs⟩

theorem isRefusal_of_refusal {f : Fault} (h : sources.refusal start limit = some f) :
    IsRefusal f := by
  rcases exists_delivers_of_refusal h with ⟨k, n, -, hn⟩ | ⟨s, -, hs⟩
  · exact isRefusal_of_countRefusal hn
  · exact isRefusal_of_snapshotRefusal hs

variable [Sub τ]

/-- Delivered names are texts, and so is a delivered owner that is not missing. -/
structure Sources.NamesTyped (sources : Sources τ) (start limit : τ) : Prop where
  latest : ∀ kind e, (sources.latest kind).Delivers start limit (some e) →
    isText e.displayName = true
  owner : ∀ e, (sources.latest .repository).Delivers start limit (some e) →
    ∀ v, sources.OwnerDelivers start limit e v → isOptionalText v = true

/-- Delivered values are of their types.  Nothing is asked of a source that delivers no value. -/
structure Sources.Typed (sources : Sources τ) (start limit : τ) : Prop
    extends Sources.NamesTyped sources start limit where
  components : ∀ cs, sources.versions.Delivers start limit cs → ∀ c ∈ cs, c.IsTyped

/-- The answers that the outcomes of a run stand for have names that are texts. -/
theorem Sources.NamesTyped.answers (h : sources.NamesTyped start limit) :
    (outcomeAnswers (sources.outcome start limit)).NamesTyped where
  latest := by
    intro kind e he
    have hdelivers : (sources.latest kind).outcome start limit = .delivered (some e) :=
      answer_eq_ok_iff.mp he
    exact h.latest kind e (Source.outcome_eq_delivered_iff.mp hdelivers)
  owner := by
    intro v hv
    have hv : ownerAnswer ((sources.latest .repository).outcome start limit)
      (sources.outcome start limit .owner) = .ok v := hv
    rcases hl : (sources.latest .repository).outcome start limit with (_ | e) | _ | _
    · simp only [Sources.outcome, hl] at hv
      cases hv
      rfl
    · have howner := h.owner e (Source.outcome_eq_delivered_iff.mp hl)
      simp only [Sources.outcome, hl] at hv
      rcases ho : (sources.owner e.id).outcome (sources.ownerStart start)
        (sources.ownerLimit start limit) with x | _ | _
      · rw [ho] at hv
        cases hv
        exact howner _ (Source.outcome_eq_delivered_iff.mp ho)
      · rw [ho] at hv
        cases hv
      · exact absurd ho Source.outcome_ne_unasked
    · simp only [Sources.outcome, hl] at hv
      cases hv
    · exact absurd hl Source.outcome_ne_unasked

theorem Sources.Typed.refusal_outcomeAnswers (h : sources.Typed start limit) :
    (outcomeAnswers (sources.outcome start limit)).refusal = sources.refusal start limit := by
  have hcomponents : (componentList (sources.versions.outcome start limit).answer).findSome?
      componentRefusal = none := by
    rw [componentRefusals_eq_none_iff]
    intro c hc
    rcases hcs : sources.versions.outcome start limit with cs | _ | _
    · rw [hcs] at hc
      exact h.components cs (Source.outcome_eq_delivered_iff.mp hcs) c hc
    · simp [hcs, SourceOutcome.answer, componentList] at hc
    · simp [hcs, SourceOutcome.answer, componentList] at hc
  rw [h.answers.refusal_eq]
  simp [outcomeAnswers, Sources.outcome, answer?_answer, hcomponents, Sources.refusal]

/-- With delivered values of their types, a view fails with the first refused value, and is given
if there is none.  Each failure is that of a value that was delivered in time. -/
theorem view_fails_iff_refused (h : sources.Typed start limit) :
    (∀ f, (runSources sources start limit).view = .error f ↔
      sources.refusal start limit = some f) ∧
    ((∃ v, (runSources sources start limit).view = .ok v) ↔
      sources.refusal start limit = none) ∧
    ∀ f, (runSources sources start limit).view = .error f →
      IsRefusal f ∧
      ((∃ k n, (sources.count k).Delivers start limit n ∧ countRefusal n = some f) ∨
        ∃ s, sources.telemetry.Delivers start limit s ∧ s.refusal = some f) := by
  have hview : FailsWith (sources.refusal start limit) (runSources sources start limit).view := by
    rw [view_eq_outcomeAnswers_view, ← h.refusal_outcomeAnswers]
    exact Answers.view_failsWith _
  refine ⟨hview.eq_error_iff, hview.exists_ok_iff, fun f hf => ?_⟩
  have hrefusal := (hview.eq_error_iff f).mp hf
  exact ⟨isRefusal_of_refusal hrefusal, exists_delivers_of_refusal hrefusal⟩

end Run

/-- A host with as much memory as given, of which the uptime is not a number. -/
def timelessSnapshot (memoryTotal : Int) : Snapshot where
  osName := .ok (.text "Linux")
  osVersion := .ok (.text "6.1.0")
  architecture := .ok (.text "x86_64")
  uptimeSeconds := .ok (.float .nan)
  memoryAvailable := .ok (.int 1073741824)
  memoryTotal := .ok (.int memoryTotal)
  processId := .ok (.num (.int 4242))

/-- Sources on such a host, of which the count of users is negative but late, and the count of
groups fails. -/
def timelessSources (memoryTotal : Int) : Sources Int where
  count
    | .user => ⟨7, .answers (.ok (-3))⟩
    | .group => ⟨1, .fails (.raised .runtime none)⟩
    | .repository => ⟨0, .answers (.ok 3)⟩
  latest := fun kind => ⟨0, .answers (.ok (some ⟨kind, 11, .text "arena"⟩))⟩
  owner := fun _ => ⟨4, .answers (.ok (.text "alice"))⟩
  telemetry := ⟨2, .answers (.ok (timelessSnapshot memoryTotal))⟩
  versions := ⟨1, .answers (.ok [])⟩

theorem vast_memory_refused_before_uptime :
    (timelessSources overflowBound).Typed 0 5 ∧
      (runSources (timelessSources overflowBound) 0 5).view =
        .error (.arithmetic .tooLargeForDouble) := by
  have htyped : (timelessSources overflowBound).Typed 0 5 := by
    refine ⟨⟨?_, ?_⟩, ?_⟩
    · rintro kind e ⟨-, he⟩
      cases he
      rfl
    · rintro e - v ⟨-, hv⟩
      cases hv
      rfl
    · rintro cs ⟨-, hcs⟩ c hc
      cases hcs
      cases hc
  refine ⟨htyped, ((view_fails_iff_refused htyped).1 _).mpr ?_⟩
  have hlarge : sizeRefusal (.int overflowBound) = some (.arithmetic .tooLargeForDouble) := by
    rw [sizeRefusal_int, if_neg overflowBound_pos.le.not_gt, if_pos le_rfl]
  have hsmall : sizeRefusal (.int 1073741824) = none := by
    have hlt : 1073741824 < overflowBound := two_pow_lt_overflowBound (k := 30) (by decide)
    rw [sizeRefusal_int, if_neg (by decide), if_neg hlt.not_ge]
  generalize overflowBound = total at hlarge ⊢
  have husers : ((timelessSources total).count .user).outcome 0 5 = .failed := rfl
  have hgroups : ((timelessSources total).count .group).outcome 0 5 = .failed := rfl
  have hrepos : ((timelessSources total).count .repository).outcome 0 5 = .delivered 3 := rfl
  have hhost : (timelessSources total).telemetry.outcome 0 5 =
      .delivered (timelessSnapshot total) := rfl
  simp [Sources.refusal, husers, hgroups, hrepos, hhost, SourceOutcome.value?, countRefusal,
    Snapshot.refusal, Metric.refusal, timelessSnapshot, answer?, hsmall, hlarge]

end ForgeDashboard
