import ForgeDashboard.Store.Statistics
import ForgeDashboard.Proofs.HostRefusal

/-!
# Dashboards of a store and a host

Sources that read a store never make a view fail: the counts of a store are not negative, its names
are texts, and what goes wrong in it stays a failure of a source.  Whether there is a view depends
on the host and on the component list alone, and on them only if they answer in time.

## Main definitions

* `Sources.Integrates` : sources that read a store, a host and a list of components.

## Main results

* `integrated_view_iff` : when such sources give a view.
-/

namespace ForgeDashboard

variable {τ : Type}

/-! ### Answers of a store -/

theorem ofQuery_eq_ok {α : Type} {name : SourceName} {r : Except Fault α} {a : α}
    (h : (Behaviour.ofQuery name r : Behaviour τ α) = .answers (.ok a)) : r = .ok a := by
  rcases r with f | b
  · by_cases hf : f.kind.isDatabase = true <;> simp [Behaviour.ofQuery, hf] at h
  · cases h
    rfl

theorem map_eq_ok {α β : Type} {b : Behaviour τ α} {f : α → β} {y : β}
    (h : b.map f = .answers (.ok y)) : ∃ x, f x = y := by
  rcases b with (u | x) | c
  · cases h
  · cases h
    exact ⟨x, rfl⟩
  · cases h

namespace Access

variable {a : Access}

/-- An answer of a store is that of the query. -/
theorem query_eq_ok {α : Type} {query : Store → Except Fault α} {x : α}
    (h : a.ask query = .ok x) : query a.store = .ok x := by
  unfold ask at h
  split at h
  · cases h
  · exact h

/-- A count of a store is a number of rows. -/
theorem count_nonneg {kind : EntityKind} {n : Int}
    (h : (a.count kind : Behaviour τ Int) = .answers (.ok n)) : 0 ≤ n := by
  obtain ⟨rows, -, hn⟩ := bind_eq_ok_iff.mp (query_eq_ok (ofQuery_eq_ok h))
  cases hn
  exact Int.natCast_nonneg _

/-- The name of a latest entity of a store is a text. -/
theorem latest_isText {kind : EntityKind} {e : LatestEntity}
    (h : (a.latest kind : Behaviour τ (Option LatestEntity)) = .answers (.ok (some e))) :
    isText e.displayName = true := by
  obtain ⟨row, -, he⟩ := bind_eq_ok_iff.mp (query_eq_ok (ofQuery_eq_ok h))
  rcases row with _ | row
  · cases he
  · cases he
    rfl

/-- The owner of a repository of a store is missing or has a text for a name. -/
theorem owner_isOptionalText {repository : Int} {v : Value}
    (h : ((a.owner repository).map nameValue : Behaviour τ Value) = .answers (.ok v)) :
    isOptionalText v = true := by
  obtain ⟨name, rfl⟩ := map_eq_ok h
  cases name <;> rfl

end Access

/-! ### Views of a store and a host -/

/-- Sources that read a store, a host and a list of components, in any time. -/
structure Sources.Integrates (sources : Sources τ) (a : Access) (r : HostReport)
    (components : List Component) : Prop where
  count : ∀ kind, (sources.count kind).behaviour = a.count kind
  latest : ∀ kind, (sources.latest kind).behaviour = a.latest kind
  owner : ∀ repository,
    (sources.owner repository).behaviour = (a.owner repository).map Access.nameValue
  telemetry : sources.telemetry.behaviour = .answers (.ok r.snapshot)
  versions : sources.versions.behaviour = .answers (.ok components)

/-- The sources of a dashboard that answer at once. -/
theorem integrates_sources [Zero τ] (a : Access) (r : HostReport) (components : List Component) :
    (a.sources r.snapshot components : Sources τ).Integrates a r components :=
  ⟨fun _ => rfl, fun _ => rfl, fun _ => rfl, rfl, rfl⟩

section Run

variable [Zero τ] [Add τ] [LT τ] [DecidableLT τ] [LE τ] [DecidableLE τ]
  {sources : Sources τ} {a : Access} {r : HostReport} {components : List Component}
  {start limit : τ}

namespace Sources.Integrates

variable (h : sources.Integrates a r components)

include h

/-- No count of a store is refused. -/
theorem count_refusal (kind : EntityKind) :
    ((sources.count kind).outcome start limit).value?.bind countRefusal = none := by
  rw [Option.bind_eq_none_iff]
  intro n hn
  obtain ⟨-, hcount⟩ := Source.outcome_eq_delivered_iff.mp (value?_eq_some_iff.mp hn)
  rw [h.count] at hcount
  rw [countRefusal, if_neg (Access.count_nonneg hcount).not_gt]

/-- What the host makes of a view. -/
theorem host_refusal :
    (sources.telemetry.outcome start limit).value?.bind Snapshot.refusal =
      if sources.telemetry.InTime start limit then r.snapshot.refusal else none := by
  rw [Source.outcome, h.telemetry]
  split_ifs
  · rfl
  · rfl

/-- What the components make of a view. -/
theorem component_refusal :
    (componentList (sources.versions.outcome start limit).answer).findSome? componentRefusal =
      if sources.versions.InTime start limit then components.findSome? componentRefusal
      else none := by
  rw [Source.outcome, h.versions]
  split_ifs
  · rfl
  · rfl

variable [Sub τ]

omit [DecidableLE τ] in
theorem namesTyped : sources.NamesTyped start limit where
  latest := by
    rintro kind e ⟨-, he⟩
    rw [h.latest] at he
    exact Access.latest_isText he
  owner := by
    rintro e - v ⟨-, hv⟩
    rw [h.owner] at hv
    exact Access.owner_isOptionalText hv

/-- The view is refused because of the host or of a component, if they answer in time. -/
theorem view_failsWith :
    FailsWith
      ((if sources.telemetry.InTime start limit then r.snapshot.refusal else none) <|>
        if sources.versions.InTime start limit then components.findSome? componentRefusal
        else none)
      (runSources sources start limit).view := by
  have hview := Answers.view_failsWith (outcomeAnswers (sources.outcome start limit))
  rw [h.namesTyped.answers.refusal_eq] at hview
  simp only [outcomeAnswers, Sources.outcome, answer?_answer, h.count_refusal, h.host_refusal,
    h.component_refusal] at hview
  rw [view_eq_outcomeAnswers_view]
  exact hview

/-- There is a view if what answers in time can be shown. -/
theorem exists_view (hhost : sources.telemetry.InTime start limit → r.Displayable)
    (hcomponents : sources.versions.InTime start limit → ∀ c ∈ components, c.IsTyped) :
    ∃ v, (runSources sources start limit).view = .ok v := by
  have hview : FailsWith _ (runSources sources start limit).view := h.view_failsWith
  rw [hview.exists_ok_iff, Option.orElse_eq_none, ite_eq_right_iff, ite_eq_right_iff,
    r.refusal_eq_none_iff, componentRefusals_eq_none_iff]
  exact ⟨hhost, hcomponents⟩

end Sources.Integrates

/-- Sources that read a store, a host and a list of components give a view unless the host, in time,
reports a number that cannot be shown, or the list, in time, holds a component without texts.  Of
the two the host is refused first. -/
theorem integrated_view_iff [Sub τ] (h : sources.Integrates a r components) :
    ((∃ v, (runSources sources start limit).view = .ok v) ↔
      (sources.telemetry.InTime start limit → r.Displayable) ∧
        (sources.versions.InTime start limit → ∀ c ∈ components, c.IsTyped)) ∧
    ∀ f, sources.telemetry.InTime start limit → r.snapshot.refusal = some f →
      (runSources sources start limit).view = .error f := by
  have hview : FailsWith _ (runSources sources start limit).view := h.view_failsWith
  constructor
  · rw [hview.exists_ok_iff, Option.orElse_eq_none, ite_eq_right_iff, ite_eq_right_iff,
      r.refusal_eq_none_iff, componentRefusals_eq_none_iff]
  · intro f hin hf
    rw [hview.eq_error_iff, if_pos hin, hf]
    rfl

end Run

/-- A host of two gibibytes that reports the given number of free bytes. -/
def plainHost (free : Int) : HostReport where
  system := .ok (.text "Linux")
  release := .ok (.text "6.1.0")
  machine := .ok (.text "x86_64")
  memory := .bytes (.ok (.num (.int 2147483648))) (.ok (.num (.int free)))
  now := .ok (.num (.int 10000))
  createTime := .ok (.num (.int 6275))
  processId := .ok (.num (.int 4242))
  process := .given

/-- A store without tables. -/
def bareAccess : Access := ⟨⟨none, none, none⟩, none⟩

/-- Whatever is free on such a host can be shown, because it is lowered to the total. -/
theorem displayable_plainHost {free : Int} (hfree : 0 ≤ free) : (plainHost free).Displayable := by
  have hsmall {k : Int} (hk : k ≤ 2 ^ 31) : k < overflowBound :=
    hk.trans_lt (two_pow_lt_overflowBound (k := 31) (by decide))
  refine ⟨?_, ?_, ?_⟩
  · intro k hk
    cases hk
    exact ⟨by decide, hsmall (by decide)⟩
  · intro k hk
    cases hk
    exact ⟨hfree, .inr ⟨_, rfl⟩⟩
  · intro n hn
    cases hn
    refine ⟨by simp, ?_⟩
    intro k hk
    cases hk
    exact hsmall (by decide)

/-- The component list of a small program. -/
def plainComponents : List Component := [⟨.text "python", .text "3.12.1", .null⟩]

/-- The sources of such a host, beside a store without tables. -/
def plainSources (τ : Type) [Zero τ] (free : Int) : Sources τ :=
  bareAccess.sources (plainHost free).snapshot plainComponents

/-- More free memory than there are doubles is shown, and missing tables do not matter. -/
theorem vast_free_memory_shown :
    (plainSources Int overflowBound).Integrates bareAccess (plainHost overflowBound)
        plainComponents ∧
      ∃ v, (runSources (plainSources Int overflowBound) 0 5).view = .ok v := by
  have hsources : (plainSources Int overflowBound).Integrates bareAccess
      (plainHost overflowBound) plainComponents :=
    integrates_sources _ _ _
  have hhost := displayable_plainHost overflowBound_pos.le
  refine ⟨hsources, (integrated_view_iff hsources).1.mpr ⟨fun _ => hhost, fun _ c hc => ?_⟩⟩
  cases List.mem_singleton.mp hc
  exact ⟨rfl, rfl, rfl⟩

/-- A negative number of free bytes makes the view fail. -/
theorem negative_free_memory_refused :
    0 < Binary64.ofRat 5 ∧
      (runSources (plainSources Binary64 (-1)) 0 (Binary64.ofRat 5)).view =
        .error (.negativeSize (.int (-1))) := by
  refine ⟨by decide +kernel, ?_⟩
  have hsources : (plainSources Binary64 (-1)).Integrates bareAccess (plainHost (-1))
      plainComponents :=
    integrates_sources _ _ _
  have hintime : (plainSources Binary64 (-1)).telemetry.InTime 0 (Binary64.ofRat 5) := by
    have hanswer : (0 : Binary64) + 0 < 0 + Binary64.ofRat 5 := by decide +kernel
    exact ⟨by decide +kernel, hanswer⟩
  have hrefusal : (plainHost (-1)).snapshot.refusal = some (.negativeSize (.int (-1))) := by
    have havailable : (plainHost (-1)).snapshot.memoryAvailable = .ok (.int (-1)) := by
      have htotal : (plainHost (-1)).memoryTotal = .ok (.int 2147483648) := rfl
      have hfree : (plainHost (-1)).memoryFree = .ok (.int (-1)) := rfl
      simp [HostReport.snapshot, HostReport.memoryAvailable, htotal, hfree, lt_int_int]
    have hsize : sizeRefusal (.int (-1)) = some (.negativeSize (.int (-1))) := by
      rw [sizeRefusal_int]
      rfl
    rw [Snapshot.refusal, Metric.refusal, havailable]
    simp only [answer?, Option.bind_some, hsize]
    rfl
  have hview : FailsWith _ (runSources (plainSources Binary64 (-1)) 0 (Binary64.ofRat 5)).view :=
    hsources.view_failsWith
  rw [hview.eq_error_iff, if_pos hintime, hrefusal]
  rfl

end ForgeDashboard
