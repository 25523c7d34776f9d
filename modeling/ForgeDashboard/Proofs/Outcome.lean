import ForgeDashboard.Dashboard.Build
import ForgeDashboard.Proofs.Sections

/-!
# Outcomes of sources

For each call only one thing matters in the end: whether its source delivered a value, and which.
A source delivers a value if it answers with it before the deadline; in every other case it fails,
be it late, by an error of its own, or by saying that it has no value.  The owner of the latest
repository is asked only when that repository is delivered, and then in the time that is left.

The outcomes are defined on the sources alone.  What a run makes of its calls is a function of them.

## Main definitions

* `Source.InTime`, `Source.Delivers`, `Source.Fails` : what becomes of one call.
* `SourceOutcome`, `Source.outcome`, `Sources.outcome` : the outcome of a call, and of each source
  in a run.
* `outcomeAnswers` : the answers that the outcomes of all sources stand for.

## Main results

* `Source.outcome_eq_delivered_iff`, `Source.outcome_eq_failed_iff` : the two outcomes.
* `call_outcome` : the result of a call shows the outcome of its source.
* `view_eq_outcomeAnswers_view` : the view of a run is a function of the outcomes of its sources.
-/

namespace ForgeDashboard

/-! ### What becomes of a source -/

/-- What became of a source that was to give a value, if it was asked at all. -/
inductive SourceOutcome (α : Type) where
  | delivered (value : α)
  | failed
  | unasked

/-- The type of the values that answer a question. -/
abbrev SourceName.Answer : SourceName → Type
  | .count _ => Int
  | .latest _ => Option LatestEntity
  | .owner => Value
  | .telemetry => Snapshot
  | .versions => List Component

/-- The outcome that a result shows. -/
def resultOutcome {ε α : Type} : Except ε α → SourceOutcome α
  | .ok a => .delivered a
  | .error _ => .failed

variable {τ α : Type} [Zero τ] [Add τ] [LT τ] [LE τ]

namespace Source

/-- The source acts before the deadline of a call. -/
def InTime (start limit : τ) (s : Source τ α) : Prop :=
  ¬limit ≤ 0 ∧ start + s.delay < start + limit

/-- The source gives a value before the deadline of a call. -/
def Delivers (start limit : τ) (s : Source τ α) (a : α) : Prop :=
  s.InTime start limit ∧ s.behaviour = .answers (.ok a)

/-- The source gives no value to a call. -/
inductive Fails (start limit : τ) (s : Source τ α) : Prop
  /-- It does not act before the deadline. -/
  | late (h : ¬s.InTime start limit)
  /-- It fails. -/
  | raised (f : Fault) (h : s.behaviour = .fails f)
  /-- It says by itself that there is none. -/
  | stated (u : Unavailable τ) (h : s.behaviour = .answers (.error u))

variable [DecidableLT τ] [DecidableLE τ]

instance (start limit : τ) (s : Source τ α) : Decidable (s.InTime start limit) :=
  inferInstanceAs (Decidable (_ ∧ _))

/-- The outcome of a call of the source. -/
def outcome (start limit : τ) (s : Source τ α) : SourceOutcome α :=
  if s.InTime start limit then
    match s.behaviour with
    | .answers result => resultOutcome result
    | .fails _ => .failed
  else .failed

variable {start limit : τ} {s : Source τ α}

theorem outcome_eq_delivered_iff {a : α} :
    s.outcome start limit = .delivered a ↔ s.Delivers start limit a := by
  by_cases hin : s.InTime start limit
  · rcases hb : s.behaviour with (u | b) | f <;> simp [outcome, Delivers, resultOutcome, hin, hb]
  · simp [outcome, Delivers, hin]

theorem outcome_eq_failed_iff : s.outcome start limit = .failed ↔ s.Fails start limit := by
  constructor
  · intro h
    by_cases hin : s.InTime start limit
    · rcases hb : s.behaviour with (u | b) | f
      · exact .stated u hb
      · simp [outcome, hin, hb, resultOutcome] at h
      · exact .raised f hb
    · exact .late hin
  · rintro (h | ⟨f, h⟩ | ⟨u, h⟩)
    · simp [outcome, h]
    · simp [outcome, h]
    · simp [outcome, h, resultOutcome]

/-- A source that is called is asked. -/
theorem outcome_ne_unasked : s.outcome start limit ≠ .unasked := by
  by_cases hin : s.InTime start limit
  · rcases hb : s.behaviour with (u | b) | f <;> simp [outcome, resultOutcome, hin, hb]
  · simp [outcome, hin]

end Source

/-! ### What a call shows of its source -/

section Call

variable [DecidableLT τ] [DecidableLE τ] {name : String} {start limit : τ}
  {s : Source τ α}

/-- A source that acts in time decides what becomes of the call. -/
theorem call_of_inTime (h : s.InTime start limit) :
    call name start limit s = s.behaviour.attempt name limit (start + s.delay) := by
  rw [call, if_neg h.1, if_pos h.2]

/-- The result of any other call is that it was late. -/
theorem call_result_of_not_inTime (h : ¬s.InTime start limit) :
    (call name start limit s).result = .error ⟨name, .late limit⟩ := by
  by_cases hlimit : limit ≤ 0
  · rw [call, if_pos hlimit]
    rfl
  · rw [call, if_neg hlimit, if_neg fun hlt => h ⟨hlimit, hlt⟩]
    rfl

/-- The result of a call shows the outcome of its source, whatever the reason of a failure. -/
theorem call_outcome :
    resultOutcome (call name start limit s).result = s.outcome start limit := by
  by_cases hin : s.InTime start limit
  · rw [call_of_inTime hin, Source.outcome, if_pos hin]
    rcases hb : s.behaviour with result | f
    · rfl
    · by_cases hf : f.kind = .timeout <;> simp [Behaviour.attempt, hf, Attempt.late, resultOutcome]
  · rw [call_result_of_not_inTime hin, Source.outcome, if_neg hin]
    rfl

/-- A call that gives a value ends when its source gives it. -/
theorem call_ended_of_delivers {a : α} (h : s.Delivers start limit a) :
    (call name start limit s).ended = start + s.delay := by
  rw [call_of_inTime h.1, h.2]
  rfl

end Call

/-! ### What a run shows of its sources -/

namespace Sources

/-- When the owner of the latest repository is asked for: once that repository is known. -/
def ownerStart (sources : Sources τ) (start : τ) : τ := start + (sources.latest .repository).delay

variable [Sub τ] [DecidableLT τ]

/-- The limit on the owner: what is left until the deadline that both calls share. -/
def ownerLimit (sources : Sources τ) (start limit : τ) : τ :=
  restOf (start + limit) (sources.ownerStart start)

/-- The owner of a latest repository is delivered before the deadline. -/
def OwnerDelivers (sources : Sources τ) (start limit : τ) (e : LatestEntity) (owner : Value) :
    Prop :=
  (sources.owner e.id).Delivers (sources.ownerStart start) (sources.ownerLimit start limit) owner

/-- The owner of a latest repository is not delivered before the deadline. -/
def OwnerFails (sources : Sources τ) (start limit : τ) (e : LatestEntity) : Prop :=
  (sources.owner e.id).Fails (sources.ownerStart start) (sources.ownerLimit start limit)

variable [DecidableLE τ]

/-- The outcome of each source in a run. -/
def outcome (sources : Sources τ) (start limit : τ) :
    (name : SourceName) → SourceOutcome name.Answer
  | .count kind => (sources.count kind).outcome start limit
  | .latest kind => (sources.latest kind).outcome start limit
  | .owner =>
    match (sources.latest .repository).outcome start limit with
    | .delivered (some e) =>
      (sources.owner e.id).outcome (sources.ownerStart start) (sources.ownerLimit start limit)
    | _ => .unasked
  | .telemetry => sources.telemetry.outcome start limit
  | .versions => sources.versions.outcome start limit

end Sources

/-- The answer that an outcome stands for. -/
def SourceOutcome.answer : SourceOutcome α → Except Unit α
  | .delivered a => .ok a
  | _ => .error ()

/-- The value that was delivered, if there is one. -/
def SourceOutcome.value? : SourceOutcome α → Option α
  | .delivered a => some a
  | _ => none

/-- The answer on the owner that two outcomes stand for.  An owner that was not asked for is
missing, unless the latest repository could not be found out. -/
def ownerAnswer : SourceOutcome (Option LatestEntity) → SourceOutcome Value → Except Unit Value
  | _, .delivered v => .ok v
  | .delivered _, .unasked => .ok .null
  | _, _ => .error ()

/-- The answers that the outcomes of all sources stand for. -/
def outcomeAnswers (o : (name : SourceName) → SourceOutcome name.Answer) : Answers Unit where
  count := fun kind => (o (.count kind)).answer
  latest := fun kind => (o (.latest kind)).answer
  owner := ownerAnswer (o (.latest .repository)) (o .owner)
  snapshot := (o .telemetry).answer
  components := (o .versions).answer

omit [Zero τ] [Add τ] [LT τ] [LE τ] in
theorem answer_resultOutcome {ε : Type} (r : Except ε α) :
    (resultOutcome r).answer = forgetReason r := by
  rcases r with _ | a <;> rfl

omit [Zero τ] [Add τ] [LT τ] [LE τ] in
theorem answer?_answer (o : SourceOutcome α) : answer? o.answer = o.value? := by
  cases o <;> rfl

omit [Zero τ] [Add τ] [LT τ] [LE τ] in
theorem answer_eq_ok_iff {o : SourceOutcome α} {a : α} : o.answer = .ok a ↔ o = .delivered a := by
  cases o <;> simp [SourceOutcome.answer]

omit [Zero τ] [Add τ] [LT τ] [LE τ] in
theorem value?_eq_some_iff {o : SourceOutcome α} {a : α} :
    o.value? = some a ↔ o = .delivered a := by
  cases o <;> simp [SourceOutcome.value?]

section Run

variable [Sub τ] [DecidableLT τ] [DecidableLE τ] (sources : Sources τ) (start limit : τ)

theorem latest_repositoryBranch :
    (repositoryBranch sources start limit).latest =
      call (SourceName.latest .repository).text start limit (sources.latest .repository) := by
  unfold repositoryBranch
  dsimp only
  split <;> rfl

/-- The latest entity of each kind is called for alike. -/
theorem latest_runSources (kind : EntityKind) :
    (runSources sources start limit).latest kind =
      call (SourceName.latest kind).text start limit (sources.latest kind) := by
  cases kind
  · rfl
  · rfl
  · exact latest_repositoryBranch sources start limit

/-- If the latest repository is delivered, its owner is asked for in the time that is left. -/
theorem repositoryBranch_of_delivers {e : LatestEntity}
    (h : (sources.latest .repository).Delivers start limit (some e)) :
    (repositoryBranch sources start limit).owner =
      some (e.id, call SourceName.owner.text (sources.ownerStart start)
        (sources.ownerLimit start limit) (sources.owner e.id)) := by
  have hended : (call (SourceName.latest .repository).text start limit
      (sources.latest .repository)).ended = sources.ownerStart start :=
    call_ended_of_delivers h
  have hresult : (call (SourceName.latest .repository).text start limit
      (sources.latest .repository)).result = .ok (some e) := by
    rw [call_of_inTime h.1, h.2]
    rfl
  simp only [repositoryBranch, hresult, hended]
  rfl

/-- The owner is called exactly if the latest repository was delivered, and then for it. -/
theorem repositoryBranch_owner_eq_none_iff {sources : Sources τ} {start limit : τ} :
    (repositoryBranch sources start limit).owner = none ↔
      ∀ e, ¬(sources.latest .repository).Delivers start limit (some e) := by
  constructor
  · intro hnone e he
    rw [repositoryBranch_of_delivers sources start limit he] at hnone
    cases hnone
  · intro hnone
    have houtcome : resultOutcome (call (SourceName.latest .repository).text start limit
        (sources.latest .repository)).result = (sources.latest .repository).outcome start limit :=
      call_outcome
    rcases hresult : (call (SourceName.latest .repository).text start limit
      (sources.latest .repository)).result with u | _ | e
    · simp only [repositoryBranch, hresult]
    · simp only [repositoryBranch, hresult]
    · rw [hresult] at houtcome
      exact absurd (Source.outcome_eq_delivered_iff.mp houtcome.symm) (hnone e)

/-- The calls for the latest repository and its owner show the outcomes of both. -/
theorem forgetReason_ownerResult :
    forgetReason (repositoryBranch sources start limit).ownerResult =
      (outcomeAnswers (sources.outcome start limit)).owner := by
  have hlatest : resultOutcome (call (SourceName.latest .repository).text start limit
      (sources.latest .repository)).result = (sources.latest .repository).outcome start limit :=
    call_outcome
  rcases hresult : (call (SourceName.latest .repository).text start limit
    (sources.latest .repository)).result with u | _ | e
  · rw [hresult] at hlatest
    simp only [repositoryBranch, hresult, RepositoryBranch.ownerResult, outcomeAnswers,
      Sources.outcome, ← hlatest]
    rfl
  · rw [hresult] at hlatest
    simp only [repositoryBranch, hresult, RepositoryBranch.ownerResult, outcomeAnswers,
      Sources.outcome, ← hlatest]
    rfl
  · rw [hresult] at hlatest
    have howner : resultOutcome (call SourceName.owner.text (sources.ownerStart start)
        (sources.ownerLimit start limit) (sources.owner e.id)).result =
          (sources.owner e.id).outcome (sources.ownerStart start)
            (sources.ownerLimit start limit) :=
      call_outcome
    simp only [RepositoryBranch.ownerResult, repositoryBranch_of_delivers sources start limit
      (Source.outcome_eq_delivered_iff.mp hlatest.symm), outcomeAnswers, Sources.outcome,
      ← hlatest, resultOutcome, ← howner]
    generalize (call SourceName.owner.text (sources.ownerStart start)
      (sources.ownerLimit start limit) (sources.owner e.id)).result = r
    rcases r with u | v <;> rfl

/-- Without the reasons of failures, the answers of a run are those that the outcomes stand for. -/
theorem forget_answers :
    (runSources sources start limit).answers.forget =
      outcomeAnswers (sources.outcome start limit) := by
  have hcall {β : Type} (name : String) (s : Source τ β) :
      forgetReason (call name start limit s).result = (s.outcome start limit).answer := by
    rw [← answer_resultOutcome, call_outcome]
  simp only [Answers.forget, outcomeAnswers, Answers.mk.injEq]
  refine ⟨?_, ?_, forgetReason_ownerResult sources start limit, hcall _ _, hcall _ _⟩
  · funext kind
    exact hcall _ _
  · funext kind
    show forgetReason ((runSources sources start limit).latest kind).result = _
    rw [latest_runSources]
    exact hcall _ _

/-- The view of a run is that of the answers that the outcomes of its sources stand for. -/
theorem view_eq_outcomeAnswers_view :
    (runSources sources start limit).view =
      (outcomeAnswers (sources.outcome start limit)).view := by
  rw [Run.view, ← Answers.view_forget, forget_answers]

end Run

end ForgeDashboard
