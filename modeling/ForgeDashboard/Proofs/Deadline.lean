import Mathlib.Algebra.Order.Group.Basic
import Mathlib.Algebra.Order.Ring.Int
import Mathlib.Data.Finset.Max
import ForgeDashboard.Proofs.Outcome

/-!
# Deadlines

On an exact clock, a call that waits up to a positive limit ends when its source acts or at the
deadline, whichever comes first.  The latest repository and its owner share one deadline: the owner
gets what is left after the repository, so both together end where a single source with the sum of
the two delays would.  No branch of a build, and so no build, ends after the deadline.

The clock is any linearly ordered commutative group.  An answer that comes with the deadline itself
is late.

## Main definitions

* `Sources.ownerDelay` : how long the latest repository and its owner take together.

## Main results

* `call_ended` : when a call ends.
* `owner_mem_questions_iff` : when the owner of the latest repository is asked for.
* `build_ends_by_deadline` : when the branches of a build and the build itself end.
-/

namespace ForgeDashboard

/-! ### One call -/

section Call

variable {τ α : Type} [AddCommGroup τ] [LinearOrder τ] [IsOrderedAddMonoid τ] {name : String}
  {start limit : τ} {s : Source τ α}

/-- Under a positive limit a source acts in time if its delay is below the limit. -/
theorem inTime_iff (hlimit : 0 < limit) : s.InTime start limit ↔ s.delay < limit := by
  rw [Source.InTime, add_lt_add_iff_left]
  exact and_iff_right hlimit.not_ge

theorem delivers_iff (hlimit : 0 < limit) {a : α} :
    s.Delivers start limit a ↔ s.delay < limit ∧ s.behaviour = .answers (.ok a) := by
  rw [Source.Delivers, inTime_iff hlimit]

omit [AddCommGroup τ] [LinearOrder τ] [IsOrderedAddMonoid τ] in
/-- What becomes of a call in time keeps when it ended, and the source was asked. -/
theorem attempt_ended (b : Behaviour τ α) (name : String) (limit ended : τ) :
    (b.attempt name limit ended).ended = ended ∧ (b.attempt name limit ended).asked = true := by
  rcases b with result | f
  · exact ⟨rfl, rfl⟩
  · by_cases hf : f.kind = .timeout
    · simp [Behaviour.attempt, hf, Attempt.late]
    · simp [Behaviour.attempt, hf]

/-- A call that ran into its deadline. -/
theorem call_of_le_delay (hlimit : 0 < limit) (h : limit ≤ s.delay) :
    call name start limit s = .late name limit true (start + limit) := by
  rw [call, if_neg hlimit.not_ge, if_neg (add_le_add_iff_left start |>.mpr h).not_gt]

/-- A call whose source acted before the deadline. -/
theorem call_of_delay_lt (hlimit : 0 < limit) (h : s.delay < limit) :
    call name start limit s = s.behaviour.attempt name limit (start + s.delay) :=
  call_of_inTime ((inTime_iff hlimit).mpr h)

/-- A call ends when its source acts or at the deadline, whichever comes first. -/
theorem call_ended (hlimit : 0 < limit) :
    (call name start limit s).ended = start + min s.delay limit := by
  rcases lt_or_ge s.delay limit with h | h
  · rw [call_of_delay_lt hlimit h, (attempt_ended ..).1, min_eq_left h.le]
  · rw [call_of_le_delay hlimit h, min_eq_right h]
    rfl

end Call

/-! ### The latest repository and its owner -/

section Run

variable {τ : Type} [AddCommGroup τ] [LinearOrder τ] {sources : Sources τ} {start limit : τ}

/-- How long the latest repository and the owner of a repository take together. -/
def Sources.ownerDelay (sources : Sources τ) (repository : Int) : τ :=
  (sources.latest .repository).delay + (sources.owner repository).delay

variable [IsOrderedAddMonoid τ]

/-- The owner gets what the repository left of the limit. -/
theorem ownerLimit_eq (h : (sources.latest .repository).delay ≤ limit) :
    sources.ownerLimit start limit = limit - (sources.latest .repository).delay := by
  have hrest : start + limit - sources.ownerStart start =
      limit - (sources.latest .repository).delay := by
    rw [Sources.ownerStart, add_sub_add_left_eq_sub]
  rw [Sources.ownerLimit, restOf, hrest, notNegative, if_neg (sub_nonneg.mpr h).not_gt]

/-- The call for the owner once the latest repository is delivered: both calls together keep to the
one deadline. -/
theorem owner_call_eq (hlimit : 0 < limit) {e : LatestEntity}
    (h : (sources.latest .repository).Delivers start limit (some e)) :
    (repositoryBranch sources start limit).owner = some (e.id,
      if sources.ownerDelay e.id < limit then
        (sources.owner e.id).behaviour.attempt SourceName.owner.text
          (limit - (sources.latest .repository).delay) (start + sources.ownerDelay e.id)
      else .late SourceName.owner.text (limit - (sources.latest .repository).delay) true
        (start + limit)) := by
  have hlt : (sources.latest .repository).delay < limit := ((delivers_iff hlimit).mp h).1
  have hrest : 0 < limit - (sources.latest .repository).delay := sub_pos.mpr hlt
  rw [repositoryBranch_of_delivers sources start limit h, ownerLimit_eq hlt.le]
  congr 2
  split_ifs with hsum
  · have howner : (sources.owner e.id).delay < limit - (sources.latest .repository).delay :=
      lt_sub_iff_add_lt'.mpr hsum
    rw [call_of_delay_lt hrest howner, Sources.ownerStart, Sources.ownerDelay, add_assoc]
  · have howner : limit - (sources.latest .repository).delay ≤ (sources.owner e.id).delay :=
      sub_le_iff_le_add'.mpr (not_lt.mp hsum)
    rw [call_of_le_delay hrest howner, Sources.ownerStart, add_assoc, add_sub_cancel]

theorem exists_owner_call (hlimit : 0 < limit) {e : LatestEntity}
    (h : (sources.latest .repository).Delivers start limit (some e)) :
    ∃ a, (repositoryBranch sources start limit).owner = some (e.id, a) ∧ a.asked = true ∧
      a.ended = start + min (sources.ownerDelay e.id) limit := by
  refine ⟨_, owner_call_eq hlimit h, ?_⟩
  split_ifs with hsum
  · rw [(attempt_ended ..).1, (attempt_ended ..).2, min_eq_left hsum.le]
    exact ⟨rfl, rfl⟩
  · rw [min_eq_right (not_lt.mp hsum)]
    exact ⟨rfl, rfl⟩

/-- The calls for the latest repository and its owner end when the last of them acts or at the
deadline, whichever comes first. -/
theorem repository_ended_of_delivers (hlimit : 0 < limit) {e : LatestEntity}
    (h : (sources.latest .repository).Delivers start limit (some e)) :
    (repositoryBranch sources start limit).ended =
      start + min (sources.ownerDelay e.id) limit := by
  obtain ⟨a, howner, -, hended⟩ := exists_owner_call hlimit h
  rw [RepositoryBranch.ended, howner]
  exact hended

theorem repository_ended_of_not_delivers (hlimit : 0 < limit)
    (h : ∀ e, ¬(sources.latest .repository).Delivers start limit (some e)) :
    (repositoryBranch sources start limit).ended =
      start + min (sources.latest .repository).delay limit := by
  rw [RepositoryBranch.ended, repositoryBranch_owner_eq_none_iff.mpr h]
  dsimp only
  rw [latest_repositoryBranch, call_ended hlimit]

/-- The owner of a repository is asked for exactly if that repository is delivered in time as the
latest one. -/
theorem owner_mem_questions_iff (hlimit : 0 < limit) {repository : Int} :
    Question.owner repository ∈ (runSources sources start limit).questions ↔
      ∃ e, (sources.latest .repository).Delivers start limit (some e) ∧ e.id = repository := by
  have hplain (α : Type) (name : SourceName) (a : Attempt τ α) :
      Question.owner repository ∉ Run.questionOf (.plain name) a := by
    rw [Run.questionOf]
    split_ifs <;> simp
  have hbranch : Question.owner repository ∈ (runSources sources start limit).questions ↔
      Question.owner repository ∈
        Run.branchQuestions (repositoryBranch sources start limit) := by
    simp [Run.questions, hplain, runSources]
  rw [hbranch, Run.branchQuestions, List.mem_append, or_iff_right (hplain _ _ _)]
  constructor
  · intro hmem
    by_cases hany : ∃ e, (sources.latest .repository).Delivers start limit (some e)
    · obtain ⟨e, he⟩ := hany
      obtain ⟨a, howner, hasked, -⟩ := exists_owner_call hlimit he
      simp only [howner, Run.questionOf, hasked, if_true, List.mem_singleton,
        Question.owner.injEq] at hmem
      exact ⟨e, he, hmem.symm⟩
    · rw [repositoryBranch_owner_eq_none_iff.mpr (not_exists.mp hany)] at hmem
      cases hmem
  · rintro ⟨e, he, rfl⟩
    obtain ⟨a, howner, hasked, -⟩ := exists_owner_call hlimit he
    simp only [howner, Run.questionOf, hasked, if_true, List.mem_singleton]

/-- What becomes of the answer on the owner of the latest repository: what its source does counts if
both delays together stay below the limit. -/
theorem ownerResult_of_delivers (hlimit : 0 < limit) {e : LatestEntity}
    (h : (sources.latest .repository).Delivers start limit (some e)) :
    (runSources sources start limit).answers.owner =
      if sources.ownerDelay e.id < limit then
        ((sources.owner e.id).behaviour.attempt SourceName.owner.text
          (limit - (sources.latest .repository).delay) (start + sources.ownerDelay e.id)).result
      else .error ⟨SourceName.owner.text, .late (limit - (sources.latest .repository).delay)⟩ := by
  show (repositoryBranch sources start limit).ownerResult = _
  rw [RepositoryBranch.ownerResult, owner_call_eq hlimit h]
  dsimp only
  split_ifs
  · rfl
  · rfl

/-! ### The whole build -/

/-- Every branch of a build ends at the deadline at the latest. -/
theorem ending_le (hlimit : 0 < limit) {t : τ}
    (ht : t ∈ (runSources sources start limit).endings) : t ≤ start + limit := by
  have hmin (d : τ) : start + min d limit ≤ start + limit :=
    add_le_add_right (min_le_right d limit) start
  have hcall {α : Type} (name : String) (s : Source τ α) :
      (call name start limit s).ended ≤ start + limit :=
    (call_ended hlimit).trans_le (hmin _)
  have hrepository : (repositoryBranch sources start limit).ended ≤ start + limit := by
    by_cases hany : ∃ e, (sources.latest .repository).Delivers start limit (some e)
    · obtain ⟨e, he⟩ := hany
      exact (repository_ended_of_delivers hlimit he).trans_le (hmin _)
    · exact (repository_ended_of_not_delivers hlimit (not_exists.mp hany)).trans_le (hmin _)
  simp only [Run.endings, runSources, List.mem_append, List.mem_map, List.mem_cons,
    List.not_mem_nil, or_false] at ht
  rcases ht with ⟨kind, -, rfl⟩ | rfl | rfl | rfl | rfl | rfl
  · exact hcall _ _
  · exact hcall _ _
  · exact hcall _ _
  · exact hrepository
  · exact hcall _ _
  · exact hcall _ _

omit [AddCommGroup τ] [IsOrderedAddMonoid τ] in
/-- A build ends when the last of its branches does. -/
theorem isGreatest_ended (r : Run τ) : IsGreatest {t | t ∈ r.endings} r.ended :=
  ⟨List.max_mem _, fun _ ht => List.le_max_of_mem ht⟩

/-- Every branch of a build ends when its sources act or at the deadline, whichever comes first;
the build ends with the last branch and never after the deadline.  The owner of a repository is
asked for exactly if that repository was delivered in time as the latest one, and what its source
does counts exactly if both delays together stay below the limit. -/
theorem build_ends_by_deadline (sources : Sources τ) (start : τ) {limit : τ} (hlimit : 0 < limit) :
    (∀ kind, ((runSources sources start limit).count kind).ended =
      start + min (sources.count kind).delay limit) ∧
    (∀ kind, ((runSources sources start limit).latest kind).ended =
      start + min (sources.latest kind).delay limit) ∧
    (runSources sources start limit).telemetry.ended =
      start + min sources.telemetry.delay limit ∧
    (runSources sources start limit).versions.ended =
      start + min sources.versions.delay limit ∧
    ((∀ id, Question.owner id ∉ (runSources sources start limit).questions) →
      (runSources sources start limit).repository.ended =
        start + min (sources.latest .repository).delay limit) ∧
    (∀ id, Question.owner id ∈ (runSources sources start limit).questions →
      (runSources sources start limit).repository.ended =
        start + min ((sources.latest .repository).delay + (sources.owner id).delay) limit) ∧
    IsGreatest {t | t ∈ (runSources sources start limit).endings}
      (runSources sources start limit).ended ∧
    (runSources sources start limit).ended ≤ start + limit ∧
    (∀ id, Question.owner id ∈ (runSources sources start limit).questions ↔
      ∃ e, (sources.latest .repository).delay < limit ∧
        (sources.latest .repository).behaviour = .answers (.ok (some e)) ∧ e.id = id) ∧
    (∀ id, Question.owner id ∈ (runSources sources start limit).questions →
      (runSources sources start limit).answers.owner =
        if (sources.latest .repository).delay + (sources.owner id).delay < limit then
          ((sources.owner id).behaviour.attempt SourceName.owner.text
            (limit - (sources.latest .repository).delay)
            (start + ((sources.latest .repository).delay + (sources.owner id).delay))).result
        else
          .error ⟨SourceName.owner.text, .late (limit - (sources.latest .repository).delay)⟩) ∧
    ∀ id answer, Question.owner id ∈ (runSources sources start limit).questions →
      (sources.owner id).behaviour = .answers (.ok answer) →
      ((runSources sources start limit).answers.owner = .ok answer ↔
        (sources.latest .repository).delay + (sources.owner id).delay < limit) := by
  have hasked (id : Int) : Question.owner id ∈ (runSources sources start limit).questions ↔
      ∃ e, (sources.latest .repository).Delivers start limit (some e) ∧ e.id = id :=
    owner_mem_questions_iff hlimit
  have hlatest (kind : EntityKind) : ((runSources sources start limit).latest kind).ended =
      start + min (sources.latest kind).delay limit := by
    cases kind
    · exact call_ended hlimit
    · exact call_ended hlimit
    · show (repositoryBranch sources start limit).latest.ended = _
      rw [latest_repositoryBranch, call_ended hlimit]
  refine ⟨fun kind => call_ended hlimit, hlatest, call_ended hlimit, call_ended hlimit, ?_, ?_,
    isGreatest_ended _, ending_le hlimit (isGreatest_ended _).1, ?_, ?_, ?_⟩
  · intro hnone
    refine repository_ended_of_not_delivers hlimit fun e he => hnone e.id ?_
    exact (hasked e.id).mpr ⟨e, he, rfl⟩
  · intro id hid
    obtain ⟨e, he, rfl⟩ := (hasked id).mp hid
    exact repository_ended_of_delivers hlimit he
  · intro id
    simp only [hasked, delivers_iff hlimit, and_assoc]
  · intro id hid
    obtain ⟨e, he, rfl⟩ := (hasked id).mp hid
    exact ownerResult_of_delivers hlimit he
  · intro id answer hid hanswer
    obtain ⟨e, he, rfl⟩ := (hasked id).mp hid
    rw [ownerResult_of_delivers hlimit he, Sources.ownerDelay, hanswer]
    split_ifs with hsum
    · exact iff_of_true rfl hsum
    · exact iff_of_false (by simp) hsum

end Run

/-- Sources of which the latest repository and its owner each answer within five seconds, but not
both together, while the host does not answer for an hour. -/
def chainedSources : Sources Int where
  count := fun _ => ⟨1, .answers (.ok 5)⟩
  latest := fun kind => ⟨3, .answers (.ok (some ⟨kind, 11, .text "arena"⟩))⟩
  owner := fun _ => ⟨4, .answers (.ok (.text "alice"))⟩
  telemetry := ⟨3600, .fails (.raised .runtime none)⟩
  versions := ⟨2, .answers (.ok [])⟩

theorem chained_build_ends_after_five :
    (0 : Int) < 5 ∧
      Question.owner 11 ∈ (runSources chainedSources 0 5).questions ∧
      (runSources chainedSources 0 5).repository.ended = 5 ∧
      (runSources chainedSources 0 5).ended ≤ 5 ∧
      (runSources chainedSources 0 5).answers.owner ≠ .ok (.text "alice") := by
  obtain ⟨-, -, -, -, -, hrepository, -, hended, hasked, -, hused⟩ :=
    build_ends_by_deadline chainedSources 0 (show (0 : Int) < 5 by decide)
  have hid : Question.owner 11 ∈ (runSources chainedSources 0 5).questions :=
    (hasked 11).mpr ⟨⟨.repository, 11, .text "arena"⟩, by decide, rfl, rfl⟩
  refine ⟨by decide, hid, hrepository 11 hid, hended, fun h => ?_⟩
  exact absurd ((hused 11 (.text "alice") hid rfl).mp h) (by decide)

end ForgeDashboard
