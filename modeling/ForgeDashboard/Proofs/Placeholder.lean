import Mathlib.Algebra.Order.Ring.Int
import ForgeDashboard.Proofs.DurationReading
import ForgeDashboard.Proofs.Outcome

/-!
# Placeholders for failed sources

The view tells a failed source from an empty one.  A latest entity is unavailable if the look-up of
its kind failed, and empty if that look-up found none; a count is missing if it could not be taken;
and the owner of the latest repository is not available if one of the two look-ups that lead to it
failed, and missing if one of them found nothing.

## Main results

* `latestState_eq`, `count_eq` : the parts of a section, by the outcomes that feed them.
* `view_tells_failed_from_empty` : the placeholders of a view.
-/

namespace ForgeDashboard

/-! ### Texts of counts -/

/-- No integer is written like a number that is not available. -/
theorem toString_ne_notAvailable (n : Int) : toString n ≠ notAvailable :=
  toString_ne_of_mem (c := 'n') (by decide) (by decide) (by decide)

/-! ### The parts of a view, by the outcomes that feed them -/

/-- The state that goes with the outcome of a look-up. -/
def lookupState : SourceOutcome (Option LatestEntity) → LatestState
  | .delivered (some _) => .ok
  | .delivered none => .empty
  | _ => .unavailable

/-- The state of a part on a latest entity. -/
theorem state_of_latestPart {kind : EntityKind} {o : SourceOutcome (Option LatestEntity)}
    {state : LatestState} {shown : Option LatestView}
    (h : latestPart kind o.answer = .ok (state, shown)) : state = lookupState o := by
  rcases o with (_ | e) | _ | _
  · exact (Prod.mk.inj (Except.ok.inj h)).1.symm
  · obtain ⟨_, _, hpart⟩ := bind_eq_ok_iff.mp h
    exact (Prod.mk.inj (Except.ok.inj hpart)).1.symm
  · exact (Prod.mk.inj (Except.ok.inj h)).1.symm
  · exact (Prod.mk.inj (Except.ok.inj h)).1.symm

section Outcomes

variable {o : (name : SourceName) → SourceOutcome name.Answer} {v : View}
  (h : (outcomeAnswers o).view = .ok v)

include h

theorem latestState_eq (k : EntityKind) :
    (v.entitySection k).latestState = lookupState (o (.latest k)) :=
  state_of_latestPart (entitySection_eq_ok_iff.mp ((Answers.view_eq_ok_iff.mp h).1 k)).2.2.2.2.2

theorem count_eq (k : EntityKind) : (v.entitySection k).count = (o (.count k)).value? := by
  rw [← answer?_answer]
  exact (entitySection_eq_ok_iff.mp ((Answers.view_eq_ok_iff.mp h).1 k)).2.1

theorem countDisplay_eq (k : EntityKind) :
    (v.entitySection k).countDisplay = countText (o (.count k)).value? := by
  rw [← answer?_answer]
  exact (entitySection_eq_ok_iff.mp ((Answers.view_eq_ok_iff.mp h).1 k)).2.2.1

theorem ownerText_eq :
    ownerText (ownerAnswer (o (.latest .repository)) (o .owner)) = .ok v.latestRepoUsername :=
  (Answers.view_eq_ok_iff.mp h).2.2.2

end Outcomes

/-! ### The placeholders of a run -/

section Run

variable {τ : Type} [Zero τ] [Add τ] [Sub τ] [LT τ] [DecidableLT τ] [LE τ] [DecidableLE τ]
  {sources : Sources τ} {start limit : τ} {v : View}

/-- The state of a kind tells the three outcomes of its look-up apart. -/
theorem latestState_iff (h : (runSources sources start limit).view = .ok v) (k : EntityKind) :
    ((v.entitySection k).latestState = .unavailable ↔ (sources.latest k).Fails start limit) ∧
    ((v.entitySection k).latestState = .empty ↔
      (sources.latest k).Delivers start limit none) ∧
    ((v.entitySection k).latestState = .ok ↔
      ∃ e, (sources.latest k).Delivers start limit (some e)) := by
  rw [view_eq_outcomeAnswers_view] at h
  have hstate : (v.entitySection k).latestState =
      lookupState ((sources.latest k).outcome start limit) := latestState_eq h k
  simp only [hstate, ← Source.outcome_eq_failed_iff, ← Source.outcome_eq_delivered_iff]
  rcases hl : (sources.latest k).outcome start limit with (_ | e) | _ | _
  · simp [lookupState]
  · simp [lookupState]
  · simp [lookupState]
  · exact absurd hl Source.outcome_ne_unasked

/-- The count of a kind is missing if it could not be taken, and shown otherwise. -/
theorem count_iff (h : (runSources sources start limit).view = .ok v) (k : EntityKind) :
    ((v.entitySection k).count = none ↔ (sources.count k).Fails start limit) ∧
    ((v.entitySection k).countDisplay = notAvailable ↔ (sources.count k).Fails start limit) ∧
    ∀ n, (sources.count k).Delivers start limit n →
      (v.entitySection k).count = some n ∧ (v.entitySection k).countDisplay = toString n := by
  rw [view_eq_outcomeAnswers_view] at h
  have hcount : (v.entitySection k).count = ((sources.count k).outcome start limit).value? :=
    count_eq h k
  have hdisplay : (v.entitySection k).countDisplay =
      countText ((sources.count k).outcome start limit).value? := countDisplay_eq h k
  simp only [hcount, hdisplay, ← Source.outcome_eq_failed_iff, ← Source.outcome_eq_delivered_iff]
  rcases hc : (sources.count k).outcome start limit with n | _ | _
  · have hne := toString_ne_notAvailable n
    simpa [SourceOutcome.value?, countText] using hne
  · simp [SourceOutcome.value?, countText]
  · exact absurd hc Source.outcome_ne_unasked

/-- The owner is not available if one of the two look-ups failed, missing if one of them found
nothing, and shown otherwise. -/
theorem ownerName_iff (h : (runSources sources start limit).view = .ok v) :
    ((∀ e, (sources.latest .repository).Delivers start limit (some e) →
        ¬sources.OwnerDelivers start limit e (.text notAvailable)) →
      (v.latestRepoUsername = some notAvailable ↔
        (sources.latest .repository).Fails start limit ∨
          ∃ e, (sources.latest .repository).Delivers start limit (some e) ∧
            sources.OwnerFails start limit e)) ∧
    (v.latestRepoUsername = none ↔
      (sources.latest .repository).Delivers start limit none ∨
        ∃ e, (sources.latest .repository).Delivers start limit (some e) ∧
          sources.OwnerDelivers start limit e .null) ∧
    ∀ e, (sources.latest .repository).Delivers start limit (some e) →
      ∀ name, sources.OwnerDelivers start limit e (.text name) →
        v.latestRepoUsername = some name := by
  rw [view_eq_outcomeAnswers_view] at h
  have howner : ownerText (ownerAnswer ((sources.latest .repository).outcome start limit)
      (sources.outcome start limit .owner)) = .ok v.latestRepoUsername := ownerText_eq h
  simp only [Sources.OwnerFails, Sources.OwnerDelivers, ← Source.outcome_eq_failed_iff,
    ← Source.outcome_eq_delivered_iff]
  rcases hl : (sources.latest .repository).outcome start limit with (_ | e) | _ | _
  · simp only [Sources.outcome, hl] at howner
    simp [← Except.ok.inj howner]
  · rcases ho : (sources.owner e.id).outcome (sources.ownerStart start)
      (sources.ownerLimit start limit) with x | _ | _
    · simp only [Sources.outcome, hl, ho] at howner
      cases x with
      | null => simp [← Except.ok.inj howner, ho]
      | text name => simp [← Except.ok.inj howner, ho]
      | flag _ => cases howner
      | num _ => cases howner
      | list _ => cases howner
      | dict _ => cases howner
    · simp only [Sources.outcome, hl, ho] at howner
      simp [← Except.ok.inj howner, ho]
    · exact absurd ho Source.outcome_ne_unasked
  · simp only [Sources.outcome, hl] at howner
    simp [← Except.ok.inj howner]
  · exact absurd hl Source.outcome_ne_unasked

/-- The placeholders of a view tell a failed source from an empty one, for the count and the latest
entity of each kind and for the owner of the latest repository.  An owner could only be taken for a
failed one if its name were that placeholder. -/
theorem view_tells_failed_from_empty (h : (runSources sources start limit).view = .ok v) :
    (∀ k,
      ((v.entitySection k).latestState = .unavailable ↔ (sources.latest k).Fails start limit) ∧
      ((v.entitySection k).latestState = .empty ↔
        (sources.latest k).Delivers start limit none) ∧
      ((v.entitySection k).latestState = .ok ↔
        ∃ e, (sources.latest k).Delivers start limit (some e)) ∧
      ((v.entitySection k).count = none ↔ (sources.count k).Fails start limit) ∧
      ((v.entitySection k).countDisplay = notAvailable ↔
        (sources.count k).Fails start limit) ∧
      ∀ n, (sources.count k).Delivers start limit n →
        (v.entitySection k).count = some n ∧ (v.entitySection k).countDisplay = toString n) ∧
    ((∀ e, (sources.latest .repository).Delivers start limit (some e) →
        ¬sources.OwnerDelivers start limit e (.text notAvailable)) →
      (v.latestRepoUsername = some notAvailable ↔
        (sources.latest .repository).Fails start limit ∨
          ∃ e, (sources.latest .repository).Delivers start limit (some e) ∧
            sources.OwnerFails start limit e)) ∧
    (v.latestRepoUsername = none ↔
      (sources.latest .repository).Delivers start limit none ∨
        ∃ e, (sources.latest .repository).Delivers start limit (some e) ∧
          sources.OwnerDelivers start limit e .null) ∧
    ∀ e, (sources.latest .repository).Delivers start limit (some e) →
      ∀ name, sources.OwnerDelivers start limit e (.text name) →
        v.latestRepoUsername = some name := by
  refine ⟨fun k => ?_, ownerName_iff h⟩
  obtain ⟨hunavailable, hempty, hok⟩ := latestState_iff h k
  exact ⟨hunavailable, hempty, hok, count_iff h k⟩

end Run

/-- Sources of which the latest repository and its owner each answer within five seconds, but not
both together, and which give no counts. -/
def lateOwnerSources : Sources Int where
  count := fun kind => ⟨0, .answers (.error ⟨(SourceName.count kind).text, .stated "closed"⟩)⟩
  latest := fun kind =>
    ⟨3, .answers (.ok (if kind = .user then none else some ⟨kind, 11, .text "arena"⟩))⟩
  owner := fun _ => ⟨3, .answers (.ok (.text "alice"))⟩
  telemetry := ⟨9, .fails (.raised .runtime none)⟩
  versions := ⟨1, .answers (.ok [])⟩

theorem late_owner_not_shown_as_missing :
    ∃ v, (runSources lateOwnerSources 0 5).view = .ok v ∧
      v.latestRepoUsername = some notAvailable ∧
      v.repos.latestState = .ok ∧ v.users.latestState = .empty ∧
      v.repos.countDisplay = notAvailable := by
  have h : (runSources lateOwnerSources 0 5).view = .ok _ := rfl
  have hall := view_tells_failed_from_empty h
  have hlatest : (lateOwnerSources.latest .repository).Delivers 0 5
      (some ⟨.repository, 11, .text "arena"⟩) := ⟨by decide, rfl⟩
  have hlate : lateOwnerSources.OwnerFails 0 5 ⟨.repository, 11, .text "arena"⟩ :=
    .late (by decide)
  have hname : ∀ e, (lateOwnerSources.latest .repository).Delivers 0 5 (some e) →
      ¬lateOwnerSources.OwnerDelivers 0 5 e (.text notAvailable) := by
    intro e _ howner
    have htext : "alice" = notAvailable := by simpa [lateOwnerSources] using howner.2
    exact absurd htext (by decide)
  refine ⟨_, h, (hall.2.1 hname).mpr (Or.inr ⟨_, hlatest, hlate⟩), ?_, ?_, ?_⟩
  · exact (hall.1 .repository).2.2.1.mpr ⟨_, hlatest⟩
  · exact (hall.1 .user).2.1.mpr ⟨by decide, rfl⟩
  · exact (hall.1 .repository).2.2.2.2.1.mpr (.stated _ rfl)

end ForgeDashboard
