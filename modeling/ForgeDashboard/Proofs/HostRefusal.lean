import ForgeDashboard.Host.Report
import ForgeDashboard.Proofs.FirstRefusal

/-!
# Hosts that can be shown

A snapshot holds the numbers of a host as they were reported: numbers of bytes are integers of any
size and sign, except that available memory is lowered to the total, and an uptime is only raised to
zero.  Not all of them can be shown.

## Main definitions

* `HostReport.elapsed` : the uptime before it is raised to zero.
* `HostReport.Displayable` : the reports of which every number can be shown.

## Main results

* `HostReport.refusal_eq_none_iff` : exactly the snapshots of these reports are not refused.
-/

namespace ForgeDashboard

namespace HostReport

/-! ### Memory -/

/-- A number of bytes is an integer. -/
theorem exists_int_of_byteMetric {field : String} {reading : Reading} {n : Num}
    (h : byteMetric field reading = .ok n) : ∃ k, n = .int k := by
  rcases reading with f | v
  · cases h
  · rcases hv : v.toInteger with f | k
    · simp [byteMetric, metric, hv, bind, Except.bind, Except.mapError] at h
    · simp [byteMetric, metric, hv, bind, Except.bind, Except.mapError, pure, Except.pure] at h
      exact ⟨k, h.symm⟩

theorem exists_int_of_memoryTotal {r : HostReport} {n : Num} (h : r.memoryTotal = .ok n) :
    ∃ k, n = .int k := by
  unfold memoryTotal at h
  split at h
  · cases h
  · exact exists_int_of_byteMetric h

theorem exists_int_of_memoryFree {r : HostReport} {n : Num} (h : r.memoryFree = .ok n) :
    ∃ k, n = .int k := by
  unfold memoryFree at h
  split at h
  · cases h
  · exact exists_int_of_byteMetric h

/-- A field of integers is refused if its value is not within the bounds of sizes. -/
theorem sizeRefusal_eq_none_iff {m : Metric Num} (h : ∀ n, m = .ok n → ∃ k, n = .int k) :
    m.refusal sizeRefusal = none ↔ ∀ k, m = .ok (.int k) → 0 ≤ k ∧ k < overflowBound := by
  rcases m with u | n
  · simp [Metric.refusal, answer?]
  · obtain ⟨k, rfl⟩ := h n rfl
    have hrefusal : Metric.refusal sizeRefusal (.ok (.int k)) = sizeRefusal (.int k) := rfl
    rw [hrefusal, sizeRefusal_int]
    constructor
    · intro hnone j hj
      cases hj
      split_ifs at hnone with hneg hlarge
      exact ⟨not_lt.mp hneg, not_le.mp hlarge⟩
    · intro hbounds
      obtain ⟨hneg, hlarge⟩ := hbounds k rfl
      rw [if_neg hneg.not_gt, if_neg hlarge.not_ge]

theorem exists_int_of_memoryAvailable {r : HostReport} {n : Num}
    (h : r.memoryAvailable = .ok n) : ∃ k, n = .int k := by
  unfold memoryAvailable at h
  split at h
  · rename_i total free ht hf
    cases h
    split_ifs
    · exact exists_int_of_memoryTotal ht
    · exact exists_int_of_memoryFree hf
  · exact exists_int_of_memoryFree h

/-- Total and available memory are shown if both readings are within their bounds. -/
theorem memory_refusal_eq_none_iff (r : HostReport) :
    r.memoryAvailable.refusal sizeRefusal = none ∧ r.memoryTotal.refusal sizeRefusal = none ↔
      (∀ k, r.memoryTotal = .ok (.int k) → 0 ≤ k ∧ k < overflowBound) ∧
        ∀ k, r.memoryFree = .ok (.int k) →
          0 ≤ k ∧ (k < overflowBound ∨ ∃ t, r.memoryTotal = .ok t) := by
  rw [sizeRefusal_eq_none_iff fun _ => exists_int_of_memoryAvailable,
    sizeRefusal_eq_none_iff fun _ => exists_int_of_memoryTotal]
  rcases ht : r.memoryTotal with u | t
  · have havailable : r.memoryAvailable = r.memoryFree := by
      simp only [memoryAvailable, ht]
    simp [havailable]
  obtain ⟨t, rfl⟩ := exists_int_of_memoryTotal ht
  rcases hf : r.memoryFree with u | f
  · have havailable : r.memoryAvailable = .error u := by
      simp only [memoryAvailable, ht, hf]
    simp [havailable]
  obtain ⟨f, rfl⟩ := exists_int_of_memoryFree hf
  have havailable : r.memoryAvailable = .ok (.int (min t f)) := by
    simp only [memoryAvailable, ht, hf, lt_int_int, decide_eq_true_eq]
    split_ifs with hlt
    · rw [min_eq_left hlt.le]
    · rw [min_eq_right (not_lt.mp hlt)]
  simp only [havailable, Except.ok.injEq, Num.int.injEq, forall_eq', exists_eq', or_true, and_true]
  omega

/-! ### Uptime -/

/-- A number of seconds, raised to zero where it is not above. -/
def notBelowZero (n : Num) : Num :=
  if (Num.float Binary64.zero).lt n then n else .float Binary64.zero

/-- The seconds since the start of the process, as the host reports them. -/
def elapsed (r : HostReport) : Except Fault Num := do
  r.findProcess
  let now ← r.now
  let start ← r.createTime
  now.subtract start

theorem uptime_eq (r : HostReport) : r.uptime = notBelowZero <$> r.elapsed := by
  simp only [uptime, elapsed, map_bind]
  rfl

/-- Zero seconds have a duration. -/
theorem durationRefusal_zero : durationRefusal (.float Binary64.zero) = none := by
  have hneg : ¬(Num.float Binary64.zero).isNegative = true := by decide +kernel
  unfold durationRefusal
  rw [if_neg hneg]
  rfl

theorem durationRefusal_notBelowZero_eq_none_iff (n : Num) :
    durationRefusal (notBelowZero n) = none ↔
      n ≠ .float (.inf false) ∧ ∀ k, n = .int k → k < overflowBound := by
  rw [notBelowZero, zero_lt_eq]
  split_ifs with hpos
  · -- A positive number is shown as it is.
    have hneg := not_isNegative_of_zero_lt hpos
    rcases n with k | x
    · rw [durationRefusal_int_eq_none_iff hneg]
      simp
    unfold durationRefusal
    rw [if_neg hneg]
    rcases x with _ | (_ | _) | _
    · simp [Num.lt, Num.line?, Binary64.line?] at hpos
    · simp
    · simp [Num.lt, Num.line?, Binary64.line?, Line.lt] at hpos
    · simp
  · -- Any other number counts as zero, and is none of the two.
    rw [durationRefusal_zero]
    refine iff_of_true rfl ⟨?_, ?_⟩
    · rintro rfl
      simp [Num.lt, Num.line?, Binary64.line?, Line.lt] at hpos
    · rintro k rfl
      have hk : k ≤ 0 := by simpa [lt_int_int] using hpos
      exact hk.trans_lt overflowBound_pos

/-- The uptime is shown if it is not infinite, and not an integer that has no double. -/
theorem uptime_refusal_eq_none_iff (r : HostReport) :
    r.snapshot.uptimeSeconds.refusal durationRefusal = none ↔
      ∀ n, r.elapsed = .ok n → n ≠ .float (.inf false) ∧ ∀ k, n = .int k → k < overflowBound := by
  have hsnapshot : r.snapshot.uptimeSeconds = metric Snapshot.uptimeField r.uptime := rfl
  rw [hsnapshot, uptime_eq]
  rcases r.elapsed with f | n
  · simp [metric, Metric.refusal, answer?, Except.mapError]
  · have hrefusal : (metric Snapshot.uptimeField (notBelowZero <$> .ok n)).refusal durationRefusal =
        durationRefusal (notBelowZero n) := rfl
    rw [hrefusal, durationRefusal_notBelowZero_eq_none_iff]
    simp

/-! ### Snapshots -/

/-- The reports of which every number can be shown: sizes from zero up to where doubles overflow,
and an uptime that is not infinite.  Available memory is lowered to the total, so it may be larger
if the total is known. -/
structure Displayable (r : HostReport) : Prop where
  total : ∀ k, r.memoryTotal = .ok (.int k) → 0 ≤ k ∧ k < overflowBound
  free : ∀ k, r.memoryFree = .ok (.int k) →
    0 ≤ k ∧ (k < overflowBound ∨ ∃ t, r.memoryTotal = .ok t)
  elapsed : ∀ n, r.elapsed = .ok n →
    n ≠ .float (.inf false) ∧ ∀ k, n = .int k → k < overflowBound

theorem refusal_eq_none_iff (r : HostReport) : r.snapshot.refusal = none ↔ r.Displayable := by
  have hmemory := r.memory_refusal_eq_none_iff
  have huptime := r.uptime_refusal_eq_none_iff
  simp only [Snapshot.refusal, Option.orElse_eq_none]
  constructor
  · rintro ⟨havailable, htotal, hup⟩
    obtain ⟨ht, hf⟩ := hmemory.mp ⟨havailable, htotal⟩
    exact ⟨ht, hf, huptime.mp hup⟩
  · rintro ⟨ht, hf, he⟩
    obtain ⟨havailable, htotal⟩ := hmemory.mpr ⟨ht, hf⟩
    exact ⟨havailable, htotal, huptime.mpr he⟩

end HostReport

end ForgeDashboard
