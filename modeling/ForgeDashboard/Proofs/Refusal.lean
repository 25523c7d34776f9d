import Mathlib.Data.Option.Basic
import Mathlib.Tactic.SplitIfs
import ForgeDashboard.Proofs.DurationForm
import ForgeDashboard.Proofs.Sections

/-!
# Values that cannot be shown

The view shows counts with a plural form, numbers of bytes as sizes, and the uptime as a duration.
Each of these texts has a domain: a value outside it is refused with a failure of its own, and every
other value has a text.

## Main definitions

* `FailsWith` : a result is a given failure, or else some value.
* `countRefusal`, `sizeRefusal`, `durationRefusal` : the values that are refused, and how.

## Main results

* `label_failsWith`, `metricSize_failsWith`, `metricUptime_failsWith` : the domains of the texts.
* `sizeText_failsWith` : the domain of a size in units of any base.
-/

namespace ForgeDashboard

variable {ε α β : Type}

/-! ### Results with a known failure -/

/-- The result is the given failure, or some value if no failure is given. -/
def FailsWith (refusal : Option Fault) (r : Except Fault α) : Prop :=
  match refusal with
  | some f => r = .error f
  | none => ∃ a, r = .ok a

theorem failsWith_none {r : Except Fault α} : FailsWith none r ↔ ∃ a, r = .ok a := Iff.rfl

theorem failsWith_ok (a : α) : FailsWith none (.ok a) := ⟨a, rfl⟩

theorem FailsWith.eq_error_iff {refusal : Option Fault} {r : Except Fault α}
    (h : FailsWith refusal r) (f : Fault) : r = .error f ↔ refusal = some f := by
  cases refusal with
  | none =>
    obtain ⟨a, rfl⟩ := h
    simp
  | some g =>
    have hr : r = .error g := h
    simp [hr]

theorem FailsWith.exists_ok_iff {refusal : Option Fault} {r : Except Fault α}
    (h : FailsWith refusal r) : (∃ a, r = .ok a) ↔ refusal = none := by
  cases refusal with
  | none => exact iff_of_true h rfl
  | some g =>
    have hr : r = .error g := h
    simp [hr]

/-- Of two steps in a row the first failure counts. -/
theorem FailsWith.bind {first second : Option Fault} {x : Except Fault α}
    {next : α → Except Fault β} (hx : FailsWith first x)
    (hnext : ∀ a, x = .ok a → FailsWith second (next a)) :
    FailsWith (first <|> second) (x >>= next) := by
  cases first with
  | none =>
    obtain ⟨a, rfl⟩ := hx
    exact hnext a rfl
  | some f =>
    have hx : x = .error f := hx
    subst hx
    rfl

/-- What is done with a value afterwards does not matter, if it cannot fail. -/
theorem FailsWith.map {refusal : Option Fault} {x : Except Fault α} {next : α → Except Fault β}
    (hx : FailsWith refusal x) (hnext : ∀ a, ∃ b, next a = .ok b) :
    FailsWith refusal (x >>= next) := by
  have h := hx.bind fun a _ => failsWith_none.mpr (hnext a)
  cases refusal <;> exact h

/-! ### Counts -/

/-- A count below zero has no plural form. -/
def countRefusal (n : Int) : Option Fault := if n < 0 then some (.negativeCount n) else none

theorem label_failsWith (kind : EntityKind) (count : Option Int) :
    FailsWith (count.bind countRefusal) (kind.label count) := by
  refine FailsWith.map ?_ fun suffix => ⟨_, rfl⟩
  cases count with
  | none => exact failsWith_ok _
  | some n =>
    simp only [Option.bind_some, Option.getD_some, countRefusal, pluralSuffix]
    split_ifs
    · rfl
    · exact failsWith_ok _
    · exact failsWith_ok _

/-! ### Sizes -/

/-- A number of bytes below zero has no size, and neither has an integer that has no double. -/
def sizeRefusal (n : Num) : Option Fault :=
  if n.isNegative then some (.negativeSize n)
  else match n with
    | .int k => if overflowBound ≤ k then some (.arithmetic .tooLargeForDouble) else none
    | .float _ => none

theorem isNegative_int (k : Int) : (Num.int k).isNegative = decide (k < 0) := by
  simp [Num.isNegative, Num.lt, Num.line?, Line.lt]

theorem lt_int_int (a b : Int) : (Num.int a).lt (.int b) = decide (a < b) := by
  simp [Num.lt, Num.line?, Line.lt]

/-- The zero of either kind compares alike. -/
theorem zero_lt_eq (n : Num) : (Num.float Binary64.zero).lt n = (Num.int 0).lt n := by
  have hfloat : (Num.float Binary64.zero).line? = some (.point 0) := by
    simp [Num.line?, Binary64.line?, Binary64.zero, Binary64.signed, Binary64.magnitude]
  have hint : (Num.int 0).line? = some (.point 0) := rfl
  rw [Num.lt, Num.lt, hfloat, hint]

/-- What is above zero is not below it. -/
theorem not_isNegative_of_zero_lt {n : Num} (h : (Num.int 0).lt n = true) :
    ¬n.isNegative = true := by
  have hzero : (Num.int 0).line? = some (.point 0) := rfl
  simp only [Num.isNegative, Num.lt, hzero] at h ⊢
  generalize n.line? = place at h ⊢
  rcases place with _ | _ | q | _
  · simp
  · simp [Line.lt] at h
  · have hpos : 0 < q := by simpa [Line.lt] using h
    simpa [Line.lt] using hpos.le
  · simp [Line.lt]

/-- An integer is shown as a size from zero up to the overflow bound. -/
theorem sizeRefusal_int (k : Int) :
    sizeRefusal (.int k) =
      if k < 0 then some (.negativeSize (.int k))
      else if overflowBound ≤ k then some (.arithmetic .tooLargeForDouble) else none := by
  simp only [sizeRefusal, isNegative_int, decide_eq_true_eq]

/-- A base that a double can be divided by. -/
def IsDivisor (base : Num) : Prop := ∃ d, base.toBinary64 = .ok d ∧ d.isZero = false

/-- Every positive integer that has a double is a divisor. -/
theorem isDivisor_int {b : Int} (hb : 1 ≤ b) (h : b < overflowBound) : IsDivisor (.int b) := by
  obtain ⟨m, e, hc, hd, hmagnitude⟩ := Num.toBinary64_int_of_lt (by omega) h
  refine ⟨_, hd, ?_⟩
  have hpos : 0 < Binary64.magnitude m e := by
    rw [hmagnitude]
    exact Binary64.rounded_pos (by exact_mod_cast hb)
  have hm : m ≠ 0 := by
    rintro rfl
    simp [Binary64.magnitude] at hpos
  simpa [Binary64.isZero] using hm

section Scaling

variable {base : Num} (hbase : IsDivisor base)

include hbase

theorem exists_divBy (x : Binary64) : ∃ y, x.divBy base = .ok y := by
  obtain ⟨d, hd, hzero⟩ := hbase
  refine ⟨x.div d, ?_⟩
  simp [Binary64.divBy, hd, hzero, bind, Except.bind, pure, Except.pure]

/-- The repeated division gives a result, however many units are left. -/
theorem exists_scaleDown (larger : Nat) (x : Binary64) : ∃ r, scaleDown base larger x = .ok r := by
  induction larger generalizing x with
  | zero => exact ⟨_, rfl⟩
  | succ larger ih =>
    unfold scaleDown
    split_ifs
    · obtain ⟨y, hy⟩ := exists_divBy hbase x
      obtain ⟨r, hr⟩ := ih y
      exact ⟨r, by rw [hy]; exact hr⟩
    · exact ⟨_, rfl⟩

theorem exists_promote (x : Binary64) (larger : Nat) : ∃ r, promote base x larger = .ok r := by
  unfold promote
  dsimp only
  cases larger with
  | zero => exact ⟨_, rfl⟩
  | succ left =>
    split_ifs
    · obtain ⟨y, hy⟩ := exists_divBy hbase (x.roundPlaces 1)
      exact ⟨_, by rw [hy]; rfl⟩
    · exact ⟨_, rfl⟩

/-- Once a size is a double, nothing fails any more. -/
theorem exists_scaledText {n : Num} {x : Binary64} (hx : n.toBinary64 = .ok x) (larger : Nat) :
    ∃ text, (do
      let value ← n.toBinary64
      let scaled ← scaleDown base larger value
      let shown ← promote base scaled.1 scaled.2
      return scaledText shown.1 shown.2) = .ok text := by
  obtain ⟨scaled, hscaled⟩ := exists_scaleDown hbase larger x
  obtain ⟨shown, hshown⟩ := exists_promote hbase scaled.1 scaled.2
  refine ⟨scaledText shown.1 shown.2, ?_⟩
  simp only [bind_eq_ok_iff]
  exact ⟨x, hx, scaled, hscaled, shown, hshown, rfl⟩

end Scaling

/-- A number that lies below an integer and not below zero has a whole part. -/
theorem exists_truncate {n : Num} {b : Int} (hneg : ¬n.isNegative = true)
    (hlt : n.lt (.int b) = true) : ∃ k, n.truncate = .ok k := by
  rcases n with k | _ | (_ | _) | _
  · exact ⟨k, rfl⟩
  · simp [Num.lt, Num.line?, Binary64.line?] at hlt
  · simp [Num.lt, Num.line?, Binary64.line?, Line.lt] at hlt
  · simp [Num.isNegative, Num.lt, Num.line?, Binary64.line?, Line.lt] at hneg
  · exact ⟨_, rfl⟩

/-- Sizes are refused below zero, and where an integer has no double. -/
theorem sizeText_failsWith {b : Int} (hb : 1 ≤ b) (hbound : b < overflowBound) (n : Num) :
    FailsWith (sizeRefusal n) (sizeText n (.int b)) := by
  have hbase := isDivisor_int hb hbound
  unfold sizeRefusal sizeText
  by_cases hneg : n.isNegative = true
  · rw [if_pos hneg, if_pos hneg]
    rfl
  rw [if_neg hneg, if_neg hneg]
  by_cases hlt : n.lt (.int b) = true
  · obtain ⟨k, hk⟩ := exists_truncate hneg hlt
    rw [if_pos hlt, hk]
    cases n with
    | float x => exact failsWith_ok _
    | int m =>
      have hm : m < b := by simpa [lt_int_int] using hlt
      simp only [if_neg (not_le.mpr (hm.trans hbound))]
      exact failsWith_ok _
  rw [if_neg hlt]
  cases n with
  | float x =>
    obtain ⟨text, htext⟩ := exists_scaledText hbase (n := .float x) rfl (byteUnits.length - 1)
    rw [htext]
    exact failsWith_ok _
  | int m =>
    by_cases hm : overflowBound ≤ m
    · simp only [if_pos hm, Num.toBinary64_int_of_le hm]
      rfl
    · have hnonneg : 0 ≤ m := by simpa [isNegative_int] using hneg
      obtain ⟨_, _, _, hx, _⟩ := Num.toBinary64_int_of_lt hnonneg (not_le.mp hm)
      obtain ⟨text, htext⟩ := exists_scaledText hbase hx (byteUnits.length - 1)
      simp only [if_neg hm]
      rw [htext]
      exact failsWith_ok _

/-! ### Durations -/

/-- A number of seconds below zero has no duration, and neither has one without a whole part, or one
whose days have too many digits.  The uptime is also given as a double, so that a large integer is
refused too. -/
def durationRefusal (n : Num) : Option Fault :=
  if n.isNegative then some (negativeDurationFault n)
  else match n with
    | .int k =>
      if (Num.int (Duration.ofSeconds k.toNat).days).isTooLong then some tooLongNumeral
      else if overflowBound ≤ k then some (.arithmetic .tooLargeForDouble) else none
    | .float .nan => some (.arithmetic .integerOfNan)
    | .float (.inf _) => some (.arithmetic .integerOfInfinity)
    | .float (.finite _ _ _ _) => none

/-- The value of a field, if it is refused. -/
def Metric.refusal (check : Num → Option Fault) (m : Metric Num) : Option Fault :=
  (answer? m).bind check

theorem metricSize_failsWith (m : Metric Num) :
    FailsWith (m.refusal sizeRefusal) (metricSize m) := by
  rcases m with u | n
  · exact failsWith_ok _
  · have hbase : 1024 < overflowBound := two_pow_lt_overflowBound (k := 10) (by decide)
    exact sizeText_failsWith (by decide) hbase n

/-- An integer that has a double is not too long. -/
theorem durationRefusal_int_eq_none_iff {k : Int} (hneg : ¬(Num.int k).isNegative = true) :
    durationRefusal (.int k) = none ↔ k < overflowBound := by
  have hlong : (Num.int (Duration.ofSeconds k.toNat).days).isTooLong = true →
      overflowBound ≤ k := by
    intro h
    have hbound := (Duration.isTooLong_days_iff _).mp h
    have hnonneg : 0 ≤ k := by simpa [isNegative_int] using hneg
    rw [Int.le_toNat hnonneg] at hbound
    exact overflowBound_le_durationBound.trans hbound
  unfold durationRefusal
  rw [if_neg hneg]
  dsimp only
  split_ifs with hdays hk
  · exact iff_of_false id (not_lt.mpr (hlong hdays))
  · exact iff_of_false id (not_lt.mpr hk)
  · exact iff_of_true rfl (not_le.mp hk)

/-- A finite double that is not negative has a text. -/
theorem exists_durationText_finite {s : Bool} {m : Nat} {e : Int} {hc : IsCanonical m e}
    (hneg : ¬(Num.float (.finite s m e hc)).isNegative = true) :
    ∃ text, durationText (.float (.finite s m e hc)) = .ok text := by
  have hlong : ¬(Num.float (.finite s m e hc)).HasLongDays := by
    rintro ⟨k, hk, -⟩
    cases hk
  have hpoint : (Num.float (.finite s m e hc)).line? =
    some (.point (Binary64.signed s (Binary64.magnitude m e))) := rfl
  exact ⟨_, durationText_of_point hpoint
    (not_lt.mp (mt (isNegative_of_point hpoint).mpr hneg)) hlong⟩

theorem metricUptime_failsWith (m : Metric Num) :
    FailsWith (m.refusal durationRefusal) (metricUptime m) := by
  rcases m with u | n
  · exact failsWith_ok _
  simp only [Metric.refusal, answer?, Option.bind_some, durationRefusal, metricUptime]
  by_cases hneg : n.isNegative = true
  · simp only [durationText, if_pos hneg]
    rfl
  simp only [if_neg hneg]
  rcases n with k | _ | _ | _
  · by_cases hdays : (Num.int (Duration.ofSeconds k.toNat).days).isTooLong = true
    · simp only [durationText, if_neg hneg, Num.truncate, if_pos hdays]
      rfl
    simp only [durationText, if_neg hneg, Num.truncate, if_neg hdays]
    by_cases hk : overflowBound ≤ k
    · simp only [if_pos hk, Num.toBinary64_int_of_le hk]
      rfl
    · have hnonneg : 0 ≤ k := by simpa [isNegative_int] using hneg
      obtain ⟨_, _, _, hx, _⟩ := Num.toBinary64_int_of_lt hnonneg (not_le.mp hk)
      simp only [if_neg hk, hx]
      exact failsWith_ok _
  · simp only [durationText, if_neg hneg]
    rfl
  · simp only [durationText, if_neg hneg]
    rfl
  · obtain ⟨text, htext⟩ := exists_durationText_finite hneg
    simp only [htext]
    exact failsWith_ok _

/-! ### Kinds of refusals -/

/-- A value is refused because it is none, or because it is too large. -/
def IsRefusal (f : Fault) : Prop := f.kind = .value ∨ f.kind = .overflow

theorem isRefusal_of_countRefusal {n : Int} {f : Fault} (h : countRefusal n = some f) :
    IsRefusal f := by
  unfold countRefusal at h
  split_ifs at h
  cases h
  exact .inl rfl

theorem isRefusal_of_sizeRefusal {n : Num} {f : Fault} (h : sizeRefusal n = some f) :
    IsRefusal f := by
  unfold sizeRefusal at h
  split_ifs at h
  · cases h
    exact .inl rfl
  cases n with
  | float x => cases h
  | int k =>
    dsimp only at h
    split_ifs at h
    cases h
    exact .inr rfl

theorem isRefusal_of_durationRefusal {n : Num} {f : Fault} (h : durationRefusal n = some f) :
    IsRefusal f := by
  unfold durationRefusal at h
  split_ifs at h
  · cases h
    exact .inl (kind_negativeDurationFault n)
  rcases n with k | _ | _ | _
  · dsimp only at h
    split_ifs at h
    · cases h
      exact .inl rfl
    · cases h
      exact .inr rfl
  · cases h
    exact .inl rfl
  · cases h
    exact .inr rfl
  · cases h

end ForgeDashboard
