import ForgeDashboard.Proofs.DurationReading
import ForgeDashboard.Proofs.ExactDoubles

/-!
# The one text of a duration

The text of a duration is a list of components: numerals with the units of days, hours, minutes and
seconds, from some unit on down to the seconds, none of which is full and the first of which is not
zero.  There is just one such list for every number of seconds, so that the text is determined by
the whole seconds and determines them.  Durations of as many days as no numeral is written for have
no text; no double is that large.

## Main definitions

* `IsBreakdown` : components that make up a number of seconds.
* `IsDurationText` : a text of such components.
* `Num.IsBelowZero`, `Num.HasLongDays` : the numbers that are refused as negative or too long.

## Main results

* `isBreakdown_iff` : the components that are shown are the only ones.
* `durationText_of_point`, `durationText_of_long` : every number that is not negative has the text
  of its whole seconds, or is too long.
* `durationText_eq_error_iff` : why a number has no text.
* `duration_text_canonical` : which texts there are, and which numbers have none.
-/

namespace ForgeDashboard

/-! ### Components -/

/-- From how many on a unit is carried into the next one; the days are never carried. -/
def fullUnit? : String → Option Nat
  | "h" => some 24
  | "m" => some 60
  | "s" => some 60
  | _ => none

/-- Components that make up a number of seconds. -/
structure IsBreakdown (total : Nat) (parts : List (Nat × String)) : Prop where
  /-- There are seconds at the end. -/
  ne_nil : parts ≠ []
  /-- From the first component on, none is left out. -/
  units : parts.map Prod.snd <:+ durationUnits
  sum_worth : (parts.map componentWorth).sum = total
  lt_full : ∀ part ∈ parts, ∀ full, fullUnit? part.2 = some full → part.1 < full
  /-- Only where there is nothing to show it is zero that is shown. -/
  head_ne_zero : ∀ part, parts.head? = some part → part.1 = 0 → parts = [(0, "s")]

/-- The text of components, with blanks between them. -/
def componentsText (parts : List (Nat × String)) : String :=
  " ".intercalate (parts.map fun part => toString part.1 ++ part.2)

/-- A text of components that make up a number of seconds. -/
def IsDurationText (total : Nat) (s : String) : Prop :=
  ∃ parts, IsBreakdown total parts ∧ s = componentsText parts

/-- Components whose units go down to the seconds. -/
theorem cases_of_units {parts : List (Nat × String)} (hne : parts ≠ [])
    (h : parts.map Prod.snd <:+ durationUnits) :
    (∃ seconds, parts = [(seconds, "s")]) ∨
    (∃ minutes seconds, parts = [(minutes, "m"), (seconds, "s")]) ∨
    (∃ hours minutes seconds, parts = [(hours, "h"), (minutes, "m"), (seconds, "s")]) ∨
    ∃ days hours minutes seconds,
      parts = [(days, "d"), (hours, "h"), (minutes, "m"), (seconds, "s")] := by
  simp only [durationUnits, List.suffix_cons_iff, List.suffix_nil, List.map_eq_cons_iff,
    List.map_eq_nil_iff] at h
  rcases h with ⟨⟨a, _⟩, _, rfl, rfl, ⟨b, _⟩, _, rfl, rfl, ⟨c, _⟩, _, rfl, rfl, ⟨d, _⟩, _, rfl, rfl,
      rfl⟩ | ⟨⟨b, _⟩, _, rfl, rfl, ⟨c, _⟩, _, rfl, rfl, ⟨d, _⟩, _, rfl, rfl, rfl⟩ |
      ⟨⟨c, _⟩, _, rfl, rfl, ⟨d, _⟩, _, rfl, rfl, rfl⟩ | ⟨⟨d, _⟩, _, rfl, rfl, rfl⟩ | hnil
  · exact .inr (.inr (.inr ⟨a, b, c, d, rfl⟩))
  · exact .inr (.inr (.inl ⟨b, c, d, rfl⟩))
  · exact .inr (.inl ⟨c, d, rfl⟩)
  · exact .inl ⟨d, rfl⟩
  · exact absurd hnil hne

namespace Duration

/-- Components that are not full are those of their seconds. -/
theorem ofSeconds_total {d : Duration} (hhours : d.hours < 24) (hminutes : d.minutes < 60)
    (hseconds : d.seconds < 60) : ofSeconds d.total = d := by
  rcases d with ⟨days, hours, minutes, seconds⟩
  simp only at hhours hminutes hseconds
  simp only [ofSeconds, total, mk.injEq]
  omega

theorem units_components (d : Duration) : d.components.map Prod.snd <:+ durationUnits := by
  obtain ⟨before, hbefore⟩ :=
    List.dropWhile_suffix (l := [(d.days, "d"), (d.hours, "h"), (d.minutes, "m")]) (·.1 == 0)
  refine ⟨before.map Prod.snd, ?_⟩
  rw [components, ← List.map_append, ← List.append_assoc, hbefore]
  rfl

theorem mem_of_mem_components {d : Duration} {part : Nat × String} (h : part ∈ d.components) :
    part = (d.days, "d") ∨ part = (d.hours, "h") ∨ part = (d.minutes, "m") ∨
      part = (d.seconds, "s") := by
  rcases List.mem_append.mp h with h | h
  · have hmem := (List.dropWhile_sublist _).subset h
    simp only [List.mem_cons, List.not_mem_nil, or_false] at hmem
    tauto
  · exact .inr (.inr (.inr (List.mem_singleton.mp h)))

/-- A first component that is zero is the only one. -/
theorem components_eq_of_head {d : Duration} {part : Nat × String}
    (h : d.components.head? = some part) (hzero : part.1 = 0) : d.components = [(0, "s")] := by
  unfold components at h ⊢
  rcases hshown : [(d.days, "d"), (d.hours, "h"), (d.minutes, "m")].dropWhile (·.1 == 0) with
    _ | ⟨first, rest⟩
  · rw [hshown] at h
    obtain rfl : (d.seconds, "s") = part := Option.some.inj h
    rw [hshown, List.nil_append, show d.seconds = 0 from hzero]
  · rw [hshown] at h
    obtain rfl : first = part := Option.some.inj h
    have hne := List.head_dropWhile_not (p := fun part : Nat × String => part.1 == 0)
      (l := [(d.days, "d"), (d.hours, "h"), (d.minutes, "m")]) (by rw [hshown]; simp)
    simp only [hshown, List.head_cons, hzero] at hne
    cases hne

theorem isBreakdown_components (n : Nat) : IsBreakdown n (ofSeconds n).components where
  ne_nil := by simp [components]
  units := units_components _
  sum_worth := by rw [sum_worth_components, total_ofSeconds]
  lt_full := by
    intro part hpart full hfull
    rcases mem_of_mem_components hpart with rfl | rfl | rfl | rfl
    · cases hfull
    all_goals
      obtain rfl := Option.some.inj hfull
      simp only [ofSeconds]
      omega
  head_ne_zero := fun _ => components_eq_of_head

end Duration

/-- The components that are shown are the only ones that make up their seconds. -/
theorem isBreakdown_iff {total : Nat} {parts : List (Nat × String)} :
    IsBreakdown total parts ↔ parts = (Duration.ofSeconds total).components := by
  refine ⟨fun hparts => ?_, fun h => h ▸ Duration.isBreakdown_components total⟩
  -- Whatever the first unit is, the larger ones are zero.
  suffices hshown : ∃ d : Duration,
      d.hours < 24 ∧ d.minutes < 60 ∧ d.seconds < 60 ∧ parts = d.components by
    obtain ⟨d, hhours, hminutes, hseconds, rfl⟩ := hshown
    rw [← hparts.sum_worth, d.sum_worth_components,
      Duration.ofSeconds_total hhours hminutes hseconds]
  have hfull := hparts.lt_full
  have hhead := hparts.head_ne_zero
  rcases cases_of_units hparts.ne_nil hparts.units with
    ⟨s, rfl⟩ | ⟨m, s, rfl⟩ | ⟨h, m, s, rfl⟩ | ⟨d, h, m, s, rfl⟩
  · refine ⟨⟨0, 0, 0, s⟩, ?_⟩
    simp_all [fullUnit?, Duration.components]
  · refine ⟨⟨0, 0, m, s⟩, ?_⟩
    simp_all [fullUnit?, Duration.components]
  · refine ⟨⟨0, h, m, s⟩, ?_⟩
    simp_all [fullUnit?, Duration.components]
  · refine ⟨⟨d, h, m, s⟩, ?_⟩
    simp_all [fullUnit?, Duration.components]

/-- A number of seconds has one text. -/
theorem isDurationText_iff {total : Nat} {s : String} :
    IsDurationText total s ↔ s = (Duration.ofSeconds total).text := by
  constructor
  · rintro ⟨parts, hparts, rfl⟩
    rw [isBreakdown_iff.mp hparts]
    rfl
  · rintro rfl
    exact ⟨_, Duration.isBreakdown_components total, rfl⟩

/-! ### Numbers of seconds -/

theorem floor_nonneg_of_nonneg {q : Rat} (hq : 0 ≤ q) : 0 ≤ q.floor :=
  Rat.le_floor_iff.mpr (by exact_mod_cast hq)

/-- A number has a value, or it is one of the three doubles that have none. -/
theorem Num.cases_of_line (n : Num) :
    (∃ q, n.line? = some (.point q)) ∨ n = .float .nan ∨ n = .float (.inf true) ∨
      n = .float (.inf false) := by
  rcases n with k | _ | (_ | _) | _
  · exact .inl ⟨_, rfl⟩
  · exact .inr (.inl rfl)
  · exact .inr (.inr (.inr rfl))
  · exact .inr (.inr (.inl rfl))
  · exact .inl ⟨_, rfl⟩

theorem isNegative_of_point {n : Num} {q : Rat} (h : n.line? = some (.point q)) :
    n.isNegative = true ↔ q < 0 := by
  have hzero : (Num.int 0).line? = some (.point 0) := rfl
  simp [Num.isNegative, Num.lt, h, hzero, Line.lt]

/-- The whole part of a value that is not negative is the integer below it. -/
theorem truncate_of_point {n : Num} {q : Rat} (h : n.line? = some (.point q)) (hq : 0 ≤ q) :
    n.truncate = .ok q.floor := by
  have hneg : ¬n.isNegative = true := mt (isNegative_of_point h).mp (not_lt.mpr hq)
  rcases n with k | x
  · obtain rfl : (k : Rat) = q := by simpa [Num.line?] using h
    rw [Num.truncate, Rat.floor_intCast]
  · rcases x with _ | (_ | _) | ⟨s, m, e, hc⟩
    · cases h
    · cases h
    · cases h
    · obtain ⟨p, hp, -, hfloor⟩ := exists_toRat_of_truncate hneg rfl
      have hvalue : p = q := by
        cases hp
        cases h
        rfl
      rw [Num.truncate, ← hvalue, hfloor]

/-- A whole number of seconds of which the days have too many digits. -/
def Num.HasLongDays (n : Num) : Prop := ∃ k : Int, n = .int k ∧ (durationBound : Int) ≤ k

/-- No other number reaches that bound, a double in particular. -/
theorem floor_lt_durationBound {n : Num} {q : Rat} (h : n.line? = some (.point q)) (hq : 0 ≤ q)
    (hlong : ¬n.HasLongDays) : q.floor.toNat < durationBound := by
  have hlt : q < ((durationBound : Int) : Rat) := by
    rcases n with k | x
    · obtain rfl : (k : Rat) = q := by simpa [Num.line?] using h
      by_contra hge
      exact hlong ⟨k, rfl, by exact_mod_cast not_lt.mp hge⟩
    · have hbound : (overflowBound : Rat) ≤ ((durationBound : Int) : Rat) := by
        exact_mod_cast overflowBound_le_durationBound
      refine lt_of_lt_of_le ?_ hbound
      rcases x with _ | (_ | _) | ⟨_ | _, m, e, hc⟩
      · cases h
      · cases h
      · cases h
      · cases h
        exact Binary64.IsValue.lt_overflowBound ⟨m, e, hc, rfl, rfl⟩
      · -- Only the negative zero is not below zero.
        cases h
        have hle : Binary64.signed true (Binary64.magnitude m e) ≤ 0 :=
          neg_nonpos.mpr (Binary64.magnitude_nonneg m e)
        exact hle.trans_lt (Int.cast_pos.mpr overflowBound_pos)
  have hfloor : q.floor < (durationBound : Int) :=
    Rat.intCast_lt_intCast.mp ((Rat.floor_le q).trans_lt hlt)
  exact (Int.toNat_lt (floor_nonneg_of_nonneg hq)).mpr hfloor

/-- A number that is not negative has the text of its whole seconds, if its days do not have too
many digits. -/
theorem durationText_of_point {n : Num} {q : Rat} (h : n.line? = some (.point q)) (hq : 0 ≤ q)
    (hlong : ¬n.HasLongDays) :
    durationText n = .ok (Duration.ofSeconds q.floor.toNat).text := by
  have hneg : ¬n.isNegative = true := mt (isNegative_of_point h).mp (not_lt.mpr hq)
  have hdays := mt (Duration.isTooLong_days_iff _).mp (floor_lt_durationBound h hq hlong).not_ge
  rw [durationText, if_neg hneg, truncate_of_point h hq]
  exact if_neg hdays

theorem durationText_of_long {n : Num} (h : n.HasLongDays) :
    durationText n = .error tooLongNumeral := by
  obtain ⟨k, rfl, hk⟩ := h
  have hnonneg : 0 ≤ k := (Int.natCast_nonneg _).trans hk
  have hdays := (Duration.isTooLong_days_iff k.toNat).mpr ((Int.le_toNat hnonneg).mpr hk)
  have hneg : ¬(Num.int k).isNegative = true := by
    have hline : (Num.int k).line? = some (.point k) := rfl
    rw [isNegative_of_point hline, not_lt]
    exact_mod_cast hnonneg
  rw [durationText, if_neg hneg]
  exact if_pos hdays

theorem durationText_of_neg {n : Num} {q : Rat} (h : n.line? = some (.point q)) (hq : q < 0) :
    durationText n = .error (negativeDurationFault n) := by
  rw [durationText, if_pos ((isNegative_of_point h).mpr hq)]

/-- Below zero there is no duration. -/
def Num.IsBelowZero (n : Num) : Prop :=
  (∃ q, n.line? = some (.point q) ∧ q < 0) ∨ n = .float (.inf true)

theorem kind_negativeDurationFault (n : Num) : (negativeDurationFault n).kind = .value := by
  unfold negativeDurationFault
  split_ifs <;> rfl

/-- Why a number has no text. -/
theorem durationText_eq_error_iff {n : Num} {f : Fault} :
    durationText n = .error f ↔
      (n.IsBelowZero ∧ f = negativeDurationFault n) ∨
      (n = .float .nan ∧ f = .arithmetic .integerOfNan) ∨
      (n = .float (.inf false) ∧ f = .arithmetic .integerOfInfinity) ∨
      (n.HasLongDays ∧ f = tooLongNumeral) := by
  have hdouble (x : Binary64) : ¬(Num.float x).HasLongDays := by
    rintro ⟨k, h, -⟩
    cases h
  rcases n.cases_of_line with ⟨q, hq⟩ | rfl | rfl | rfl
  · have hne : ∀ x : Binary64, x.line? ≠ some (.point q) → n ≠ .float x := by
      rintro x hx rfl
      exact hx hq
    have hnan := hne .nan (by simp [Binary64.line?])
    have hinf : ∀ s, n ≠ .float (.inf s) := fun s =>
      hne (.inf s) (by cases s <;> simp [Binary64.line?])
    rcases lt_or_ge q 0 with hlt | hge
    · have hlong : ¬n.HasLongDays := by
        intro h
        have hfault := (durationText_of_neg hq hlt).symm.trans (durationText_of_long h)
        obtain ⟨k, rfl, hk⟩ := h
        obtain rfl : (k : Rat) = q := by simpa [Num.line?] using hq
        have hneg : k < 0 := by exact_mod_cast hlt
        omega
      simp [durationText_of_neg hq hlt, Num.IsBelowZero, hq, hlt, hnan, hinf, hlong, eq_comm]
    · by_cases hlong : n.HasLongDays
      · simp [durationText_of_long hlong, Num.IsBelowZero, hq, hge, hnan, hinf, hlong, eq_comm]
      · simp [durationText_of_point hq hge hlong, Num.IsBelowZero, hq, hge, hnan, hinf, hlong]
  · have hnan : durationText (.float .nan) = .error (.arithmetic .integerOfNan) := rfl
    simp [hnan, Num.IsBelowZero, Num.line?, Binary64.line?, hdouble, eq_comm]
  · have hinf : durationText (.float (.inf true)) =
      .error (negativeDurationFault (.float (.inf true))) := rfl
    simp [hinf, Num.IsBelowZero, hdouble, eq_comm]
  · have hinf : durationText (.float (.inf false)) = .error (.arithmetic .integerOfInfinity) := rfl
    simp [hinf, Num.IsBelowZero, Num.line?, Binary64.line?, hdouble, eq_comm]

/-- Two numbers have the same text if and only if they have the same whole seconds. -/
theorem durationText_eq_iff {m n : Num} {p q : Rat} (hm : m.line? = some (.point p)) (hp : 0 ≤ p)
    (hmlong : ¬m.HasLongDays) (hn : n.line? = some (.point q)) (hq : 0 ≤ q)
    (hnlong : ¬n.HasLongDays) : durationText m = durationText n ↔ p.floor = q.floor := by
  rw [durationText_of_point hm hp hmlong, durationText_of_point hn hq hnlong]
  refine ⟨fun h => ?_, fun h => by rw [h]⟩
  -- The seconds are read off the text.
  have hread := congrArg secondsOf? (Except.ok.inj h)
  rw [Duration.secondsOf?_text, Duration.secondsOf?_text, Duration.total_ofSeconds,
    Duration.total_ofSeconds, Option.some.injEq] at hread
  have hp := floor_nonneg_of_nonneg hp
  have hq := floor_nonneg_of_nonneg hq
  omega

/-- The values that are refused are those below zero, not-a-number, and those with too many days. -/
theorem exists_value_error_iff {n : Num} :
    (∃ f, durationText n = .error f ∧ f.kind = .value) ↔
      n.IsBelowZero ∨ n = .float .nan ∨ n.HasLongDays := by
  constructor
  · rintro ⟨f, hf, hkind⟩
    rcases durationText_eq_error_iff.mp hf with ⟨hneg, -⟩ | ⟨hnan, -⟩ | ⟨-, rfl⟩ | ⟨hlong, -⟩
    · exact .inl hneg
    · exact .inr (.inl hnan)
    · cases hkind
    · exact .inr (.inr hlong)
  · rintro (hneg | hnan | hlong)
    · exact ⟨_, durationText_eq_error_iff.mpr (.inl ⟨hneg, rfl⟩), kind_negativeDurationFault n⟩
    · exact ⟨_, durationText_eq_error_iff.mpr (.inr (.inl ⟨hnan, rfl⟩)), rfl⟩
    · exact ⟨_, durationText_of_long hlong, rfl⟩

/-- Only the positive infinity is too large. -/
theorem exists_overflow_error_iff {n : Num} :
    (∃ f, durationText n = .error f ∧ f.kind = .overflow) ↔ n = .float (.inf false) := by
  constructor
  · rintro ⟨f, hf, hkind⟩
    rcases durationText_eq_error_iff.mp hf with ⟨-, rfl⟩ | ⟨-, rfl⟩ | ⟨hinf, -⟩ | ⟨-, rfl⟩
    · rw [kind_negativeDurationFault] at hkind
      cases hkind
    · cases hkind
    · exact hinf
    · cases hkind
  · intro hinf
    exact ⟨_, durationText_eq_error_iff.mpr (.inr (.inr (.inl ⟨hinf, rfl⟩))), rfl⟩

/-- Every number that is not negative has one text, which is read as its whole seconds, unless it is
an integer whose days have too many digits; two of them have the same text if and only if they have
the same whole seconds.  A value is refused below zero, where it is not a number, and where its days
have too many digits, and an infinity is too large. -/
theorem duration_text_canonical (n : Num) :
    (∀ q, n.line? = some (.point q) → 0 ≤ q → ¬n.HasLongDays → ∃ text, durationText n = .ok text ∧
      secondsOf? text = some q.floor.toNat ∧ ∀ s, IsDurationText q.floor.toNat s ↔ s = text) ∧
    (∀ m p q, m.line? = some (.point p) → 0 ≤ p → ¬m.HasLongDays →
      n.line? = some (.point q) → 0 ≤ q → ¬n.HasLongDays →
      (durationText m = durationText n ↔ p.floor = q.floor)) ∧
    ((∃ f, durationText n = .error f ∧ f.kind = .value) ↔
      n.IsBelowZero ∨ n = .float .nan ∨ n.HasLongDays) ∧
    ((∃ f, durationText n = .error f ∧ f.kind = .overflow) ↔ n = .float (.inf false)) ∧
    ∀ f, durationText n = .error f → f.kind = .value ∨ f.kind = .overflow := by
  refine ⟨fun q hn hq hlong => ?_,
    fun m p q hm hp hmlong hn hq hlong => durationText_eq_iff hm hp hmlong hn hq hlong,
    exists_value_error_iff, exists_overflow_error_iff, fun f hf => ?_⟩
  · refine ⟨_, durationText_of_point hn hq hlong, ?_, fun s => isDurationText_iff⟩
    rw [Duration.secondsOf?_text, Duration.total_ofSeconds]
  · rcases durationText_eq_error_iff.mp hf with ⟨-, rfl⟩ | ⟨-, rfl⟩ | ⟨-, rfl⟩ | ⟨-, rfl⟩
    · exact .inl (kind_negativeDurationFault n)
    · exact .inl rfl
    · exact .inr rfl
    · exact .inl rfl

/-- Less than the bound is not too long. -/
theorem not_hasLongDays {k : Int} (h : k < overflowBound) : ¬(Num.int k).HasLongDays := by
  rintro ⟨j, hj, hle⟩
  cases hj
  exact absurd (overflowBound_le_durationBound.trans hle) (not_le.mpr h)

/-- The hours, minutes and seconds of a whole day are shown although they are zero. -/
theorem inner_zeros_shown :
    (Num.int 86400).line? = some (.point 86400) ∧ ¬(Num.int 86400).HasLongDays ∧
      durationText (.int 86400) = .ok "1d 0h 0m 0s" ∧
      secondsOf? "1d 0h 0m 0s" = some 86400 ∧ ¬IsDurationText 86400 "1d 0s" ∧
      durationText (.int 86401) ≠ durationText (.int 86400) := by
  have hday : (Num.int 86400).line? = some (.point 86400) := rfl
  have hmore : (Num.int 86401).line? = some (.point 86401) := rfl
  have hsmall : (2 : Int) ^ 17 < overflowBound := two_pow_lt_overflowBound (by decide)
  have hlong : ¬(Num.int 86400).HasLongDays := not_hasLongDays (lt_trans (by decide) hsmall)
  have hmorelong : ¬(Num.int 86401).HasLongDays := not_hasLongDays (lt_trans (by decide) hsmall)
  have hfloor : (86400 : Rat).floor = 86400 := rfl
  obtain ⟨htext, hsame, -⟩ := duration_text_canonical (.int 86400)
  obtain ⟨text, hok, hread, honly⟩ := htext 86400 hday (by norm_num) hlong
  have hshown : (durationText (.int 86400)).toOption = some "1d 0h 0m 0s" := by decide +kernel
  rw [hok] at hshown
  obtain rfl : text = "1d 0h 0m 0s" := Option.some.inj hshown
  refine ⟨hday, hlong, hok, hread, fun h => ?_, fun h => ?_⟩
  · exact absurd ((honly _).mp h) (by decide)
  · have hfloors := (hsame _ _ _ hmore (by norm_num) hmorelong hday (by norm_num) hlong).mp h
    exact absurd hfloors (by decide +kernel)

/-- As many days as have 4301 digits are refused, although they are not negative. -/
theorem long_days_refused :
    (Num.int (86400 * 10 ^ 4300)).line? = some (.point ((86400 * 10 ^ 4300 : Int) : Rat)) ∧
      (0 : Int) ≤ 86400 * 10 ^ 4300 ∧
      durationText (.int (86400 * 10 ^ 4300)) = .error (.tooManyDigits 4300) ∧
      (Fault.tooManyDigits 4300).kind = .value := by
  have hbound : (86400 * 10 ^ 4300 : Int) = (durationBound : Int) := by
    rw [durationBound, Nat.cast_mul, Nat.cast_pow, Nat.cast_ofNat, Nat.cast_ofNat]
    rfl
  refine ⟨rfl, by positivity, durationText_of_long ⟨_, rfl, hbound.ge⟩, rfl⟩

end ForgeDashboard
