import ForgeDashboard.Number.Num
import ForgeDashboard.Proofs.Rounding

/-!
# Where doubles overflow

Rounding a magnitude keeps its binary digits down to a last place.  If they carry into a new digit
the exponent grows by one, and if it is then too large the result is an infinity.  This happens from
one bound on: halfway between the largest double and the power of two after it, a bound that itself
overflows because ties go to the even neighbour.

## Main definitions

* `overflowBound` : the bound.
* `Binary64.scaled`, `Binary64.rounded` : the digits that are kept, and the rounded magnitude.

## Main results

* `Binary64.ofMagnitude_of_le`, `Binary64.ofMagnitude_of_lt` : the rounded double on both sides of
  the bound.
* `Num.toBinary64_int_of_le`, `Num.toBinary64_int_of_lt` : the same for integers.
-/

namespace ForgeDashboard

/-- Where magnitudes begin that no finite double is near: halfway from the largest double to the
power of two that follows it. -/
def overflowBound : Int := 2 ^ 1024 - 2 ^ 970

namespace Binary64

/-- The digits of a magnitude that a double keeps, as a number with a fraction. -/
def scaled (q : Rat) : Rat := q / (2 : Rat) ^ lastDigitExponent q

/-- A magnitude rounded to as many binary digits as a double has, with no limit above. -/
def rounded (q : Rat) : Rat := roundHalfEven (scaled q) * (2 : Rat) ^ lastDigitExponent q

/-! ### The digits that are kept -/

theorem scaled_mul (q : Rat) : scaled q * (2 : Rat) ^ lastDigitExponent q = q :=
  div_mul_cancel₀ q (by positivity)

theorem scaled_nonneg {q : Rat} (hq : 0 ≤ q) : 0 ≤ scaled q := by
  unfold scaled
  positivity

/-- No digit below the place -1074 is kept. -/
theorem le_lastDigitExponent (q : Rat) : -1074 ≤ lastDigitExponent q := by
  unfold lastDigitExponent
  split_ifs
  · exact le_rfl
  · exact le_max_left ..

/-- At most 53 digits are kept. -/
theorem scaled_lt {q : Rat} (hq : 0 ≤ q) : scaled q < 2 ^ 53 := by
  rcases hq.eq_or_lt with rfl | hq
  · norm_num [scaled]
  · have hkept : binaryOrder q - 52 ≤ lastDigitExponent q := by
      rw [lastDigitExponent, if_neg hq.ne']
      exact le_max_right ..
    rw [scaled, div_lt_iff₀ (by positivity), ← zpow_natCast, ← zpow_add₀ two_ne_zero]
    refine (binaryOrder_spec hq).2.trans_le (zpow_le_zpow_right₀ one_le_two ?_)
    push_cast
    omega

/-- All 53 digits are kept above the lowest place. -/
theorem le_scaled {q : Rat} (hq : 0 ≤ q) (h : -1074 < lastDigitExponent q) :
    2 ^ 52 ≤ scaled q := by
  have hpos : 0 < q := by
    refine hq.lt_of_ne fun hzero => ?_
    rw [lastDigitExponent, if_pos hzero.symm] at h
    omega
  have hkept : lastDigitExponent q = binaryOrder q - 52 := by
    rw [lastDigitExponent, if_neg hpos.ne'] at h ⊢
    omega
  rw [scaled, le_div_iff₀ (by positivity), hkept, ← zpow_natCast, ← zpow_add₀ two_ne_zero]
  refine le_of_eq_of_le ?_ (binaryOrder_spec hpos).1
  congr 1
  push_cast
  ring

/-! ### Where rounding overflows -/

/-- The rounded digits need no more than 53 places; a carry makes them `2 ^ 53`. -/
theorem roundHalfEven_scaled_le {q : Rat} (hq : 0 ≤ q) :
    roundHalfEven (scaled q) ≤ 2 ^ 53 := by
  have h := roundHalfEven_mono (scaled_lt hq).le
  rwa [show ((2 : Rat) ^ 53) = ((2 ^ 53 : Int) : Rat) by norm_num, roundHalfEven_intCast] at h

/-- The rounded digits carry from half a unit below `2 ^ 53` on, because `2 ^ 53` is even. -/
theorem carries_iff {q : Rat} (hq : 0 ≤ q) :
    roundHalfEven (scaled q) = 2 ^ 53 ↔ (2 : Rat) ^ 53 - 1 / 2 ≤ scaled q := by
  have hle := roundHalfEven_scaled_le hq
  have hiff : 2 ^ 53 ≤ roundHalfEven (scaled q) ↔ (2 : Rat) ^ 53 - 1 / 2 ≤ scaled q := by
    rw [le_roundHalfEven_iff, le_iff_lt_or_eq]
    norm_num
  rw [← hiff]
  omega

/-- The bound is half a unit of the last place below the power of two that no double reaches. -/
theorem overflowBound_eq :
    (overflowBound : Rat) = ((2 : Rat) ^ 53 - 1 / 2) * (2 : Rat) ^ (971 : Int) := by
  have hhigh : (2 : Rat) ^ 1024 = 2 ^ 53 * 2 ^ (971 : Int) := by
    rw [← zpow_natCast, ← zpow_natCast, ← zpow_add₀ two_ne_zero]
    rfl
  have hlow : (2 : Rat) ^ 970 = 1 / 2 * 2 ^ (971 : Int) := by
    rw [show (971 : Int) = (970 : Nat) + 1 from rfl, zpow_add_one₀ two_ne_zero, zpow_natCast]
    generalize (2 : Rat) ^ 970 = unit
    ring
  rw [overflowBound, Int.cast_sub, Int.cast_pow, Int.cast_pow, Int.cast_ofNat, hhigh, hlow]
  ring

/-- From the bound on, and only there, the exponent is too large before or after the carry. -/
theorem exponent_overflows_iff {q : Rat} (hq : 0 ≤ q) :
    (972 ≤ lastDigitExponent q ∨
      (lastDigitExponent q = 971 ∧ roundHalfEven (scaled q) = 2 ^ 53)) ↔
      (overflowBound : Rat) ≤ q := by
  have hpos : (0 : Rat) < 2 ^ (971 : Int) := by positivity
  have hq_eq := scaled_mul q
  rw [carries_iff hq, overflowBound_eq]
  rcases lt_trichotomy (lastDigitExponent q) 971 with h | h | h
  · -- The magnitude is below half the bound.
    refine iff_of_false (by omega) (not_le.mpr ?_)
    have hpow : (2 : Rat) ^ lastDigitExponent q * 2 ≤ 2 ^ (971 : Int) := by
      rw [← zpow_add_one₀ two_ne_zero]
      exact zpow_le_zpow_right₀ one_le_two (by omega)
    have hlt := mul_lt_mul_of_pos_right (scaled_lt hq)
      (show (0 : Rat) < 2 ^ lastDigitExponent q by positivity)
    rw [hq_eq] at hlt
    generalize (2 : Rat) ^ (971 : Int) = top at *
    linarith
  · -- In the topmost binade the carry decides.
    have hcarry : ((2 : Rat) ^ 53 - 1 / 2) * 2 ^ (971 : Int) ≤ q ↔
        (2 : Rat) ^ 53 - 1 / 2 ≤ scaled q := by
      rw [scaled, h, le_div_iff₀ hpos]
    rw [hcarry, h]
    simp
  · -- The magnitude is at least `2 ^ 1024`.
    refine iff_of_true (Or.inl (by omega)) ?_
    have hpow : (2 : Rat) ^ (971 : Int) * 2 ≤ 2 ^ lastDigitExponent q := by
      rw [← zpow_add_one₀ two_ne_zero]
      exact zpow_le_zpow_right₀ one_le_two (by omega)
    have hle := mul_le_mul_of_nonneg_right (le_scaled hq (by omega))
      (show (0 : Rat) ≤ 2 ^ lastDigitExponent q by positivity)
    rw [hq_eq] at hle
    generalize (2 : Rat) ^ (971 : Int) = top at *
    linarith

/-! ### The rounded double -/

/-- Mantissa and exponent of a rounded magnitude, after a carry into the exponent. -/
def carried (q : Rat) : Nat × Int :=
  if (roundHalfEven (scaled q)).toNat = Nat.pow 2 53 then (Nat.pow 2 52, lastDigitExponent q + 1)
  else ((roundHalfEven (scaled q)).toNat, lastDigitExponent q)

/-- A rounded double is made of these, if the exponent is not too large. -/
theorem ofMagnitude_eq (s : Bool) (q : Rat) :
    ofMagnitude s q =
      if h : IsCanonical (carried q).1 (carried q).2 then
        .finite s (carried q).1 (carried q).2 h
      else .inf s :=
  rfl

theorem roundHalfEven_scaled_nonneg {q : Rat} (hq : 0 ≤ q) : 0 ≤ roundHalfEven (scaled q) := by
  have h := roundHalfEven_mono (scaled_nonneg hq)
  rwa [show (0 : Rat) = ((0 : Int) : Rat) by norm_num, roundHalfEven_intCast] at h

theorem le_roundHalfEven_scaled {q : Rat} (hq : 0 ≤ q) (h : -1074 < lastDigitExponent q) :
    2 ^ 52 ≤ roundHalfEven (scaled q) := by
  have h := roundHalfEven_mono (le_scaled hq h)
  rwa [show ((2 : Rat) ^ 52) = ((2 ^ 52 : Int) : Rat) by norm_num, roundHalfEven_intCast] at h

/-- Below the overflow bound mantissa and exponent are canonical. -/
theorem isCanonical_carried_iff {q : Rat} (hq : 0 ≤ q) :
    IsCanonical (carried q).1 (carried q).2 ↔ q < (overflowBound : Rat) := by
  have hlow := le_lastDigitExponent q
  have hnonneg := roundHalfEven_scaled_nonneg hq
  have hle := roundHalfEven_scaled_le hq
  have hfull := le_roundHalfEven_scaled hq
  rw [← not_le, ← exponent_overflows_iff hq]
  unfold carried IsCanonical
  simp only [Nat.pow_eq]
  split_ifs with hcarry
  · have hr : roundHalfEven (scaled q) = 2 ^ 53 := by omega
    simp only [hr, and_true]
    omega
  · have hr : roundHalfEven (scaled q) ≠ 2 ^ 53 := by omega
    simp only [hr, and_false, or_false]
    omega

theorem magnitude_nonneg (m : Nat) (e : Int) : 0 ≤ magnitude m e := by
  unfold magnitude
  positivity

/-- The carry does not change the magnitude. -/
theorem magnitude_carried {q : Rat} (hq : 0 ≤ q) :
    magnitude (carried q).1 (carried q).2 = rounded q := by
  have hcast : (((roundHalfEven (scaled q)).toNat : Int) : Rat) = roundHalfEven (scaled q) := by
    rw [Int.toNat_of_nonneg (roundHalfEven_scaled_nonneg hq)]
  unfold carried magnitude rounded
  split_ifs with hcarry
  · rw [← hcast, hcarry, zpow_add_one₀ two_ne_zero]
    push_cast
    ring
  · rw [← hcast, Int.cast_natCast]

/-- A magnitude becomes an infinity from the overflow bound on. -/
theorem ofMagnitude_of_le (s : Bool) {q : Rat} (hq : 0 ≤ q) (h : (overflowBound : Rat) ≤ q) :
    ofMagnitude s q = .inf s := by
  rw [ofMagnitude_eq, dif_neg]
  rw [isCanonical_carried_iff hq]
  exact not_lt.mpr h

/-- Below the overflow bound it becomes a finite double of the rounded magnitude. -/
theorem ofMagnitude_of_lt (s : Bool) {q : Rat} (hq : 0 ≤ q) (h : q < (overflowBound : Rat)) :
    ∃ m e hc, ofMagnitude s q = .finite s m e hc ∧ magnitude m e = rounded q := by
  have hc := (isCanonical_carried_iff hq).mpr h
  exact ⟨_, _, hc, by rw [ofMagnitude_eq, dif_pos hc], magnitude_carried hq⟩

/-- A magnitude of at least the least positive double stays positive. -/
theorem rounded_pos_of_le {q : Rat} (hq : (2 : Rat) ^ (-1074 : Int) ≤ q) : 0 < rounded q := by
  have hpos : 0 < q := lt_of_lt_of_le (by positivity) hq
  have hdigits : 0 < roundHalfEven (scaled q) := by
    rcases (le_lastDigitExponent q).eq_or_lt with hplace | hplace
    · have hone : ((1 : Int) : Rat) ≤ scaled q := by
        rw [scaled, ← hplace, Int.cast_one, le_div_iff₀ (by positivity), one_mul]
        exact hq
      have := roundHalfEven_mono hone
      rwa [roundHalfEven_intCast] at this
    · have := le_roundHalfEven_scaled hpos.le hplace
      omega
  have hdigits : (0 : Rat) < roundHalfEven (scaled q) := by exact_mod_cast hdigits
  unfold rounded
  positivity

theorem rounded_pos {q : Rat} (hq : 1 ≤ q) : 0 < rounded q :=
  rounded_pos_of_le ((zpow_le_one_of_nonpos₀ one_le_two (by decide)).trans hq)

end Binary64

/-! ### Integers -/

/-- Every power of two below the topmost one lies below the bound. -/
theorem two_pow_lt_overflowBound {k : Nat} (hk : k < 1023) : (2 : Int) ^ k < overflowBound := by
  have htop : (2 : Int) ^ 1024 = 2 ^ 1023 + 2 ^ 1023 := by rw [← two_mul, ← pow_succ']
  have hunit : (2 : Int) ^ 970 < 2 ^ 1023 := pow_lt_pow_right₀ one_lt_two (by decide)
  have hle : (2 : Int) ^ k < 2 ^ 1023 := pow_lt_pow_right₀ one_lt_two hk
  rw [overflowBound, htop, lt_sub_iff_add_lt]
  exact add_lt_add hle hunit

theorem overflowBound_pos : 0 < overflowBound :=
  one_pos.trans (two_pow_lt_overflowBound (k := 0) (by decide))

namespace Num

variable {n : Int}

/-- An integer from the bound on has no double. -/
theorem toBinary64_int_of_le (h : overflowBound ≤ n) :
    (Num.int n).toBinary64 = .error .tooLargeForDouble := by
  have hn : (0 : Rat) ≤ n := by exact_mod_cast overflowBound_pos.le.trans h
  have hinf : Binary64.ofMagnitude false n = .inf false :=
    Binary64.ofMagnitude_of_le false hn (by exact_mod_cast h)
  simp only [toBinary64, Binary64.ofInt?, Binary64.ofRat, if_neg (not_lt.mpr hn), hinf]

/-- A smaller integer, if it is not negative, has a finite double of the rounded magnitude. -/
theorem toBinary64_int_of_lt (hn : 0 ≤ n) (h : n < overflowBound) :
    ∃ m e hc, (Num.int n).toBinary64 = .ok (.finite false m e hc) ∧
      Binary64.magnitude m e = Binary64.rounded n := by
  have hn : (0 : Rat) ≤ n := by exact_mod_cast hn
  obtain ⟨m, e, hc, hfinite, hmagnitude⟩ :=
    Binary64.ofMagnitude_of_lt false hn (by exact_mod_cast h)
  refine ⟨m, e, hc, ?_, hmagnitude⟩
  simp only [toBinary64, Binary64.ofInt?, Binary64.ofRat, if_neg (not_lt.mpr hn), hfinite]

end Num

/-! ### Numerals that are too long -/

namespace Num

/-- Integers have too many digits from a power of ten on. -/
theorem isTooLong_int_iff {n : Int} :
    (Num.int n).isTooLong = true ↔ 10 ^ numeralLimit ≤ n.natAbs := by
  have hdigits : digitCount n.natAbs ≤ numeralLimit ↔ n.natAbs < 10 ^ numeralLimit :=
    Nat.length_toDigits_le_iff (by decide) (by decide)
  rw [isTooLong, decide_eq_true_eq, ← not_le, hdigits, not_lt]

/-- Doubles overflow before that. -/
theorem overflowBound_le_ten_pow : overflowBound ≤ 10 ^ numeralLimit :=
  calc overflowBound
      ≤ 2 ^ 1024 := sub_le_self _ (by positivity)
    _ ≤ 10 ^ 1024 := pow_le_pow_left₀ (by decide) (by decide) 1024
    _ ≤ 10 ^ numeralLimit := pow_le_pow_right₀ (by decide) (by decide)

end Num

end ForgeDashboard
