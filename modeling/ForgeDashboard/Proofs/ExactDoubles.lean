import ForgeDashboard.Number.Fixed
import ForgeDashboard.Proofs.Overflow

/-!
# Values of doubles

A number of at most 53 binary digits is a double as it is.  Any other one is rounded, which keeps
the order, and unless it is very small the double differs from it by at most one part in `2 ^ 53`.
What is computed with doubles is told by their values: a quotient is the rounded quotient of the
values, and a decimal is read off the value.

## Main definitions

* `Binary64.IsValue` : a double is finite and not negative, and has a value.

## Main results

* `Binary64.rounded_mul_zpow` : which numbers stay as they are.
* `Binary64.rounded_mono` : rounding keeps the order.
* `Binary64.abs_rounded_sub_le` : how far a rounded number may be off.
* `Binary64.IsValue.divBy`, `Binary64.IsValue.roundPlaces`, `Binary64.IsValue.fixedText` : what is
  computed with a value.
-/

namespace ForgeDashboard

/-! ### Decimal places -/

theorem cast_scaledPlaces (places : Nat) {q : Rat} (hq : 0 ≤ q) :
    (scaledPlaces places q : Rat) = roundHalfEven (q * 10 ^ places) := by
  have hnonneg : 0 ≤ roundHalfEven (q * 10 ^ places) := by
    rw [← roundHalfEven_intCast 0]
    refine roundHalfEven_mono ?_
    rw [Int.cast_zero]
    positivity
  rw [← Int.cast_natCast, scaledPlaces, Int.toNat_of_nonneg hnonneg]

theorem scaledPlaces_mono (places : Nat) {p q : Rat} (h : p ≤ q) :
    scaledPlaces places p ≤ scaledPlaces places q := by
  refine Int.toNat_le_toNat (roundHalfEven_mono ?_)
  gcongr

/-- A decimal is at most half a unit above the number it stands for. -/
theorem scaledPlaces_div_le (places : Nat) {q : Rat} (hq : 0 ≤ q) :
    (scaledPlaces places q : Rat) / 10 ^ places ≤ q + 1 / 2 := by
  have hscale : (1 : Rat) ≤ 10 ^ places := one_le_pow₀ (by norm_num)
  have hround := (abs_le.mp (abs_roundHalfEven_sub_le (q * 10 ^ places))).2
  rw [cast_scaledPlaces places hq, div_le_iff₀ (by positivity)]
  linarith

namespace Binary64

/-! ### Numbers that stay as they are -/

theorem rounded_eq_self {q : Rat} {k : Int} (h : scaled q = k) : rounded q = q := by
  rw [rounded, h, roundHalfEven_intCast, ← h, scaled_mul]

/-- No digit above a place is dropped of a number that ends there. -/
theorem lastDigitExponent_le {q : Rat} {e : Int} (hq : 0 ≤ q) (he : -1074 ≤ e)
    (h : q < (2 : Rat) ^ (e + 53)) : lastDigitExponent q ≤ e := by
  unfold lastDigitExponent
  split_ifs with hzero
  · exact he
  · have hpos : 0 < q := hq.lt_of_ne' hzero
    have horder : binaryOrder q < e + 53 :=
      (zpow_lt_zpow_iff_right₀ one_lt_two).mp ((binaryOrder_spec hpos).1.trans_lt h)
    exact max_le he (by omega)

/-- A number of at most 53 binary digits stays as it is. -/
theorem rounded_mul_zpow {m : Nat} {e : Int} (hm : m ≤ 2 ^ 53) (he : -1074 ≤ e) :
    rounded (m * (2 : Rat) ^ e) = m * (2 : Rat) ^ e := by
  wlog hlt : m < 2 ^ 53 generalizing m e
  · -- The power itself has one digit, which may be moved to the next place.
    have hshift : (m : Rat) * (2 : Rat) ^ e = ((2 ^ 52 : Nat) : Rat) * (2 : Rat) ^ (e + 1) := by
      rw [le_antisymm hm (not_lt.mp hlt), zpow_add_one₀ two_ne_zero]
      push_cast
      ring
    rw [hshift]
    exact this (by norm_num) (by omega) (by norm_num)
  have hm' : (m : Rat) < 2 ^ 53 := by exact_mod_cast hlt
  have hplace : lastDigitExponent (m * (2 : Rat) ^ e) ≤ e := by
    refine lastDigitExponent_le (by positivity) he ?_
    rw [zpow_add₀ two_ne_zero, mul_comm ((2 : Rat) ^ e)]
    gcongr
    exact_mod_cast hm'
  refine rounded_eq_self (k := m * 2 ^ (e - lastDigitExponent (m * (2 : Rat) ^ e)).toNat) ?_
  rw [scaled, mul_div_assoc, ← zpow_sub₀ two_ne_zero]
  push_cast
  rw [← zpow_natCast, Int.toNat_of_nonneg (by omega)]

/-- A natural number of at most 53 binary digits stays as it is. -/
theorem rounded_natCast {n : Nat} (hn : n ≤ 2 ^ 53) : rounded n = n := by
  have h := rounded_mul_zpow (e := 0) hn (by decide)
  rwa [zpow_zero, mul_one] at h

@[simp] theorem rounded_zero : rounded 0 = 0 := by
  exact_mod_cast rounded_natCast (n := 0) (by norm_num)

@[simp] theorem rounded_one : rounded 1 = 1 := by
  exact_mod_cast rounded_natCast (n := 1) (by norm_num)

/-! ### Rounding keeps the order -/

theorem lastDigitExponent_mono {p q : Rat} (hp : 0 ≤ p) (h : p ≤ q) :
    lastDigitExponent p ≤ lastDigitExponent q := by
  rcases hp.eq_or_lt with rfl | hp
  · rw [lastDigitExponent, if_pos rfl]
    exact le_lastDigitExponent q
  · have hq := hp.trans_le h
    have horder : binaryOrder p < binaryOrder q + 1 :=
      (zpow_lt_zpow_iff_right₀ one_lt_two).mp
        (((binaryOrder_spec hp).1.trans h).trans_lt (binaryOrder_spec hq).2)
    unfold lastDigitExponent
    rw [if_neg hp.ne', if_neg hq.ne']
    exact max_le_max_left _ (by omega)

/-- Rounding to a double keeps the order. -/
theorem rounded_mono {p q : Rat} (hp : 0 ≤ p) (h : p ≤ q) : rounded p ≤ rounded q := by
  have hq := hp.trans h
  unfold rounded
  rcases (lastDigitExponent_mono hp h).eq_or_lt with heq | hlt
  · -- Both end at the same place.
    have hdigits : roundHalfEven (scaled p) ≤ roundHalfEven (scaled q) := by
      refine roundHalfEven_mono ?_
      unfold scaled
      rw [heq]
      gcongr
    rw [heq]
    gcongr
  · -- The power of two between both is a double.
    have hpdigits : (roundHalfEven (scaled p) : Rat) ≤ 2 ^ 53 := by
      exact_mod_cast roundHalfEven_scaled_le hp
    have hqdigits : (2 : Rat) ^ 52 ≤ roundHalfEven (scaled q) := by
      exact_mod_cast le_roundHalfEven_scaled hq ((le_lastDigitExponent p).trans_lt hlt)
    calc (roundHalfEven (scaled p) : Rat) * (2 : Rat) ^ lastDigitExponent p
        ≤ 2 ^ 53 * (2 : Rat) ^ lastDigitExponent p := by gcongr
      _ = 2 ^ 52 * (2 : Rat) ^ (lastDigitExponent p + 1) := by
        rw [zpow_add_one₀ two_ne_zero]
        ring
      _ ≤ 2 ^ 52 * (2 : Rat) ^ lastDigitExponent q := by
        gcongr
        · exact one_le_two
        · omega
      _ ≤ roundHalfEven (scaled q) * (2 : Rat) ^ lastDigitExponent q := by gcongr

theorem one_le_rounded {q : Rat} (hq : 1 ≤ q) : 1 ≤ rounded q := by
  rw [← rounded_one]
  exact rounded_mono one_pos.le hq

/-! ### How far a rounded number may be off -/

/-- A number that has 53 digits above the lowest place is rounded by half of the last one. -/
theorem abs_rounded_sub_le {q : Rat} (hq : (2 : Rat) ^ (-1022 : Int) ≤ q) :
    |rounded q - q| ≤ q / 2 ^ 53 := by
  have hpos : 0 < q := lt_of_lt_of_le (by positivity) hq
  have hdigits : 2 ^ 52 ≤ scaled q := by
    rcases (le_lastDigitExponent q).eq_or_lt with hplace | hplace
    · rw [scaled, ← hplace, le_div_iff₀ (by positivity), ← zpow_natCast, ← zpow_add₀ two_ne_zero]
      exact hq
    · exact le_scaled hpos.le hplace
  have hunit : (0 : Rat) < (2 : Rat) ^ lastDigitExponent q := by positivity
  have hsplit : rounded q - q =
      (roundHalfEven (scaled q) - scaled q) * (2 : Rat) ^ lastDigitExponent q := by
    rw [sub_mul, scaled_mul, rounded]
  calc |rounded q - q|
      = |roundHalfEven (scaled q) - scaled q| * (2 : Rat) ^ lastDigitExponent q := by
        rw [hsplit, abs_mul, abs_of_pos hunit]
    _ ≤ 1 / 2 * (2 : Rat) ^ lastDigitExponent q := by
        gcongr
        exact abs_roundHalfEven_sub_le _
    _ = 2 ^ 52 * (2 : Rat) ^ lastDigitExponent q / 2 ^ 53 := by ring
    _ ≤ scaled q * (2 : Rat) ^ lastDigitExponent q / 2 ^ 53 := by gcongr
    _ = q / 2 ^ 53 := by rw [scaled_mul]

/-! ### Values -/

/-- A double is finite and not negative, and has a value. -/
def IsValue (x : Binary64) (q : Rat) : Prop :=
  ∃ m e hc, x = .finite false m e hc ∧ magnitude m e = q

theorem isValue_ofMagnitude {q : Rat} (hq : 0 ≤ q) (h : q < (overflowBound : Rat)) :
    (ofMagnitude false q).IsValue (rounded q) :=
  ofMagnitude_of_lt false hq h

section IsValue

variable {x : Binary64} {q : Rat} (hx : x.IsValue q)

include hx

theorem IsValue.nonneg : 0 ≤ q := by
  obtain ⟨m, e, hc, rfl, rfl⟩ := hx
  unfold magnitude
  positivity

/-- No value reaches the bound, not even if half a unit is added. -/
theorem IsValue.add_half_lt : q + 1 / 2 < overflowBound := by
  obtain ⟨m, e, hc, rfl, rfl⟩ := hx
  simp only [IsCanonical, Nat.pow_eq] at hc
  have hm : (m : Rat) ≤ 2 ^ 53 - 1 := by
    rw [le_sub_iff_add_le]
    exact_mod_cast (by omega : m + 1 ≤ 2 ^ 53)
  rw [overflowBound_eq, magnitude]
  have hunit : (1 : Rat) < (2 : Rat) ^ (971 : Int) := one_lt_zpow₀ one_lt_two (by decide)
  have he : (2 : Rat) ^ e ≤ (2 : Rat) ^ (971 : Int) :=
    zpow_le_zpow_right₀ one_le_two (by omega)
  generalize (2 : Rat) ^ (971 : Int) = top at *
  have hvalue : (m : Rat) * (2 : Rat) ^ e ≤ (2 ^ 53 - 1) * top := by gcongr
  linarith

theorem IsValue.lt_overflowBound : q < overflowBound :=
  (le_add_of_nonneg_right one_half_pos.le).trans_lt hx.add_half_lt

/-- An integer is compared with the value. -/
theorem IsValue.int_le_iff {b : Int} : (Num.int b).le (.float x) = true ↔ (b : Rat) ≤ q := by
  obtain ⟨m, e, hc, rfl, rfl⟩ := hx
  simp [Num.le, Num.line?, line?, Line.lt, signed]

theorem IsValue.fixedText (places : Nat) :
    x.fixedText places = placesText places (scaledPlaces places q) := by
  obtain ⟨m, e, hc, rfl, rfl⟩ := hx
  exact String.empty_append

theorem IsValue.roundPlaces (places : Nat) :
    (x.roundPlaces places).IsValue (rounded (scaledPlaces places q / 10 ^ places)) := by
  have hlt := (scaledPlaces_div_le places hx.nonneg).trans_lt hx.add_half_lt
  obtain ⟨m, e, hc, rfl, rfl⟩ := hx
  exact isValue_ofMagnitude (div_nonneg (Nat.cast_nonneg _) (pow_nonneg (by decide) _)) hlt

/-- A quotient is the rounded quotient of the values. -/
theorem IsValue.divBy {b : Int} (hb : 1 ≤ b) (hbound : b < overflowBound) :
    ∃ y, x.divBy (.int b) = .ok y ∧ y.IsValue (rounded (q / rounded b)) := by
  obtain ⟨n, f, hd, hdouble, hdivisor⟩ := Num.toBinary64_int_of_lt (by omega) hbound
  have hone : 1 ≤ rounded b := one_le_rounded (by exact_mod_cast hb)
  have hnonneg := hx.nonneg
  have hlt : q / rounded b < overflowBound :=
    (div_le_self hnonneg hone).trans_lt hx.lt_overflowBound
  rw [← hdivisor] at hone hlt ⊢
  have hn : n ≠ 0 := by
    rintro rfl
    norm_num [magnitude] at hone
  refine ⟨x.div (.finite false n f hd), ?_, ?_⟩
  · simp [Binary64.divBy, hdouble, isZero, hn, bind, Except.bind, pure, Except.pure]
  · obtain ⟨m, e, hc, rfl, rfl⟩ := hx
    exact isValue_ofMagnitude (div_nonneg hnonneg (zero_le_one.trans hone)) hlt

end IsValue

end Binary64

/-- An integer has the double of its rounded value. -/
theorem Num.exists_toBinary64_int {n : Int} (hn : 0 ≤ n) (h : n < overflowBound) :
    ∃ x, (Num.int n).toBinary64 = .ok x ∧ x.IsValue (Binary64.rounded n) := by
  obtain ⟨m, e, hc, hx, hvalue⟩ := toBinary64_int_of_lt hn h
  exact ⟨_, hx, m, e, hc, rfl, hvalue⟩

end ForgeDashboard
