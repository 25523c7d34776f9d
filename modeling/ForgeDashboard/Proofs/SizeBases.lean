import ForgeDashboard.Proofs.SizeOrder

/-!
# Sizes in units of any base

Dividing by a base that is no power of two is inexact: each of up to six divisions rounds, and so do
the two steps to tenths.  But the base, one, and every whole number up to `2 ^ 53` are doubles, and
rounding keeps the order.  So a value that is at least the base is at least one after the division,
a value below the base has tenths up to the base, and tenths that make it the base are moved to the
next unit as exactly one.

What is left are the tenths that are printed of a double below the base.  Up to `2 ^ 52` of them are
read back as they were rounded.  Beyond that a double ends at the sixteenths, and is below the base
by at least one of these, which is more than half a tenth.

## Main results

* `scaledPlaces_toTenths_lt` : tenths below the base are printed as less than the base.
* `Promotes.tenths_mem` : what is printed in the end is at least one, and below the base.
* `sizeText_normalized` : the text of a size, for every base.
-/

namespace ForgeDashboard

open Binary64

namespace Binary64

/-- A number that is large enough is rounded to a whole number of units of a place. -/
theorem exists_rounded_eq_mul_zpow {q : Rat} (hq : 0 ≤ q) {e : Int}
    (he : e ≤ lastDigitExponent q) : ∃ k : Nat, rounded q = k * (2 : Rat) ^ e := by
  obtain ⟨d, hd⟩ := Int.eq_ofNat_of_zero_le (roundHalfEven_scaled_nonneg hq)
  obtain ⟨j, hj⟩ := Int.eq_ofNat_of_zero_le (sub_nonneg.mpr he)
  refine ⟨d * 2 ^ j, ?_⟩
  rw [rounded, hd, show lastDigitExponent q = j + e by omega, zpow_add₀ two_ne_zero, zpow_natCast]
  push_cast
  ring

end Binary64

section Base

variable {base : Nat} (hbase : 1 ≤ base) (hexact : base ≤ 2 ^ 53) {q : Rat}

/-! ### One division -/

include hbase hexact

/-- At least one of the next unit is left of a value that is at least the base. -/
theorem one_le_quotient (hq : base ≤ q) : 1 ≤ quotient base q := by
  rw [quotient, Int.cast_natCast, rounded_natCast hexact]
  refine one_le_rounded ?_
  rwa [le_div_iff₀ (by positivity), one_mul]

/-- At least one of a unit above the byte is left after the last division. -/
theorem ScalesDown.one_le {larger i : Nat} (h : ScalesDown base larger q i) (hi : 0 < i) :
    1 ≤ (quotient base)^[i] q := by
  obtain ⟨j, rfl⟩ := Nat.exists_eq_succ_of_ne_zero hi.ne'
  rw [Function.iterate_succ_apply']
  exact one_le_quotient hbase hexact (by exact_mod_cast h.base_le j j.lt_succ_self)

omit hbase

/-- A value that is at least the base is divided. -/
theorem ScalesDown.pos {larger n i : Nat} (h : ScalesDown base larger (rounded n) i)
    (hlarger : 0 < larger) (hn : base ≤ n) : 0 < i := by
  refine Nat.pos_of_ne_zero ?_
  rintro rfl
  have hbelow : rounded n < base := by exact_mod_cast h.lt_base hlarger
  rw [← rounded_natCast hexact] at hbelow
  exact absurd (rounded_mono base.cast_nonneg (by exact_mod_cast hn)) (not_le.mpr hbelow)

/-! ### Tenths -/

omit hexact in
theorem one_le_toTenths (hq : 1 ≤ q) : 1 ≤ toTenths q := toTenths_one ▸ toTenths_mono hq

omit hexact in
/-- Of at least one there are at least ten tenths. -/
theorem ten_le_scaledPlaces_one (hq : 1 ≤ q) : 10 ≤ scaledPlaces 1 q :=
  scaledPlaces_one_one ▸ scaledPlaces_mono 1 hq

theorem toTenths_le_base (hq : q < base) : toTenths q ≤ base :=
  toTenths_natCast hexact ▸ toTenths_mono hq.le

/-- Tenths that are below the base as a double are printed as less than the base. -/
theorem scaledPlaces_toTenths_lt (h : toTenths q < base) :
    scaledPlaces 1 (toTenths q) < 10 * base := by
  rcases lt_or_ge (scaledPlaces 1 q) (2 ^ 52) with hfew | hmany
  · -- They are read back, and as many as ten times the base would have been rounded to the base.
    rw [scaledPlaces_toTenths hfew]
    by_contra! hge
    have hvalue : (base : Rat) ≤ scaledPlaces 1 q / 10 := by
      rw [le_div_iff₀ (by norm_num), mul_comm]
      exact_mod_cast hge
    have hfull := rounded_mono base.cast_nonneg hvalue
    rw [rounded_natCast hexact] at hfull
    exact absurd hfull (not_le.mpr h)
  · -- The double is a number of sixteenths.
    have hvalue : (2 : Rat) ^ 48 ≤ scaledPlaces 1 q / 10 := by
      have hmany : (2 : Rat) ^ 52 ≤ scaledPlaces 1 q := by exact_mod_cast hmany
      linarith
    have hplace : -4 ≤ lastDigitExponent (scaledPlaces 1 q / 10) := by
      have hlow : lastDigitExponent (2 ^ 48) = -4 := by decide +kernel
      rw [← hlow]
      exact lastDigitExponent_mono (by norm_num) hvalue
    obtain ⟨k, hk⟩ := exists_rounded_eq_mul_zpow (by positivity) hplace
    have hsixteenths : toTenths q = k / 16 := by
      rw [toTenths, hk]
      norm_num [zpow_neg, div_eq_mul_inv]
    have hless : k + 1 ≤ 16 * base := by
      rw [hsixteenths, div_lt_iff₀ (by norm_num)] at h
      have h : k < base * 16 := by exact_mod_cast h
      omega
    have hless : (k : Rat) + 1 ≤ 16 * base := by exact_mod_cast hless
    have hround := (abs_le.mp (abs_roundHalfEven_sub_le (toTenths q * 10 ^ 1))).2
    rw [← cast_scaledPlaces 1 (by rw [hsixteenths]; positivity), pow_one] at hround
    have hprinted : (scaledPlaces 1 (toTenths q) : Rat) < 10 * base := by
      rw [hsixteenths] at hround ⊢
      linarith
    exact_mod_cast hprinted

/-- What is printed of a value that is at least one, and below the base unless no larger unit is
left: at least ten tenths, and less than the base unless no larger unit is left. -/
theorem Promotes.tenths_mem {larger left : Nat} {v : Rat} (hbase : 2 ≤ base) (hone : 1 ≤ q)
    (hlt : 0 < larger → q < base) (h : Promotes base q larger left v) :
    left ≤ larger ∧ 10 ≤ scaledPlaces 1 v ∧ (0 < left → scaledPlaces 1 v < 10 * base) := by
  cases h with
  | stays hbelow =>
    refine ⟨le_rfl, ten_le_scaledPlaces_one (one_le_toTenths hone), fun hleft => ?_⟩
    exact scaledPlaces_toTenths_lt hexact (by exact_mod_cast hbelow hleft)
  | moves hle =>
    -- The tenths are the full base, which is one of the next unit.
    have hfull : toTenths q = base :=
      le_antisymm (toTenths_le_base hexact (hlt left.succ_pos)) (by exact_mod_cast hle)
    rw [hfull, quotient_self (by omega) hexact, toTenths_one, scaledPlaces_one_one]
    exact ⟨left.le_succ, le_rfl, fun _ => by omega⟩

end Base

/-! ### Sizes -/

/-- **A size is shown in its unit, whatever the base.**  The text exists.  Sizes below the base, and
only these, are shown in bytes, as they are; any other size is shown as at least one of its unit,
and as less than the base unless the unit is the last one. -/
theorem sizeText_normalized {base n : Nat} (hbase : 2 ≤ base) (hexact : base ≤ 2 ^ 53)
    (hn : (n : Int) < overflowBound) :
    ∃ text size, sizeText (.int n) (.int base) = .ok text ∧ shownSize? text = some size ∧
      (size.unit = 0 ↔ n < base) ∧ (n < base → size.amount = n) ∧
      (0 < size.unit → 1 ≤ size.amount) ∧
      (0 < size.unit → size.unit < byteUnits.length - 1 → size.amount < base) := by
  rcases lt_or_ge n base with hlt | hge
  · have hbyte : ¬0 < (ShownSize.mk n 0).unit := lt_irrefl 0
    exact ⟨_, _, sizeText_of_lt (by exact_mod_cast hlt), shownSize?_bytes n,
      iff_of_true rfl hlt, fun _ => rfl, (absurd · hbyte), (absurd · hbyte)⟩
  · have hbound : (base : Int) < overflowBound :=
      lt_of_le_of_lt (by exact_mod_cast hexact) (two_pow_lt_overflowBound (k := 53) (by decide))
    obtain ⟨i, left, v, htext, hscales, hshown⟩ :=
      exists_sizeText (by omega) hbound (by exact_mod_cast hge) hn
    have hi := hscales.pos hexact (by decide) hge
    obtain ⟨hleft, hten, hless⟩ := hshown.tenths_mem hexact hbase
      (hscales.one_le (by omega) hexact hi) fun h => by exact_mod_cast hscales.lt_base (by omega)
    refine ⟨_, _, htext, shownSize?_tenthsText _ (Nat.lt_succ_of_le (Nat.sub_le 6 left)), ?_,
      fun hlt => absurd hlt (not_lt.mpr hge), fun _ => ?_, fun _ hunit => ?_⟩
    · exact iff_of_false (by simp only; omega) (not_lt.mpr hge)
    · rw [le_div_iff₀ (by norm_num), one_mul]
      exact_mod_cast hten
    · rw [div_lt_iff₀ (by norm_num), mul_comm]
      exact_mod_cast hless (Nat.pos_of_ne_zero fun h => by simp [h, byteUnits] at hunit)

/-- In units of 1000 bytes 999950 bytes are divided to a double slightly above 999.95, which is
rounded to the full 1000. -/
theorem decimal_megabyte_normalized :
    2 ≤ 1000 ∧ 1000 ≤ 2 ^ 53 ∧ ((999950 : Nat) : Int) < overflowBound ∧
      sizeText (.int 999950) (.int 1000) = .ok "1 MB" ∧
      ∃ size, shownSize? "1 MB" = some size ∧ 0 < size.unit ∧ 1 ≤ size.amount ∧
        size.amount < 1000 := by
  have hbound : ((999950 : Nat) : Int) < overflowBound := by decide +kernel
  obtain ⟨text, size, htext, hread, hunit, -, hone, hless⟩ :=
    sizeText_normalized (by norm_num : 2 ≤ 1000) (by norm_num) hbound
  have hshown : (sizeText (.int 999950) (.int 1000)).toOption = some "1 MB" := by decide +kernel
  have hname : sizeText (.int 999950) (.int 1000) = .ok text := htext
  rw [hname] at hshown
  obtain rfl : text = "1 MB" := Option.some.inj hshown
  have hpos : 0 < size.unit := Nat.pos_of_ne_zero fun h => absurd (hunit.mp h) (by norm_num)
  have hplace : size.unit = 2 := by
    have hmega : shownSize? "1 MB" = some ⟨(10 : Nat) / 10, 2⟩ :=
      shownSize?_tenthsText 10 (u := 2) (by decide)
    exact congrArg ShownSize.unit (Option.some.inj (hread.symm.trans hmega))
  exact ⟨by norm_num, by norm_num, hbound, hname, size, hread, hpos, hone hpos,
    by exact_mod_cast hless hpos (by rw [hplace]; decide)⟩

end ForgeDashboard
