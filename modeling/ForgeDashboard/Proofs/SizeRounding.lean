import ForgeDashboard.Proofs.SizeSteps

/-!
# Sizes are rounded once

With units of 1024 bytes every division moves the point of a binary number, and is exact.  What is
left is one rounding to tenths: the decimal that is nearest to it is so near that it is read as the
same number of tenths again, and only the full 1024 move to the next unit.

## Main definitions

* `IsUnitOf` : the unit a value is divided down to.

## Main results

* `iterate_quotient` : the divisions are exact.
* `ScalesDown.isUnitOf` : which unit a value is divided down to.
* `scaledPlaces_toTenths` : tenths are read back from the nearest double.
* `sizeText_exact` : the text of a size is the exact rounding.
-/

namespace ForgeDashboard

open Binary64

/-! ### Exact divisions -/

theorem rounded_1024 : rounded 1024 = 1024 := by
  exact_mod_cast rounded_natCast (n := 1024) (by norm_num)

/-- Dividing by 1024 leaves the digits of a number as they are, unless they reach the lowest
place. -/
theorem iterate_quotient_mul_zpow {k : Nat} (hk : k ≤ 2 ^ 53) {e : Int} {i : Nat}
    (he : 10 * i - 1074 ≤ e) :
    (quotient 1024)^[i] (k * (2 : Rat) ^ e) = k * (2 : Rat) ^ e / 1024 ^ i := by
  induction i with
  | zero => simp
  | succ i ih =>
    have hpow : (1024 : Rat) ^ (i + 1) = (2 : Rat) ^ (10 * (i + 1) : Int) := by
      rw [show (10 * (i + 1) : Int) = ((10 * (i + 1) : Nat) : Int) by push_cast; ring,
        zpow_natCast, pow_mul]
      norm_num
    have hvalue : k * (2 : Rat) ^ e / 1024 ^ i / 1024 = k * (2 : Rat) ^ (e - 10 * (i + 1)) := by
      rw [div_div, ← pow_succ, hpow, mul_div_assoc, ← zpow_sub₀ two_ne_zero]
    rw [Function.iterate_succ_apply', ih (by omega), quotient, Int.cast_ofNat, rounded_1024,
      hvalue, rounded_mul_zpow hk (by omega), ← hvalue, div_div, ← pow_succ]

/-- The double of a size is divided exactly. -/
theorem iterate_quotient_rounded {q : Rat} (hq : 1 ≤ q) {i : Nat} (hi : i ≤ 6) :
    (quotient 1024)^[i] (rounded q) = rounded q / 1024 ^ i := by
  have hnonneg : 0 ≤ q := zero_le_one.trans hq
  have hplace : -52 ≤ lastDigitExponent q := by
    have hone : lastDigitExponent 1 = -52 := by decide
    rw [← hone]
    exact lastDigitExponent_mono zero_le_one hq
  obtain ⟨k, hk⟩ := Int.eq_ofNat_of_zero_le (roundHalfEven_scaled_nonneg hnonneg)
  have hdigits : k ≤ 2 ^ 53 := by
    have hle := roundHalfEven_scaled_le hnonneg
    rw [hk] at hle
    exact_mod_cast hle
  rw [rounded, hk, Int.cast_natCast]
  exact iterate_quotient_mul_zpow hdigits (by omega)

/-- A size that is a double itself is divided exactly. -/
theorem iterate_quotient {n : Nat} (hn : n ≤ 2 ^ 53) {i : Nat} (hi : i ≤ 6) :
    (quotient 1024)^[i] n = n / 1024 ^ i := by
  have h := iterate_quotient_mul_zpow hn (e := 0) (i := i) (by omega)
  rwa [zpow_zero, mul_one] at h

/-- The base is one of the next unit. -/
theorem quotient_self {base : Nat} (hpos : 1 ≤ base) (hexact : base ≤ 2 ^ 53) :
    quotient base base = 1 := by
  rw [quotient, Int.cast_natCast, rounded_natCast hexact, div_self (by positivity), rounded_one]

theorem quotient_1024 : quotient 1024 1024 = 1 := by
  exact_mod_cast quotient_self (show 1 ≤ 1024 by norm_num) (by norm_num)

/-! ### Tenths -/

theorem scaledPlaces_one_eq_of_abs_lt {q : Rat} {k : Nat} (h : |q * 10 - k| < 1 / 2) :
    scaledPlaces 1 q = k := by
  have hround : roundHalfEven (q * 10 ^ 1) = k := by
    refine roundHalfEven_eq_of_abs_lt ?_
    rwa [pow_one, Int.cast_natCast]
  rw [scaledPlaces, hround, Int.toNat_natCast]

theorem scaledPlaces_one_natCast (n : Nat) : scaledPlaces 1 n = 10 * n := by
  refine scaledPlaces_one_eq_of_abs_lt ?_
  rw [Nat.cast_mul, Nat.cast_ofNat, mul_comm, sub_self, abs_zero]
  norm_num

theorem scaledPlaces_one_one : scaledPlaces 1 1 = 10 := by
  exact_mod_cast scaledPlaces_one_natCast 1

/-- How far the double of a number of tenths may be off. -/
theorem abs_rounded_div_ten_sub_le (k : Nat) :
    |rounded (k / 10) - k / 10| ≤ k / 10 / 2 ^ 53 := by
  rcases Nat.eq_zero_or_pos k with rfl | hpos
  · simp
  · have hk : (1 : Rat) ≤ k := by exact_mod_cast hpos
    have hsmall : (2 : Rat) ^ (-1022 : Int) ≤ (2 : Rat) ^ (-4 : Int) :=
      zpow_le_zpow_right₀ one_le_two (by decide)
    have htenth : (2 : Rat) ^ (-4 : Int) ≤ k / 10 := by
      rw [show (2 : Rat) ^ (-4 : Int) = 1 / 16 by norm_num]
      linarith
    exact abs_rounded_sub_le (hsmall.trans htenth)

/-- Tenths are read back from the nearest double, unless they are too many. -/
theorem scaledPlaces_toTenths {q : Rat} (hk : scaledPlaces 1 q < 2 ^ 52) :
    scaledPlaces 1 (toTenths q) = scaledPlaces 1 q := by
  unfold toTenths
  generalize scaledPlaces 1 q = k at hk ⊢
  have hk : (k : Rat) < 2 ^ 52 := by exact_mod_cast hk
  refine scaledPlaces_one_eq_of_abs_lt ?_
  calc |rounded (k / 10) * 10 - k|
      = |rounded (k / 10) - k / 10| * 10 := by
        rw [← abs_of_pos (show (0 : Rat) < 10 by norm_num), ← abs_mul, sub_mul,
          abs_of_pos (show (0 : Rat) < 10 by norm_num), div_mul_cancel₀ _ (by norm_num)]
    _ ≤ k / 10 / 2 ^ 53 * 10 := by
        gcongr
        exact abs_rounded_div_ten_sub_le k
    _ = k / 2 ^ 53 := by ring
    _ < 2 ^ 52 / 2 ^ 53 := by gcongr
    _ = 1 / 2 := by norm_num

theorem toTenths_of_full {q : Rat} (hq : scaledPlaces 1 q = 10240) : toTenths q = 1024 := by
  rw [toTenths, hq, show ((10240 : Nat) : Rat) / 10 = 1024 by norm_num, rounded_1024]

/-- Up to 1024, the full 1024 are told by their tenths. -/
theorem le_toTenths_iff {q : Rat} (hq : scaledPlaces 1 q ≤ 10240) :
    1024 ≤ toTenths q ↔ scaledPlaces 1 q = 10240 := by
  refine ⟨fun hle => ?_, fun hfull => (toTenths_of_full hfull).ge⟩
  by_contra hne
  have hk : (scaledPlaces 1 q : Rat) ≤ 10239 := by
    exact_mod_cast (by omega : scaledPlaces 1 q ≤ 10239)
  have herror := (abs_le.mp (abs_rounded_div_ten_sub_le (scaledPlaces 1 q))).2
  have hsmall : (scaledPlaces 1 q : Rat) / 10 / 2 ^ 53 < 1 / 10 := by
    rw [div_lt_iff₀ (by norm_num)]
    linarith
  unfold toTenths at hle
  linarith

/-- What is shown of a value below 1024: its tenths, unless they are the full 1024. -/
theorem Promotes.of_lt_1024 {q v : Rat} {larger left : Nat} (hq : scaledPlaces 1 q ≤ 10240)
    (hlarger : 0 < larger) (h : Promotes 1024 q larger left v) :
    (scaledPlaces 1 q ≠ 10240 ∧ left = larger ∧ scaledPlaces 1 v = scaledPlaces 1 q) ∨
      (scaledPlaces 1 q = 10240 ∧ left + 1 = larger ∧ scaledPlaces 1 v = 10) := by
  have hback : scaledPlaces 1 (toTenths q) = scaledPlaces 1 q :=
    scaledPlaces_toTenths (hq.trans_lt (by norm_num))
  have hiff := le_toTenths_iff hq
  cases h with
  | stays hlt =>
    refine .inl ⟨fun heq => ?_, rfl, hback⟩
    exact not_le.mpr (hlt hlarger) (by exact_mod_cast hiff.mpr heq)
  | moves hle =>
    have heq := hiff.mp (by exact_mod_cast hle)
    refine .inr ⟨heq, rfl, ?_⟩
    have hfew : scaledPlaces 1 1 < 2 ^ 52 := by
      rw [scaledPlaces_one_one]
      norm_num
    rw [toTenths_of_full heq, quotient_1024, scaledPlaces_toTenths hfew, scaledPlaces_one_one]

/-! ### Units -/

/-- The unit of a value: it has at least one of it, unless that is the byte, and less than 1024,
unless that is the last one. -/
structure IsUnitOf (i : Nat) (q : Rat) : Prop where
  le : i ≤ 6
  pow_le : 0 < i → 1024 ^ i ≤ q
  lt_pow : i < 6 → q < 1024 ^ (i + 1)

/-- The value is divided down to its unit. -/
theorem ScalesDown.isUnitOf {q : Rat} {i : Nat} (hq : 1 ≤ q)
    (h : ScalesDown 1024 6 (rounded q) i) : IsUnitOf i (rounded q) := by
  refine ⟨h.le, fun hpos => ?_, fun hlt => ?_⟩
  · have hlast := h.base_le (i - 1) (by omega)
    rw [iterate_quotient_rounded hq (by have := h.le; omega), le_div_iff₀ (by positivity),
      Int.cast_ofNat, ← pow_succ', Nat.sub_add_cancel hpos] at hlast
    exact hlast
  · have hbelow := h.lt_base hlt
    rwa [iterate_quotient_rounded hq h.le, div_lt_iff₀ (by positivity), Int.cast_ofNat,
      ← pow_succ'] at hbelow

/-- The size is divided as often as 1024 has a power in it, and never by all units. -/
theorem ScalesDown.pow_le_and_lt {n i : Nat} (hn : n ≤ 2 ^ 53) (hpos : 0 < n)
    (h : ScalesDown 1024 6 n i) : i < 6 ∧ 1024 ^ i ≤ n ∧ n < 1024 ^ (i + 1) := by
  have hexact : rounded n = n := rounded_natCast hn
  have hunit : IsUnitOf i n := by
    rw [← hexact] at h
    rw [← hexact]
    exact h.isUnitOf (by exact_mod_cast hpos)
  have hle : 1024 ^ i ≤ n := by
    rcases Nat.eq_zero_or_pos i with rfl | hi
    · exact hpos
    · exact_mod_cast hunit.pow_le hi
  have hi : i < 6 := by
    refine lt_of_le_of_ne hunit.le ?_
    rintro rfl
    exact absurd (hle.trans hn) (by norm_num)
  exact ⟨hi, hle, by exact_mod_cast hunit.lt_pow hi⟩

/-! ### Sizes -/

theorem isGreatest_of_pow_le_of_lt {n i : Nat} (hle : 1024 ^ i ≤ n) (hlt : n < 1024 ^ (i + 1)) :
    IsGreatest {j | 1024 ^ j ≤ n} i := by
  refine ⟨hle, fun j hj => ?_⟩
  have hpow : 1024 ^ j < 1024 ^ (i + 1) := lt_of_le_of_lt hj hlt
  have hj : j < i + 1 := (Nat.pow_lt_pow_iff_right (by decide)).mp hpow
  omega

/-- The tenths of a value are nearest to ten times the value. -/
theorem isNearest_scaledPlaces_one {q : Rat} (hq : 0 ≤ q) :
    IsNearest (10 * q) (scaledPlaces 1 q) := by
  have hround := cast_scaledPlaces 1 hq
  rw [pow_one, mul_comm, ← Int.cast_natCast, Int.cast_inj] at hround
  exact roundHalfEven_eq_iff.mp hround.symm

/-- From one up to 1024 of a unit there are from ten up to 10240 tenths. -/
theorem IsNearest.tenths_mem {n i k : Nat} (h : IsNearest (10 * n / 1024 ^ i) k)
    (hle : 1024 ^ i ≤ n) (hlt : n < 1024 ^ (i + 1)) : 10 ≤ k ∧ k ≤ 10240 := by
  obtain ⟨hlow, hhigh⟩ := abs_le.mp h.1
  rw [Int.cast_natCast] at hlow hhigh
  have hone : (10 : Rat) ≤ 10 * n / 1024 ^ i := by
    rw [le_div_iff₀ (by positivity)]
    exact_mod_cast Nat.mul_le_mul_left 10 hle
  have hbelow : 10 * (n : Rat) / 1024 ^ i < 10240 := by
    rw [div_lt_iff₀ (by positivity)]
    exact_mod_cast (by rw [pow_succ] at hlt; omega : 10 * n < 10240 * 1024 ^ i)
  have hlow : 9 < k := by exact_mod_cast (by linarith : (9 : Rat) < k)
  have hhigh : k < 10241 := by exact_mod_cast (by linarith : (k : Rat) < 10241)
  omega

/-- From 1024 bytes on, the text is one rounding to tenths of the largest unit that fits. -/
theorem exists_sizeText_binaryBase {n : Nat} (hn : n ≤ 2 ^ 53) (h : 1024 ≤ n) :
    ∃ i k : Nat, i < 6 ∧ 1024 ^ i ≤ n ∧ n < 1024 ^ (i + 1) ∧ IsNearest (10 * n / 1024 ^ i) k ∧
      sizeText (.int n) binaryBase = .ok
        (if k = 10240 then "1 " ++ byteUnits.getD (i + 1) ""
        else tenthsText k ++ " " ++ byteUnits.getD i "") := by
  have hbound : 1024 < overflowBound := two_pow_lt_overflowBound (k := 10) (by decide)
  have hnbound : (n : Int) < overflowBound :=
    lt_of_le_of_lt (by exact_mod_cast hn) (two_pow_lt_overflowBound (k := 53) (by decide))
  obtain ⟨i, left, v, htext, hscales, hshown⟩ :=
    exists_sizeText (by decide) hbound (by exact_mod_cast h) hnbound
  rw [rounded_natCast hn] at hscales hshown
  obtain ⟨hi, hle, hlt⟩ := hscales.pow_le_and_lt hn (by omega)
  rw [iterate_quotient hn hi.le] at hshown
  have hnearest := isNearest_scaledPlaces_one (show (0 : Rat) ≤ n / 1024 ^ i by positivity)
  rw [← mul_div_assoc] at hnearest
  have hmost := (hnearest.tenths_mem hle hlt).2
  refine ⟨i, _, hi, hle, hlt, hnearest, ?_⟩
  rcases hshown.of_lt_1024 hmost (by omega) with ⟨hne, hleft, hv⟩ | ⟨heq, hleft, hv⟩
  · rw [if_neg hne, ← hv, show i = 6 - left by omega]
    exact htext
  · rw [if_pos heq, show i + 1 = 6 - left by omega]
    rwa [hv] at htext

/-- The text is read as what it was rounded to. -/
theorem exists_shownSize?_promoted {i k : Nat} (hi : i < 6) (hlow : 10 ≤ k) (hhigh : k ≤ 10240) :
    ∃ size,
      shownSize? (if k = 10240 then "1 " ++ byteUnits.getD (i + 1) ""
        else tenthsText k ++ " " ++ byteUnits.getD i "") = some size ∧
      size.bytes 1024 = k / 10 * 1024 ^ i ∧ 1 ≤ size.amount ∧ size.amount < 1024 := by
  split_ifs with hk
  · have hread := shownSize?_tenthsText 10 (show i + 1 < byteUnits.length from Nat.succ_lt_succ hi)
    have hone : tenthsText 10 ++ " " = "1 " := by rw [tenthsText_mul_ten 1]; rfl
    rw [hone] at hread
    refine ⟨_, hread, ?_, by norm_num, by norm_num⟩
    rw [ShownSize.bytes, hk]
    push_cast
    ring
  · refine ⟨_, shownSize?_tenthsText k (hi.trans (by decide)), rfl, ?_, ?_⟩
    · rw [le_div_iff₀ (by norm_num), one_mul]
      exact_mod_cast hlow
    · rw [div_lt_iff₀ (by norm_num)]
      exact_mod_cast lt_of_le_of_ne hhigh hk

/-- The nearest number of tenths of a unit is off by at most half a tenth of it. -/
theorem IsNearest.abs_sub_le {n unit : Rat} {k : Nat} (hunit : 0 < unit)
    (h : IsNearest (10 * n / unit) k) : |k / 10 * unit - n| ≤ unit / 20 := by
  have hsplit : k / 10 * unit - n = (k - 10 * n / unit) * (unit / 10) := by
    rw [sub_mul, div_mul_div_cancel₀ hunit.ne']
    ring
  have hdistance := h.1
  rw [abs_sub_comm, Int.cast_natCast] at hdistance
  calc |k / 10 * unit - n| = |k - 10 * n / unit| * (unit / 10) := by
        rw [hsplit, abs_mul, abs_of_pos (show 0 < unit / 10 by positivity)]
    _ ≤ 1 / 2 * (unit / 10) := by gcongr
    _ = unit / 20 := by ring

/-- The text of a size up to `2 ^ 53` is the exact rounding.  The size that it reads as has at least
one of any unit above the byte, less than 1024 of each, and is off by at most half a tenth of the
largest unit that fits. -/
theorem sizeText_exact {n : Nat} (hn : n ≤ 2 ^ 53) :
    ∃ text size, sizeText (.int n) binaryBase = .ok text ∧ shownSize? text = some size ∧
      (n < 1024 → text = toString n ++ " B") ∧
      (1024 ≤ n → ∃ i k : Nat, i < 6 ∧ IsGreatest {j | 1024 ^ j ≤ n} i ∧
        IsNearest (10 * n / 1024 ^ i) k ∧
        text = if k = 10240 then "1 " ++ byteUnits.getD (i + 1) ""
          else tenthsText k ++ " " ++ byteUnits.getD i "") ∧
      (0 < size.unit → 1 ≤ size.amount) ∧ size.amount < 1024 ∧
      ∀ i, IsGreatest {j | 1024 ^ j ≤ n} i → |size.bytes 1024 - n| ≤ 1024 ^ i / 20 := by
  rcases lt_or_ge n 1024 with hlt | hge
  · -- Less than a unit.
    have hamount : (n : Rat) < 1024 := by exact_mod_cast hlt
    refine ⟨_, _, sizeText_of_lt (by exact_mod_cast hlt), shownSize?_bytes n, fun _ => rfl,
      fun hge => absurd hge (not_le.mpr hlt), fun h => absurd h (lt_irrefl 0), hamount,
      fun i _ => ?_⟩
    rw [ShownSize.bytes, pow_zero, mul_one, sub_self, abs_zero]
    positivity
  · obtain ⟨i, k, hi, hle, hlt, hnearest, htext⟩ := exists_sizeText_binaryBase hn hge
    have hgreatest := isGreatest_of_pow_le_of_lt hle hlt
    obtain ⟨hlow, hhigh⟩ := hnearest.tenths_mem hle hlt
    obtain ⟨size, hread, hbytes, hone, hless⟩ := exists_shownSize?_promoted hi hlow hhigh
    refine ⟨_, size, htext, hread, fun hlt => absurd hge (not_le.mpr hlt),
      fun _ => ⟨i, k, hi, hgreatest, hnearest, rfl⟩, fun _ => hone, hless, fun j hj => ?_⟩
    rw [hj.unique hgreatest, hbytes]
    exact hnearest.abs_sub_le (by positivity)

/-- One byte less than 1024 units is shown as one of the next unit. -/
theorem byte_below_megabyte :
    1048575 ≤ 2 ^ 53 ∧ sizeText (.int 1048575) binaryBase = .ok "1 MB" ∧
      ∃ size, shownSize? "1 MB" = some size ∧ size.amount < 1024 ∧
        |size.bytes 1024 - 1048575| ≤ 1024 / 20 := by
  have hn : 1048575 ≤ 2 ^ 53 := by norm_num
  obtain ⟨text, size, htext, hread, -, -, -, hless, herror⟩ := sizeText_exact hn
  have hshown : (sizeText (.int 1048575) binaryBase).toOption = some "1 MB" := by decide +kernel
  have hname : sizeText (.int 1048575) binaryBase = .ok text := htext
  rw [hname] at hshown
  obtain rfl : text = "1 MB" := Option.some.inj hshown
  have herror := herror 1 (isGreatest_of_pow_le_of_lt (by norm_num) (by norm_num))
  rw [pow_one] at herror
  exact ⟨hn, hname, size, hread, hless, herror⟩

end ForgeDashboard
