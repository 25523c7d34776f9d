import ForgeDashboard.Proofs.SizeRounding

/-!
# Larger sizes read larger

A size beyond `2 ^ 53` is rounded to a double before it is divided, and the last unit has no end.
Still every step keeps the order: the rounding to a double, the exact divisions and both roundings
to tenths.  Only the unit may differ between two sizes, and the number that is read from the text
does not see it: a value that is moved to the next unit is read as the full 1024 that it was rounded
to, which is as much as one of the next unit.

## Main definitions

* `shownBytes` : the bytes that a value in a unit is read as.

## Main results

* `Promotes.read_eq` : the step to the next unit does not change what is read.
* `shownBytes_le_shownBytes` : what is read keeps the order across units.
* `sizeText_monotone` : of two sizes the larger one is not read as less.
-/

namespace ForgeDashboard

open Binary64

/-! ### Roundings keep the order -/

theorem toTenths_mono {p q : Rat} (h : p ≤ q) : toTenths p ≤ toTenths q := by
  have htenths : (scaledPlaces 1 p : Rat) ≤ scaledPlaces 1 q := by
    exact_mod_cast scaledPlaces_mono 1 h
  unfold toTenths
  refine rounded_mono (by positivity) ?_
  gcongr

/-- A whole number has no tenths to lose. -/
theorem toTenths_natCast {n : Nat} (hn : n ≤ 2 ^ 53) : toTenths n = n := by
  rw [toTenths, scaledPlaces_one_natCast, Nat.cast_mul, Nat.cast_ofNat,
    mul_div_cancel_left₀ _ (by norm_num), rounded_natCast hn]

theorem toTenths_one : toTenths 1 = 1 := by
  exact_mod_cast toTenths_natCast (n := 1) (by norm_num)

theorem toTenths_1024 : toTenths 1024 = 1024 := by
  exact_mod_cast toTenths_natCast (n := 1024) (by norm_num)

/-! ### Units -/

/-- The bytes that a value is read as if it is shown in a unit. -/
def shownBytes (i : Nat) (q : Rat) : Rat :=
  scaledPlaces 1 (toTenths (q / 1024 ^ i)) / 10 * 1024 ^ i

theorem shownBytes_mono (i : Nat) {p q : Rat} (h : p ≤ q) : shownBytes i p ≤ shownBytes i q := by
  have hvalue : p / 1024 ^ i ≤ q / 1024 ^ i := by gcongr
  have htenths := scaledPlaces_mono 1 (toTenths_mono hvalue)
  unfold shownBytes
  gcongr

/-- A full number of units is read as it is. -/
theorem shownBytes_mul_pow {n : Nat} (hn : n ≤ 2 ^ 53) (i : Nat) :
    shownBytes i (n * 1024 ^ i) = n * 1024 ^ i := by
  rw [shownBytes, mul_div_cancel_right₀ _ (by positivity), toTenths_natCast hn,
    scaledPlaces_one_natCast, Nat.cast_mul, Nat.cast_ofNat, mul_div_cancel_left₀ _ (by norm_num)]

namespace IsUnitOf

variable {i j : Nat} {p q : Rat}

theorem pow_le_shownBytes (h : IsUnitOf i q) (hi : 0 < i) : 1024 ^ i ≤ shownBytes i q := by
  have hone := shownBytes_mul_pow (n := 1) (by norm_num) i
  rw [Nat.cast_one, one_mul] at hone
  rw [← hone]
  exact shownBytes_mono i (h.pow_le hi)

theorem shownBytes_le_pow (h : IsUnitOf i q) (hi : i < 6) :
    shownBytes i q ≤ 1024 ^ (i + 1) := by
  have hfull := shownBytes_mul_pow (n := 1024) (by norm_num) i
  rw [Nat.cast_ofNat, ← pow_succ'] at hfull
  rw [← hfull]
  exact shownBytes_mono i (h.lt_pow hi).le

/-- A larger value has no smaller unit. -/
theorem unit_le (hp : IsUnitOf i p) (hq : IsUnitOf j q) (h : p ≤ q) : i ≤ j := by
  by_contra! hlt
  have hpow : (1024 : Rat) ^ (j + 1) ≤ 1024 ^ i := pow_le_pow_right₀ (by norm_num) hlt
  have hbelow := hq.lt_pow (hlt.trans_le hp.le)
  exact absurd (hp.pow_le (by omega)) (not_le.mpr ((h.trans_lt hbelow).trans_le hpow))

end IsUnitOf

/-- What is read keeps the order: within a unit because every rounding does, and across units
because the power of 1024 between them is read as it is. -/
theorem shownBytes_le_shownBytes {i j : Nat} {p q : Rat} (h : p ≤ q) (hi : IsUnitOf i p)
    (hj : IsUnitOf j q) : shownBytes i p ≤ shownBytes j q := by
  rcases (hi.unit_le hj h).eq_or_lt with rfl | hlt
  · exact shownBytes_mono i h
  · calc shownBytes i p
        ≤ 1024 ^ (i + 1) := hi.shownBytes_le_pow (hlt.trans_le hj.le)
      _ ≤ 1024 ^ j := pow_le_pow_right₀ (by norm_num) hlt
      _ ≤ shownBytes j q := hj.pow_le_shownBytes (by omega)

/-! ### What the steps show -/

/-- What is read of a value does not depend on whether it was moved to the next unit. -/
theorem Promotes.read_eq {q v : Rat} {larger left : Nat} (hlt : 0 < larger → q < 1024)
    (h : Promotes 1024 q larger left v) :
    left ≤ larger ∧
      scaledPlaces 1 v / 10 * 1024 ^ (larger - left) =
        (scaledPlaces 1 (toTenths q) / 10 : Rat) := by
  cases h with
  | stays => exact ⟨le_rfl, by rw [Nat.sub_self, pow_zero, mul_one]⟩
  | moves hle =>
    have hfull : toTenths q = 1024 := by
      refine le_antisymm ?_ (by exact_mod_cast hle)
      rw [← toTenths_1024]
      exact toTenths_mono (hlt left.succ_pos).le
    have hmany : scaledPlaces 1 1024 = 10240 := by exact_mod_cast scaledPlaces_one_natCast 1024
    refine ⟨Nat.le_succ left, ?_⟩
    rw [hfull, quotient_1024, toTenths_one, scaledPlaces_one_one, hmany, Nat.add_sub_cancel_left]
    norm_num

/-! ### Sizes -/

/-- A size is read as its double is in its unit. -/
theorem exists_shownBytes {n : Nat} (hn : (n : Int) < overflowBound) :
    ∃ text size i, sizeText (.int n) binaryBase = .ok text ∧ shownSize? text = some size ∧
      IsUnitOf i (rounded n) ∧ size.bytes 1024 = shownBytes i (rounded n) := by
  rcases lt_or_ge n 1024 with hlt | hge
  · -- Bytes are shown as they are.
    have hexact : n ≤ 2 ^ 53 := hlt.le.trans (by norm_num)
    have hbelow : (n : Rat) < 1024 := by exact_mod_cast hlt
    have hread := shownBytes_mul_pow hexact 0
    rw [pow_zero, mul_one] at hread
    refine ⟨_, _, 0, sizeText_of_lt (by exact_mod_cast hlt), shownSize?_bytes n, ?_, ?_⟩
    · rw [rounded_natCast hexact]
      exact ⟨Nat.zero_le 6, fun h => absurd h (lt_irrefl 0), fun _ => by rwa [zero_add, pow_one]⟩
    · rw [rounded_natCast hexact, hread, ShownSize.bytes, pow_zero, mul_one]
  · have hone : (1 : Rat) ≤ n := by exact_mod_cast le_trans (by norm_num) hge
    obtain ⟨i, left, v, htext, hscales, hshown⟩ := exists_sizeText (by norm_num : (1 : Int) ≤ 1024)
      (two_pow_lt_overflowBound (k := 10) (by decide)) (by exact_mod_cast hge) hn
    have hunit := hscales.isUnitOf hone
    rw [iterate_quotient_rounded hone hscales.le] at hshown
    obtain ⟨hleft, hread⟩ := hshown.read_eq fun hlarger => by
      rw [div_lt_iff₀ (by positivity), ← pow_succ']
      exact hunit.lt_pow (by omega)
    refine ⟨_, _, i, htext, shownSize?_tenthsText _ (Nat.lt_succ_of_le (Nat.sub_le 6 left)), hunit,
      ?_⟩
    have hi := hscales.le
    rw [ShownSize.bytes, shownBytes, ← hread, mul_assoc, ← pow_add,
      show 6 - i - left + i = 6 - left by omega]

/-- Of two sizes the larger one is not read as less, over the whole range of sizes that have a
text. -/
theorem sizeText_monotone {m n : Nat} (hmn : m ≤ n) (hn : (n : Int) < overflowBound) :
    ∃ smaller larger sizeOfSmaller sizeOfLarger,
      sizeText (.int m) binaryBase = .ok smaller ∧ shownSize? smaller = some sizeOfSmaller ∧
      sizeText (.int n) binaryBase = .ok larger ∧ shownSize? larger = some sizeOfLarger ∧
      sizeOfSmaller.bytes 1024 ≤ sizeOfLarger.bytes 1024 := by
  have hle : (m : Rat) ≤ n := by exact_mod_cast hmn
  have hm : (m : Int) < overflowBound := lt_of_le_of_lt (by exact_mod_cast hmn) hn
  obtain ⟨smaller, sizeOfSmaller, i, htext, hread, hunit, hbytes⟩ := exists_shownBytes hm
  obtain ⟨larger, sizeOfLarger, j, htext', hread', hunit', hbytes'⟩ := exists_shownBytes hn
  refine ⟨smaller, larger, sizeOfSmaller, sizeOfLarger, htext, hread, htext', hread', ?_⟩
  rw [hbytes, hbytes']
  exact shownBytes_le_shownBytes (rounded_mono m.cast_nonneg hle) hunit hunit'

/-- One byte more moves a size to the next unit, and it is not read as less for that. -/
theorem kilobytes_below_megabyte :
    1048524 ≤ 1048525 ∧ ((1048525 : Nat) : Int) < overflowBound ∧
      sizeText (.int 1048524) binaryBase = .ok "1023.9 KB" ∧
      sizeText (.int 1048525) binaryBase = .ok "1 MB" ∧
      ∃ smaller larger, shownSize? "1023.9 KB" = some smaller ∧ shownSize? "1 MB" = some larger ∧
        smaller.bytes 1024 ≤ larger.bytes 1024 := by
  have hle : 1048524 ≤ 1048525 := by norm_num
  have hbound : ((1048525 : Nat) : Int) < overflowBound := by decide +kernel
  have hless : (sizeText (.int 1048524) binaryBase).toOption = some "1023.9 KB" := by
    decide +kernel
  have hmore : (sizeText (.int 1048525) binaryBase).toOption = some "1 MB" := by decide +kernel
  obtain ⟨smaller, larger, _, _, htext, hread, htext', hread', hbytes⟩ :=
    sizeText_monotone hle hbound
  have htext : sizeText (.int 1048524) binaryBase = .ok smaller := htext
  have htext' : sizeText (.int 1048525) binaryBase = .ok larger := htext'
  rw [htext] at hless
  rw [htext'] at hmore
  obtain rfl : smaller = "1023.9 KB" := Option.some.inj hless
  obtain rfl : larger = "1 MB" := Option.some.inj hmore
  exact ⟨hle, hbound, htext, htext', _, _, hread, hread', hbytes⟩

end ForgeDashboard
