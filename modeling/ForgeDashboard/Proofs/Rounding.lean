import Mathlib.Algebra.Order.Field.Power
import Mathlib.Data.Rat.Floor
import Mathlib.Tactic.Linarith
import Mathlib.Tactic.NormNum
import Mathlib.Tactic.Positivity
import Mathlib.Tactic.Ring
import ForgeDashboard.Number.Rounding

/-!
# Rounding to an integer and the binary order

The nearest integer is described by the integers below it: this decides every case of a tie and
gives at once that rounding keeps the order and leaves integers alone, and that what is rounded to
is the nearest integer indeed.  The binary order is
described by the two powers of two around a number, the decimal order by the power of ten below it.

## Main definitions

* `IsNearest` : an integer is nearest to a number.

## Main results

* `le_roundHalfEven_iff` : the integers below a rounded number.
* `roundHalfEven_mono`, `roundHalfEven_intCast` : rounding keeps the order and the integers.
* `roundHalfEven_eq_iff` : rounding gives the nearest integer.
* `binaryOrder_spec` : the powers of two around a number.
* `ten_zpow_decimalOrder_le` : the power of ten below a number.
-/

namespace ForgeDashboard

/-! ### The nearest integer -/

/-- The rounded number is one of the two integers next to the number. -/
theorem roundHalfEven_eq_or (q : Rat) :
    roundHalfEven q = q.floor ∨ roundHalfEven q = q.floor + 1 := by
  unfold roundHalfEven
  dsimp only
  split_ifs <;> simp

/-- The upper one is taken if the number is more than halfway to it, and at half the way if it is
even. -/
theorem roundHalfEven_eq_succ_iff (q : Rat) :
    roundHalfEven q = q.floor + 1 ↔
      (q.floor : Rat) + 1 / 2 < q ∨ ((q.floor : Rat) + 1 / 2 = q ∧ (q.floor + 1) % 2 = 0) := by
  unfold roundHalfEven
  dsimp only
  split_ifs with hless hmore heven
  · refine iff_of_false (by omega) ?_
    rintro (h | ⟨h, -⟩) <;> linarith
  · exact iff_of_true rfl (Or.inl (by linarith))
  · refine iff_of_false (by omega) ?_
    rintro (h | ⟨-, h⟩)
    · exact hmore (by linarith)
    · omega
  · refine iff_of_true rfl (Or.inr ⟨?_, by omega⟩)
    linarith [not_lt.mp hless, not_lt.mp hmore]

/-- An integer is at most the rounded number if it is at most half a unit above the number, where
exactly half a unit counts for even integers only. -/
theorem le_roundHalfEven_iff (n : Int) (q : Rat) :
    n ≤ roundHalfEven q ↔ (n : Rat) - 1 / 2 < q ∨ ((n : Rat) - 1 / 2 = q ∧ n % 2 = 0) := by
  have hle : (q.floor : Rat) ≤ q := Rat.floor_le q
  have hlt : q < q.floor + 1 := by exact_mod_cast Rat.lt_floor_add_one q
  have hcandidates := roundHalfEven_eq_or q
  rcases lt_trichotomy n (q.floor + 1) with h | rfl | h
  · -- At or below the floor.
    have hn : (n : Rat) ≤ q.floor := by exact_mod_cast Int.lt_add_one_iff.mp h
    exact iff_of_true (by omega) (Or.inl (by linarith))
  · -- The upper candidate.
    have hiff : q.floor + 1 ≤ roundHalfEven q ↔ roundHalfEven q = q.floor + 1 := by omega
    have hhalf : ((q.floor + 1 : Int) : Rat) - 1 / 2 = q.floor + 1 / 2 := by
      push_cast
      ring
    rw [hiff, hhalf, roundHalfEven_eq_succ_iff]
  · -- Above both candidates.
    have hn : (q.floor : Rat) + 2 ≤ n := by exact_mod_cast (by omega : q.floor + 2 ≤ n)
    refine iff_of_false (by omega) ?_
    rintro (hq | ⟨hq, -⟩) <;> linarith

/-- Rounding keeps the order. -/
theorem roundHalfEven_mono {p q : Rat} (h : p ≤ q) : roundHalfEven p ≤ roundHalfEven q := by
  rw [le_roundHalfEven_iff]
  rcases (le_roundHalfEven_iff (roundHalfEven p) p).mp le_rfl with hp | ⟨hp, heven⟩
  · exact Or.inl (hp.trans_le h)
  · rcases h.lt_or_eq with h | rfl
    · exact Or.inl (hp.trans_lt h)
    · exact Or.inr ⟨hp, heven⟩

/-- An integer is rounded to itself. -/
theorem roundHalfEven_intCast (n : Int) : roundHalfEven n = n := by
  apply le_antisymm
  · by_contra h
    have hn : (n : Rat) + 1 ≤ roundHalfEven n := by exact_mod_cast not_le.mp h
    rcases (le_roundHalfEven_iff (roundHalfEven n) n).mp le_rfl with h | ⟨h, -⟩ <;> linarith
  · exact (le_roundHalfEven_iff n n).mpr (Or.inl (by linarith))

/-- An integer is nearest to a number: it is at most half a unit away, and even if it is just that
far. -/
def IsNearest (q : Rat) (n : Int) : Prop := |q - n| ≤ 1 / 2 ∧ (|q - n| = 1 / 2 → n % 2 = 0)

/-- The rounded number is the nearest integer. -/
theorem roundHalfEven_eq_iff {q : Rat} {n : Int} : roundHalfEven q = n ↔ IsNearest q n := by
  have hat := le_roundHalfEven_iff n q
  have habove := le_roundHalfEven_iff (n + 1) q
  have hhalf : ((n + 1 : Int) : Rat) - 1 / 2 = n + 1 / 2 := by
    push_cast
    ring
  have hiff : roundHalfEven q = n ↔ n ≤ roundHalfEven q ∧ ¬n + 1 ≤ roundHalfEven q := by omega
  rw [hhalf] at habove
  rw [hiff, hat, habove, not_or, not_lt, IsNearest, abs_le]
  constructor
  · rintro ⟨hlow, hhigh, hodd⟩
    refine ⟨⟨by rcases hlow with h | h <;> linarith, by linarith⟩, fun hdistance => ?_⟩
    rcases abs_eq_abs.mp (hdistance.trans (abs_of_pos one_half_pos).symm) with h | h
    · have hne : ¬(n + 1) % 2 = 0 := fun heven => hodd ⟨by linarith, heven⟩
      omega
    · exact (hlow.resolve_left (by linarith)).2
  · rintro ⟨⟨hlow, hhigh⟩, heven⟩
    refine ⟨?_, by linarith, ?_⟩
    · rcases (show (n : Rat) - 1 / 2 ≤ q by linarith).lt_or_eq with h | h
      · exact .inl h
      · refine .inr ⟨h, heven ?_⟩
        rw [← h, sub_sub_cancel_left, abs_neg, abs_of_pos one_half_pos]
    · rintro ⟨h, hodd⟩
      have hn : n % 2 = 0 := heven (by rw [← h, add_sub_cancel_left, abs_of_pos one_half_pos])
      omega

theorem abs_roundHalfEven_sub_le (q : Rat) : |roundHalfEven q - q| ≤ 1 / 2 := by
  rw [abs_sub_comm]
  exact (roundHalfEven_eq_iff.mp rfl).1

theorem roundHalfEven_eq_of_abs_lt {q : Rat} {n : Int} (h : |q - n| < 1 / 2) :
    roundHalfEven q = n :=
  roundHalfEven_eq_iff.mpr ⟨h.le, fun heq => absurd heq h.ne⟩

/-! ### The two parts of a fraction -/

theorem natAbs_num_ne_zero {q : Rat} (hq : 0 < q) : q.num.natAbs ≠ 0 := by
  have := Rat.num_pos.mpr hq
  omega

theorem natAbs_num_div_den {q : Rat} (hq : 0 < q) : (q.num.natAbs : Rat) / q.den = q := by
  have habs : ((q.num.natAbs : Int) : Rat) = q.num := by
    rw [Int.natAbs_of_nonneg (Rat.num_nonneg.mpr hq.le)]
  rw [← Int.cast_natCast, habs, Rat.num_div_den]

/-! ### The leading binary digit -/

/-- A quotient of two natural numbers lies between the powers of two that the lengths of both
allow. -/
theorem two_zpow_le_div {a b : Nat} (ha : a ≠ 0) (hb : b ≠ 0) :
    (2 : Rat) ^ ((a.log2 : Int) - b.log2 - 1) ≤ (a : Rat) / b ∧
      (a : Rat) / b < (2 : Rat) ^ ((a.log2 : Int) - b.log2 + 1) := by
  have hpos : (0 : Rat) < b := by exact_mod_cast Nat.pos_of_ne_zero hb
  have ha₁ : (2 : Rat) ^ a.log2 ≤ a := by exact_mod_cast Nat.log2_self_le ha
  have ha₂ : (a : Rat) < 2 ^ (a.log2 + 1) := by exact_mod_cast Nat.lt_log2_self
  have hb₁ : (2 : Rat) ^ b.log2 ≤ b := by exact_mod_cast Nat.log2_self_le hb
  have hb₂ : (b : Rat) < 2 ^ (b.log2 + 1) := by exact_mod_cast Nat.lt_log2_self
  constructor
  · rw [le_div_iff₀ hpos]
    calc (2 : Rat) ^ ((a.log2 : Int) - b.log2 - 1) * b
        ≤ 2 ^ ((a.log2 : Int) - b.log2 - 1) * 2 ^ (b.log2 + 1) := by gcongr
      _ = 2 ^ a.log2 := by
          rw [← zpow_natCast, ← zpow_natCast, ← zpow_add₀ two_ne_zero]
          congr 1
          push_cast
          ring
      _ ≤ a := ha₁
  · rw [div_lt_iff₀ hpos]
    calc (a : Rat) < 2 ^ (a.log2 + 1) := ha₂
      _ = 2 ^ ((a.log2 : Int) - b.log2 + 1) * 2 ^ b.log2 := by
          rw [← zpow_natCast, ← zpow_natCast, ← zpow_add₀ two_ne_zero]
          congr 1
          push_cast
          ring
      _ ≤ 2 ^ ((a.log2 : Int) - b.log2 + 1) * b := by gcongr

/-- The binary order is the exponent of the leading binary digit. -/
theorem binaryOrder_spec {q : Rat} (hq : 0 < q) :
    (2 : Rat) ^ binaryOrder q ≤ q ∧ q < (2 : Rat) ^ (binaryOrder q + 1) := by
  obtain ⟨hlow, hhigh⟩ := two_zpow_le_div (natAbs_num_ne_zero hq) q.den_nz
  rw [natAbs_num_div_den hq] at hlow hhigh
  unfold binaryOrder
  dsimp only
  split_ifs with hguess
  · exact ⟨hlow, by rwa [sub_add_cancel]⟩
  · exact ⟨not_lt.mp hguess, hhigh⟩

/-! ### The leading decimal digit -/

theorem lt_pow_digitCount (n : Nat) : n < 10 ^ digitCount n :=
  (Nat.length_toDigits_le_iff (by decide) Nat.length_toDigits_pos).mp le_rfl

theorem pow_le_of_ne_zero {n : Nat} (hn : n ≠ 0) : 10 ^ (digitCount n - 1) ≤ n := by
  have hpos : 0 < digitCount n := Nat.length_toDigits_pos
  rcases Nat.eq_zero_or_pos (digitCount n - 1) with hone | hmore
  · rw [hone, pow_zero]
    exact Nat.pos_of_ne_zero hn
  · by_contra hlt
    have hle : digitCount n ≤ digitCount n - 1 :=
      (Nat.length_toDigits_le_iff (by decide) hmore).mpr (not_le.mp hlt)
    omega

/-- A positive number is not below the power of ten of its decimal order. -/
theorem ten_zpow_decimalOrder_le {q : Rat} (hq : 0 < q) : (10 : Rat) ^ decimalOrder q ≤ q := by
  have hden : (0 : Rat) < q.den := by exact_mod_cast q.den_pos
  have hlow : (10 : Rat) ^ (digitCount q.num.natAbs - 1) ≤ q.num.natAbs := by
    exact_mod_cast pow_le_of_ne_zero (natAbs_num_ne_zero hq)
  have hhigh : (q.den : Rat) ≤ 10 ^ digitCount q.den := by
    exact_mod_cast (lt_pow_digitCount q.den).le
  have hpos : 0 < digitCount q.num.natAbs := Nat.length_toDigits_pos
  unfold decimalOrder
  dsimp only
  split_ifs with hguess
  · conv_rhs => rw [← natAbs_num_div_den hq]
    rw [le_div_iff₀ hden]
    calc (10 : Rat) ^ ((digitCount q.num.natAbs : Int) - digitCount q.den - 1) * q.den
        ≤ 10 ^ ((digitCount q.num.natAbs : Int) - digitCount q.den - 1) *
            10 ^ digitCount q.den := by
          gcongr
      _ = 10 ^ (digitCount q.num.natAbs - 1) := by
          rw [← zpow_natCast, ← zpow_natCast, ← zpow_add₀ (by norm_num)]
          congr 1
          omega
      _ ≤ q.num.natAbs := hlow
  · exact not_lt.mp hguess

end ForgeDashboard
