import ForgeDashboard.Proofs.Overflow
import ForgeDashboard.Source.Call

/-!
# Differences of doubles

A double that is less than another one has a difference to it that is positive, however close the
two are: all finite doubles are whole numbers of the least positive double, so the exact difference
is at least that one, and rounding does not make it zero.

So on doubles, too, some time is left at every moment before a deadline.

## Main results

* `Binary64.sub_pos_of_lt` : a difference is positive.
* `Binary64.zero_add_pos` : a positive double stays positive when it is added to zero.
* `Binary64.restOf_pos` : what is left until a deadline is positive before it.
-/

namespace ForgeDashboard

namespace Binary64

variable {x y : Binary64}

/-! ### Order -/

theorem lt_iff_exists_line :
    x < y ↔ ∃ p q, x.line? = some p ∧ y.line? = some q ∧ p.lt q = true := by
  show x.lt y = true ↔ _
  rw [lt]
  rcases x.line? with _ | p <;> rcases y.line? with _ | q <;> simp

theorem line?_zero : line? 0 = some (.point 0) := by
  show line? zero = _
  simp [line?, zero, signed, magnitude]

theorem not_le_of_lt (h : x < y) : ¬y ≤ x := by
  obtain ⟨p, q, hx, hy, hlt⟩ := lt_iff_exists_line.mp h
  show ¬y.le x = true
  simp [le, hx, hy, hlt]

theorem not_lt_of_lt (h : x < y) : ¬y < x := by
  obtain ⟨p, q, hx, hy, hlt⟩ := lt_iff_exists_line.mp h
  show ¬y.lt x = true
  rcases p with _ | p | _ <;> rcases q with _ | q | _ <;> simp_all [lt, Line.lt]
  exact hlt.le

/-- What is a number has a place on the line. -/
theorem exists_line (hx : x ≠ .nan) : ∃ p, x.line? = some p := by
  rcases x with _ | s | _
  · exact absurd rfl hx
  · cases s <;> exact ⟨_, rfl⟩
  · exact ⟨_, rfl⟩

/-- Of two numbers one is less, or the other is not greater. -/
theorem not_lt_iff (hx : x ≠ .nan) (hy : y ≠ .nan) : ¬x < y ↔ y ≤ x := by
  obtain ⟨p, hp⟩ := exists_line hx
  obtain ⟨q, hq⟩ := exists_line hy
  show ¬x.lt y = true ↔ y.le x = true
  simp [lt, le, hp, hq]

theorem zero_lt_inf : 0 < inf false :=
  lt_iff_exists_line.mpr ⟨_, _, line?_zero, rfl, rfl⟩

/-! ### The grid of doubles -/

/-- Finite doubles are whole numbers of the least positive one. -/
theorem exists_signed_magnitude_eq {s : Bool} {m : Nat} {e : Int} (h : IsCanonical m e) :
    ∃ k : Int, signed s (magnitude m e) = k * (2 : Rat) ^ (-1074 : Int) := by
  have hlow : -1074 ≤ e := by
    rcases h with ⟨-, -, h, -⟩ | ⟨-, h⟩ <;> omega
  obtain ⟨d, hd⟩ := Int.eq_ofNat_of_zero_le (show 0 ≤ e + 1074 by omega)
  have hmagnitude : magnitude m e = ((m * 2 ^ d : Int) : Rat) * (2 : Rat) ^ (-1074 : Int) := by
    rw [magnitude, show e = d + -1074 by omega, zpow_add₀ two_ne_zero, zpow_natCast]
    generalize (2 : Rat) ^ (-1074 : Int) = unit
    push_cast
    ring
  rw [hmagnitude]
  cases s
  · exact ⟨m * 2 ^ d, rfl⟩
  · exact ⟨-(m * 2 ^ d), by rw [signed, if_pos rfl, Int.cast_neg, neg_mul]⟩

/-- A positive whole number of the least positive double does not become zero. -/
theorem ofRat_pos {q : Rat} (hq : (2 : Rat) ^ (-1074 : Int) ≤ q) : 0 < ofRat q := by
  have hpos : 0 < q := lt_of_lt_of_le (by positivity) hq
  rw [ofRat, if_neg hpos.not_gt]
  rcases le_or_gt (overflowBound : Rat) q with hbig | hsmall
  · rw [ofMagnitude_of_le false hpos.le hbig]
    exact zero_lt_inf
  · obtain ⟨m, e, hc, hfinite, hmagnitude⟩ := ofMagnitude_of_lt false hpos.le hsmall
    rw [hfinite, lt_iff_exists_line]
    refine ⟨.point 0, .point (magnitude m e), line?_zero, rfl, ?_⟩
    rw [hmagnitude]
    exact decide_eq_true (rounded_pos_of_le hq)

theorem signed_not (s : Bool) (q : Rat) : signed (!s) q = -signed s q := by
  cases s <;> simp [signed]

/-- The exact difference of two finite doubles is a whole number of the least positive one. -/
theorem add_neg_pos {s t : Bool} {m n : Nat} {e f : Int} (hm : IsCanonical m e)
    (hn : IsCanonical n f) (h : signed s (magnitude m e) < signed t (magnitude n f)) :
    0 < add (.finite t n f hn) (.finite (!s) m e hm) := by
  obtain ⟨j, hj⟩ := exists_signed_magnitude_eq (s := s) hm
  obtain ⟨k, hk⟩ := exists_signed_magnitude_eq (s := t) hn
  have hunit : (0 : Rat) < (2 : Rat) ^ (-1074 : Int) := by positivity
  have htotal : signed t (magnitude n f) + signed (!s) (magnitude m e) =
      ((k - j : Int) : Rat) * (2 : Rat) ^ (-1074 : Int) := by
    rw [signed_not, hj, hk, ← sub_eq_add_neg, ← sub_mul, Int.cast_sub]
  have hstep : (1 : Rat) ≤ ((k - j : Int) : Rat) := by
    rw [hj, hk, mul_lt_mul_iff_left₀ hunit, Int.cast_lt] at h
    exact_mod_cast (by omega : 1 ≤ k - j)
  have hle : (2 : Rat) ^ (-1074 : Int) ≤
      signed t (magnitude n f) + signed (!s) (magnitude m e) := by
    rw [htotal]
    exact le_mul_of_one_le_left hunit.le hstep
  have hne : signed t (magnitude n f) + signed (!s) (magnitude m e) ≠ 0 :=
    (hunit.trans_le hle).ne'
  rw [add, if_neg hne]
  exact ofRat_pos hle

/-- A difference is positive if the subtracted double is the lesser one. -/
theorem sub_pos_of_lt (h : x < y) : 0 < y - x := by
  obtain ⟨p, q, hx, hy, hlt⟩ := lt_iff_exists_line.mp h
  show 0 < add y (neg x)
  rcases x with _ | (_ | _) | ⟨s, m, e, hm⟩
  · cases hx
  · cases hx
    cases hlt
  · cases hx
    rcases y with _ | (_ | _) | ⟨t, n, f, hn⟩
    · cases hy
    · exact zero_lt_inf
    · cases hy
      cases hlt
    · exact zero_lt_inf
  · cases hx
    rcases y with _ | (_ | _) | ⟨t, n, f, hn⟩
    · cases hy
    · exact zero_lt_inf
    · cases hy
      cases hlt
    · cases hy
      exact add_neg_pos hm hn (of_decide_eq_true hlt)

/-- A positive double is added to zero as if a negative one were subtracted from it. -/
theorem zero_add_pos (h : 0 < x) : 0 < 0 + x := by
  obtain ⟨p, q, hzero, hx, hlt⟩ := lt_iff_exists_line.mp h
  obtain rfl : p = .point 0 := Option.some.inj (hzero.symm.trans line?_zero)
  rcases x with _ | (_ | _) | ⟨s, m, e, hm⟩
  · cases hx
  · exact zero_lt_inf
  · cases hx
    cases hlt
  · cases hx
    have hpos : 0 < signed s (magnitude m e) := of_decide_eq_true hlt
    have hless : signed (!s) (magnitude m e) < signed false (magnitude 0 (-1074)) := by
      have hnone : signed false (magnitude 0 (-1074)) = 0 := by simp [signed, magnitude]
      rw [signed_not, hnone]
      exact neg_neg_of_pos hpos
    have hsum := add_neg_pos hm (by decide) hless
    rw [Bool.not_not] at hsum
    exact hsum

/-- Before a deadline some time is left. -/
theorem restOf_pos {deadline now : Binary64} (h : now < deadline) :
    0 < restOf deadline now := by
  have hpos := sub_pos_of_lt h
  rw [restOf, notNegative, if_neg (not_lt_of_lt hpos)]
  exact hpos

end Binary64

end ForgeDashboard
