import ForgeDashboard.Proofs.ExactDoubles
import ForgeDashboard.Proofs.Refusal
import ForgeDashboard.Proofs.SizeReading

/-!
# The steps to a size

A size is divided by the base as often as there are units, rounded to tenths, and moved to the next
unit if that makes it the base.  Each step is a step on the value of a double, and what the value is
compared with decides which unit is shown.

## Main definitions

* `quotient`, `toTenths` : one division by the base, and the rounding to one decimal.
* `ScalesDown` : how often a value is divided.
* `Promotes` : which value is shown in the end, and in which unit.

## Main results

* `Binary64.IsValue.exists_scaleDown`, `Binary64.IsValue.exists_promote` : the loop and the
  promotion do this.
* `exists_sizeText` : the text of a size, for every base.
-/

namespace ForgeDashboard

open Binary64

/-- A value divided by a base, as a double. -/
def quotient (base : Int) (q : Rat) : Rat := rounded (q / rounded base)

/-- A value rounded to tenths, as a double. -/
def toTenths (q : Rat) : Rat := rounded (scaledPlaces 1 q / 10)

/-- A value is divided `i` times: it is at least the base before each division, and below it after
the last one unless no larger unit is left. -/
structure ScalesDown (base : Int) (larger : Nat) (q : Rat) (i : Nat) : Prop where
  le : i ≤ larger
  base_le : ∀ j < i, (base : Rat) ≤ (quotient base)^[j] q
  lt_base : i < larger → (quotient base)^[i] q < base

/-- The value that is shown of one that has some larger units left, and how many it has left then.
It stays in its unit, or it is moved to the next one because its tenths make it the base. -/
inductive Promotes (base : Int) (q : Rat) : Nat → Nat → Rat → Prop where
  | stays {larger : Nat} : (0 < larger → toTenths q < base) →
      Promotes base q larger larger (toTenths q)
  | moves {left : Nat} : (base : Rat) ≤ toTenths q →
      Promotes base q (left + 1) left (toTenths (quotient base (toTenths q)))

section Steps

variable {base : Int} (hbase : 1 ≤ base) (hbound : base < overflowBound)

section IsValue

variable {x : Binary64} {q : Rat} (hx : x.IsValue q)

include hx

theorem Binary64.IsValue.roundPlaces_one : (x.roundPlaces 1).IsValue (toTenths q) := by
  simpa [toTenths] using hx.roundPlaces 1

/-- The text of a value in one of the units. -/
theorem Binary64.IsValue.scaledText (larger : Nat) :
    scaledText x larger = tenthsText (scaledPlaces 1 q) ++ " " ++
      byteUnits.getD (6 - larger) "" := by
  rw [ForgeDashboard.scaledText, hx.fixedText, dropZeroTenth_placesText]
  rfl

include hbase hbound

theorem Binary64.IsValue.exists_scaleDown (larger : Nat) :
    ∃ i y, scaleDown (.int base) larger x = .ok (y, larger - i) ∧
      y.IsValue ((quotient base)^[i] q) ∧ ScalesDown base larger q i := by
  induction larger generalizing x q with
  | zero => exact ⟨0, x, rfl, hx, le_rfl, by simp, by simp⟩
  | succ larger ih =>
    unfold scaleDown
    split_ifs with hle
    · obtain ⟨y, hy, hvalue⟩ := hx.divBy hbase hbound
      obtain ⟨i, z, hz, hlast, hi, hbefore, hafter⟩ := ih hvalue
      refine ⟨i + 1, z, ?_, hlast, by omega, ?_, fun h => hafter (by omega)⟩
      · rw [hy, Nat.add_sub_add_right]
        exact hz
      · rintro (_ | j) hj
        · exact hx.int_le_iff.mp hle
        · exact hbefore j (by omega)
    · refine ⟨0, x, rfl, hx, Nat.zero_le _, by simp, fun _ => ?_⟩
      exact not_le.mp (mt hx.int_le_iff.mpr hle)

theorem Binary64.IsValue.exists_promote (larger : Nat) :
    ∃ y left v, promote (.int base) x larger = .ok (y, left) ∧ y.IsValue v ∧
      Promotes base q larger left v := by
  have htenths := hx.roundPlaces_one
  unfold promote
  dsimp only
  cases larger with
  | zero => exact ⟨_, _, _, rfl, htenths, .stays (absurd · (lt_irrefl 0))⟩
  | succ larger =>
    split_ifs with hle
    · obtain ⟨y, hy, hvalue⟩ := htenths.divBy hbase hbound
      refine ⟨y.roundPlaces 1, larger, _, by rw [hy]; rfl, hvalue.roundPlaces_one, .moves ?_⟩
      exact htenths.int_le_iff.mp hle
    · refine ⟨_, _, _, rfl, htenths, .stays fun _ => ?_⟩
      exact not_le.mp (mt htenths.int_le_iff.mpr hle)

end IsValue

/-- A size below the base is shown as it is. -/
theorem sizeText_of_lt {n : Nat} (h : (n : Int) < base) :
    sizeText (.int n) (.int base) = .ok (toString n ++ " B") := by
  have hneg : ¬(Num.int n).isNegative = true := by simp [isNegative_int]
  have hlt : (Num.int n).lt (.int base) = true := by simpa [lt_int_int] using h
  rw [sizeText, if_neg hneg, if_pos hlt]
  rfl

include hbase hbound

/-- Any other size is shown in tenths of a unit. -/
theorem exists_sizeText {n : Nat} (h : base ≤ n) (hn : (n : Int) < overflowBound) :
    ∃ i left v,
      sizeText (.int n) (.int base) =
        .ok (tenthsText (scaledPlaces 1 v) ++ " " ++ byteUnits.getD (6 - left) "") ∧
      ScalesDown base 6 (rounded n) i ∧
      Promotes base ((quotient base)^[i] (rounded n)) (6 - i) left v := by
  have hneg : ¬(Num.int n).isNegative = true := by simp [isNegative_int]
  have hlt : ¬(Num.int n).lt (.int base) = true := by simpa [lt_int_int] using h
  obtain ⟨x, hx, hvalue⟩ := Num.exists_toBinary64_int (by omega) hn
  rw [Int.cast_natCast] at hvalue
  obtain ⟨i, y, hscale, hlast, hscales⟩ := hvalue.exists_scaleDown hbase hbound 6
  obtain ⟨z, left, v, hpromote, hz, hshown⟩ := hlast.exists_promote hbase hbound (6 - i)
  refine ⟨i, left, v, ?_, hscales, hshown⟩
  have hlast : scaleDown (.int base) (byteUnits.length - 1) x = .ok (y, 6 - i) := hscale
  rw [sizeText, if_neg hneg, if_neg hlt, hx, ← hz.scaledText]
  simp only [bind, Except.bind, pure, Except.pure, hlast, hpromote, Except.mapError]

end Steps

end ForgeDashboard
