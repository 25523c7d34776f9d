import Mathlib.Data.List.TakeWhile
import ForgeDashboard.Display.Size
import ForgeDashboard.Proofs.DurationReading

/-!
# Reading sizes back

A size is shown as a number of tenths, a blank and a unit.  The number is a decimal numeral, so
that whoever reads it, and knows what the unit is worth, has a size again: the one that was shown.

## Main definitions

* `tenthsText` : tenths as a numeral with one decimal, which is left out if it is zero.
* `ShownSize` : a number and the place of a unit.
* `shownSize?` : the size that a text reads as.

## Main results

* `dropZeroTenth_placesText` : what is shown of a number of tenths.
* `shownSize?_tenthsText`, `shownSize?_bytes` : what is shown is read.
-/

namespace ForgeDashboard

/-! ### Tenths -/

/-- A number of tenths as a numeral with one decimal, which is left out if it is zero. -/
def tenthsText (k : Nat) : String :=
  if k % 10 = 0 then toString (k / 10) else toString (k / 10) ++ "." ++ toString (k % 10)

theorem tenthsText_mul_ten (n : Nat) : tenthsText (10 * n) = toString n := by
  simp [tenthsText]

/-- The numeral of the last digit is that digit. -/
theorem toDigits_mod_ten (k : Nat) : Nat.toDigits 10 (k % 10) = [(k % 10).digitChar] :=
  Nat.toDigits_of_lt_base (Nat.mod_lt k (by decide))

theorem digitChar_mod_ten_eq_zero_iff (k : Nat) : (k % 10).digitChar = '0' ↔ k % 10 = 0 := by
  have hdigit : ∀ d < 10, d.digitChar = '0' ↔ d = 0 := by decide
  exact hdigit _ (Nat.mod_lt k (by decide))

theorem toList_tenthsText (k : Nat) :
    (tenthsText k).toList =
      if k % 10 = 0 then Nat.toDigits 10 (k / 10)
      else Nat.toDigits 10 (k / 10) ++ ['.', (k % 10).digitChar] := by
  unfold tenthsText
  split_ifs <;> simp [toDigits_mod_ten]

theorem toList_placesText_one (k : Nat) :
    (placesText 1 k).toList = Nat.toDigits 10 (k / 10) ++ ['.', (k % 10).digitChar] := by
  have hlength : (k % 10).repr.length = 1 := by
    rw [← String.length_toList, Nat.toList_repr, toDigits_mod_ten, List.length_singleton]
  simp [placesText, hlength, toDigits_mod_ten]

/-- Of one decimal everything is shown but a zero. -/
theorem dropZeroTenth_placesText (k : Nat) :
    String.ofList (dropZeroTenth (placesText 1 k).toList) = tenthsText k := by
  have hreverse : (placesText 1 k).toList.reverse =
      (k % 10).digitChar :: '.' :: (Nat.toDigits 10 (k / 10)).reverse := by
    rw [toList_placesText_one, List.reverse_append]
    rfl
  rw [← String.toList_inj, String.toList_ofList, toList_tenthsText, dropZeroTenth, hreverse]
  split_ifs with hzero
  · rw [(digitChar_mod_ten_eq_zero_iff k).mpr hzero]
    exact List.reverse_reverse _
  · have hchar := mt (digitChar_mod_ten_eq_zero_iff k).mp hzero
    split
    · next h => exact absurd (List.cons.inj h).1 hchar
    · exact toList_placesText_one k

/-! ### Reading -/

/-- A size as it is shown: a number, and the place of its unit among the units. -/
structure ShownSize where
  amount : Rat
  unit : Nat

/-- How many bytes are shown, where each unit is worth `base` of the one before. -/
def ShownSize.bytes (base : Rat) (size : ShownSize) : Rat := size.amount * base ^ size.unit

/-- The size that a text reads as: a decimal numeral, a blank and a unit. -/
def shownSize? (s : String) : Option ShownSize :=
  match s.toList.splitOn ' ' with
  | [number, unit] => do
    let amount ← readDecimal? number
    let place ← byteUnits.idxOf? (String.ofList unit)
    return ⟨amount.toRat, place⟩
  | _ => none

/-- The digits of a numeral are all there is of it. -/
theorem spanDigits_toDigits (n : Nat) :
    spanDigits (Nat.toDigits 10 n) = (Nat.toDigits 10 n, []) :=
  spanDigits_all fun _ => Nat.isDigit_of_mem_toDigits (by decide) (by decide)

theorem digitsValue_concat (cs : List Char) (c : Char) :
    digitsValue (cs ++ [c]) = 10 * digitsValue cs + digitsValue [c] := by
  simp [digitsValue]

/-- A numeral of tenths denotes tenths. -/
theorem exists_readDecimal?_tenthsText (k : Nat) :
    ∃ d, readDecimal? (tenthsText k).toList = some d ∧ d.toRat = k / 10 := by
  have hne : Nat.toDigits 10 (k / 10) ≠ [] := Nat.toDigits_ne_nil
  have hwhole := digitsValue_toDigits (k / 10)
  rw [toList_tenthsText]
  split_ifs with hzero
  · have hk : ((k / 10 : Nat) : Rat) * 10 = k := by
      exact_mod_cast Nat.div_mul_cancel (Nat.dvd_of_mod_eq_zero hzero)
    refine ⟨⟨k / 10, 0⟩, ?_, ?_⟩
    · simp [readDecimal?, spanDigits_toDigits, hne, readExponent?, hwhole]
    · simp only [Decimal.toRat, zpow_zero, mul_one]
      linarith
  · have hspan : spanDigits (Nat.toDigits 10 (k / 10) ++ ['.', (k % 10).digitChar]) =
        (Nat.toDigits 10 (k / 10), ['.', (k % 10).digitChar]) := by
      simpa using spanDigits_numeral (k / 10) (c := '.') (by decide) [(k % 10).digitChar]
    have hlast : spanDigits [(k % 10).digitChar] = ([(k % 10).digitChar], []) := by
      simpa [toDigits_mod_ten] using spanDigits_toDigits (k % 10)
    have hvalue : digitsValue (Nat.toDigits 10 (k / 10) ++ [(k % 10).digitChar]) = k := by
      rw [digitsValue_concat, hwhole, ← toDigits_mod_ten, digitsValue_toDigits]
      omega
    refine ⟨⟨k, -1⟩, ?_, ?_⟩
    · simp [readDecimal?, hspan, hlast, readExponent?, hvalue]
    · simp [Decimal.toRat, div_eq_mul_inv]

/-- No blank is part of a numeral of tenths. -/
theorem not_mem_tenthsText (k : Nat) : ' ' ∉ (tenthsText k).toList := by
  have hdigits : ∀ n, ' ' ∉ Nat.toDigits 10 n := fun n h =>
    absurd (Nat.isDigit_of_mem_toDigits (by decide) (by decide) h) (by decide)
  have hlast := hdigits (k % 10)
  rw [toDigits_mod_ten, List.mem_singleton] at hlast
  rw [toList_tenthsText]
  split_ifs
  · exact hdigits _
  · simp [hdigits, hlast]

/-- A number of tenths and a unit are read as they are shown. -/
theorem shownSize?_tenthsText (k : Nat) {u : Nat} (hu : u < byteUnits.length) :
    shownSize? (tenthsText k ++ " " ++ byteUnits.getD u "") = some ⟨k / 10, u⟩ := by
  obtain ⟨d, hread, hd⟩ := exists_readDecimal?_tenthsText k
  have hunits : ∀ u < byteUnits.length, ' ' ∉ (byteUnits.getD u "").toList ∧
      byteUnits.idxOf? (byteUnits.getD u "") = some u := by decide
  obtain ⟨hblank, hplace⟩ := hunits u hu
  generalize byteUnits.getD u "" = unit at hblank hplace
  have hsplit : (tenthsText k ++ " " ++ unit).toList.splitOn ' ' =
      [(tenthsText k).toList, unit.toList] := by
    have h : ([' '].intercalate [(tenthsText k).toList, unit.toList]).splitOn ' ' = _ :=
      List.splitOn_intercalate ' ' (by simp [not_mem_tenthsText, hblank]) (by simp)
    simpa [List.intercalate] using h
  rw [shownSize?, hsplit]
  simp [hread, hplace, hd]

/-- So is a number of bytes. -/
theorem shownSize?_bytes (n : Nat) : shownSize? (toString n ++ " B") = some ⟨n, 0⟩ := by
  have hread := shownSize?_tenthsText (10 * n) (u := 0) (by decide)
  rw [tenthsText_mul_ten, String.append_assoc] at hread
  simpa [byteUnits] using hread

end ForgeDashboard
