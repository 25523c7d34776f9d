import Mathlib.Data.List.TakeWhile
import ForgeDashboard.Proofs.ExactDoubles
import ForgeDashboard.Proofs.StandardText

/-!
# The grammar of numerals

A double is written as a numeral, which has an exact value, or as a word.  The grammar is stated on
lists of characters, apart from the reader: a sign, digits with an optional point among or beside
them, an exponent; or the words for an infinity and for not-a-number, in any letter case.  What is
read of a numeral is the double nearest to its value, also where the reader knows from the place of
the leading digit that this is zero or an infinity.

## Main definitions

* `Numeral.IsSign`, `Numeral.IsPower`, `Numeral.HasValue` : the parts of a numeral, and its value.
* `Numeral.Denotes` : the double that a numeral or a word denotes.

## Main results

* `Decimal.toBinary64_eq` : decimals of every size are rounded to the nearest double.
* `Numeral.readDecimal?_iff` : what is read of a numeral.
* `Numeral.ofNumeral?_eq_some_iff` : the reader accepts the grammar, and nothing else.
-/

namespace ForgeDashboard

/-! ### Rounding decimals -/

namespace Binary64

/-- Below half of the least positive double no digit is left. -/
theorem carried_of_lt_least {q : Rat} (hq : 0 ≤ q) (h : q < (2 : Rat) ^ (-1075 : Int)) :
    carried q = (0, -1074) := by
  have hplace : lastDigitExponent q = -1074 := by
    refine le_antisymm (lastDigitExponent_le hq le_rfl (h.trans ?_)) (le_lastDigitExponent q)
    exact zpow_lt_zpow_right₀ one_lt_two (by decide)
  have hhalf : (1 / 2 : Rat) * (2 : Rat) ^ (-1074 : Int) = (2 : Rat) ^ (-1075 : Int) := by
    rw [show (-1074 : Int) = -1075 + 1 from rfl, zpow_add_one₀ two_ne_zero]
    ring
  have hdigits : roundHalfEven (scaled q) = 0 := by
    refine roundHalfEven_eq_of_abs_lt ?_
    rw [Int.cast_zero, sub_zero, abs_of_nonneg (scaled_nonneg hq), scaled, hplace,
      div_lt_iff₀ (by positivity), hhalf]
    exact h
  rw [carried, hdigits, hplace]
  rfl

/-- There everything is rounded to zero. -/
theorem ofMagnitude_of_lt_least (s : Bool) {q : Rat} (hq : 0 ≤ q)
    (h : q < (2 : Rat) ^ (-1075 : Int)) : ofMagnitude s q = ofMagnitude s 0 := by
  have hzero : carried 0 = (0, -1074) := carried_of_lt_least le_rfl (by positivity)
  have hcarried : carried q = carried 0 := (carried_of_lt_least hq h).trans hzero.symm
  rw [ofMagnitude_eq, ofMagnitude_eq, hcarried]

end Binary64

namespace Decimal

theorem toRat_nonneg (d : Decimal) : 0 ≤ d.toRat := by
  unfold toRat
  positivity

/-- A decimal is at least the power of ten of its leading digit. -/
theorem ten_zpow_order_le {d : Decimal} (hd : d.digits ≠ 0) : (10 : Rat) ^ d.order ≤ d.toRat := by
  have hpos : 0 < digitCount d.digits := Nat.length_toDigits_pos
  have hdigits : (10 : Rat) ^ (digitCount d.digits - 1) ≤ d.digits := by
    exact_mod_cast pow_le_of_ne_zero hd
  rw [order, toRat, zpow_add₀ (by norm_num),
    show (digitCount d.digits : Int) - 1 = ((digitCount d.digits - 1 : Nat) : Int) by omega,
    zpow_natCast]
  gcongr

/-- It is less than the next one. -/
theorem toRat_lt_ten_zpow (d : Decimal) : d.toRat < (10 : Rat) ^ (d.order + 1) := by
  have hdigits : (d.digits : Rat) < 10 ^ digitCount d.digits := by
    exact_mod_cast lt_pow_digitCount d.digits
  rw [order, toRat, show (digitCount d.digits : Int) - 1 + d.scale + 1 =
    digitCount d.digits + d.scale by ring, zpow_add₀ (by norm_num), zpow_natCast]
  gcongr

theorem two_pow_le_ten_pow {m n : Nat} (h : m ≤ 3 * n) : (2 : Rat) ^ m ≤ 10 ^ n :=
  calc (2 : Rat) ^ m
      ≤ 2 ^ (3 * n) := pow_le_pow_right₀ one_le_two h
    _ = 8 ^ n := by rw [pow_mul]; norm_num
    _ ≤ 10 ^ n := pow_le_pow_left₀ (by norm_num) (by norm_num) n

/-- The double nearest to a decimal is found also where it is told by the leading digit. -/
theorem toBinary64_eq (negative : Bool) (d : Decimal) :
    d.toBinary64 negative = Binary64.ofMagnitude negative d.toRat := by
  unfold toBinary64
  by_cases hzero : d.digits = 0
  · simp [hzero, toRat]
  by_cases hsmall : d.order < -400
  · have hleast : (10 : Rat) ^ (-400 : Int) < (2 : Rat) ^ (-1075 : Int) :=
      inv_strictAnti₀ (by positivity) <|
        (pow_lt_pow_right₀ one_lt_two (by decide : 1075 < 1076)).trans_le
          (two_pow_le_ten_pow (n := 400) (by decide))
    have hlt : d.toRat < (2 : Rat) ^ (-1075 : Int) :=
      (d.toRat_lt_ten_zpow.trans_le (zpow_le_zpow_right₀ (by norm_num) (by omega))).trans hleast
    rw [Binary64.ofMagnitude_of_lt_least negative d.toRat_nonneg hlt]
    simp [hsmall]
  by_cases hlarge : 400 < d.order
  · have hbound : (overflowBound : Rat) ≤ (10 : Rat) ^ (400 : Int) := by
      have hle : (overflowBound : Rat) ≤ (2 : Rat) ^ 1024 := by
        rw [overflowBound, Int.cast_sub, Int.cast_pow, Int.cast_pow, Int.cast_ofNat]
        exact sub_le_self _ (by positivity)
      exact hle.trans (two_pow_le_ten_pow (n := 400) (by decide))
    have hle : (overflowBound : Rat) ≤ d.toRat :=
      (hbound.trans (zpow_le_zpow_right₀ (by norm_num) hlarge.le)).trans (ten_zpow_order_le hzero)
    rw [Binary64.ofMagnitude_of_le negative d.toRat_nonneg hle]
    simp [hzero, hsmall, hlarge]
  · simp [hzero, hsmall, hlarge]

end Decimal

namespace Numeral

open Json (IsDigits)

/-! ### The grammar -/

/-- A sign, which may be missing, and whether it is that of a negative number. -/
inductive IsSign : Bool → List Char → Prop
  | missing : IsSign false []
  | plus : IsSign false ['+']
  | minus : IsSign true ['-']

/-- The exponent of a numeral, which may be missing, and its value. -/
inductive IsPower : Int → List Char → Prop
  | missing : IsPower 0 []
  | marked {mark : Char} {negative : Bool} {sign ds : List Char}
      (hmark : mark = 'e' ∨ mark = 'E') (hsign : IsSign negative sign) (hds : IsDigits ds) :
      IsPower (if negative then -(digitsValue ds : Int) else digitsValue ds) (mark :: (sign ++ ds))

/-- A numeral without a sign, and its value. -/
inductive HasValue : Rat → List Char → Prop
  | whole {ds es : List Char} {e : Int} (hds : IsDigits ds) (hpower : IsPower e es) :
      HasValue (digitsValue ds * (10 : Rat) ^ e) (ds ++ es)
  | pointed {whole fraction es : List Char} {e : Int} (hds : IsDigits (whole ++ fraction))
      (hpower : IsPower e es) :
      HasValue (digitsValue (whole ++ fraction) * (10 : Rat) ^ (e - fraction.length))
        (whole ++ '.' :: (fraction ++ es))

/-- A numeral or a word, and the double that it denotes: the one nearest to the value. -/
inductive Denotes : Binary64 → List Char → Prop
  | numeral {negative : Bool} {sign cs : List Char} {q : Rat} (hsign : IsSign negative sign)
      (h : HasValue q cs) : Denotes (.ofMagnitude negative q) (sign ++ cs)
  | infinity {negative : Bool} {sign cs : List Char} (hsign : IsSign negative sign)
      (h : cs.map Char.toLower = "inf".toList ∨ cs.map Char.toLower = "infinity".toList) :
      Denotes (.inf negative) (sign ++ cs)
  | nan {negative : Bool} {sign cs : List Char} (hsign : IsSign negative sign)
      (h : cs.map Char.toLower = "nan".toList) : Denotes .nan (sign ++ cs)

/-! ### Letters and digits -/

theorem isUpper_iff {c : Char} : c.isUpper = true ↔ 65 ≤ c.toNat ∧ c.toNat ≤ 90 :=
  decide_eq_true_iff

theorem isLower_iff {c : Char} : c.isLower = true ↔ 97 ≤ c.toNat ∧ c.toNat ≤ 122 :=
  Bool.and_eq_true_iff.trans (and_congr decide_eq_true_iff decide_eq_true_iff)

theorem isAlpha_iff {c : Char} : c.isAlpha = true ↔ c.isUpper = true ∨ c.isLower = true :=
  Bool.or_eq_true_iff

theorem isAlphanum_iff {c : Char} : c.isAlphanum = true ↔ c.isAlpha = true ∨ c.isDigit = true :=
  Bool.or_eq_true_iff

theorem isAlphanum_of_isDigit {c : Char} (h : c.isDigit = true) : c.isAlphanum = true :=
  isAlphanum_iff.2 (.inr h)

theorem isAlpha_eq_false_of_isDigit {c : Char} (h : c.isDigit = true) : c.isAlpha = false := by
  have hlast : c.toNat ≤ 57 := (Char.isDigit_iff_toNat.1 h).2
  by_contra halpha
  rw [Bool.not_eq_false, isAlpha_iff, isUpper_iff, isLower_iff] at halpha
  omega

/-- What is a letter in small case is a letter. -/
theorem isAlpha_of_isLower_toLower {c : Char} (h : c.toLower.isLower = true) :
    c.isAlpha = true := by
  by_cases hupper : c.isUpper = true
  · exact isAlpha_iff.2 (.inl hupper)
  · have hsame : c.toLower = c := dif_neg fun h => hupper (decide_eq_true h)
    rw [hsame] at h
    exact isAlpha_iff.2 (.inr h)

theorem isWhite_eq_false_of_isAlphanum {c : Char} (h : c.isAlphanum = true) :
    isWhite c = false := by
  have hrange : 48 ≤ c.toNat ∧ c.toNat ≤ 122 := by
    rw [isAlphanum_iff, isAlpha_iff, isUpper_iff, isLower_iff] at h
    rcases h with (h | h) | h
    · omega
    · omega
    · obtain ⟨hfirst, hlast⟩ := Char.isDigit_iff_toNat.1 h
      exact ⟨hfirst, hlast.trans (by decide)⟩
  simp only [isWhite, wideSpaces, List.contains_cons, List.contains_nil, Bool.or_false,
    Bool.or_eq_false_iff, Bool.and_eq_false_iff, decide_eq_false_iff_not, beq_eq_false_iff_ne]
  omega

/-! ### Digits and signs -/

/-- Digits are taken apart from what follows them. -/
theorem spanDigits_parts (cs : List Char) :
    (spanDigits cs).1 ++ (spanDigits cs).2 = cs ∧ (∀ c ∈ (spanDigits cs).1, c.isDigit = true) ∧
      ∀ c ∈ (spanDigits cs).2.head?, c.isDigit = false := by
  refine ⟨List.takeWhile_append_dropWhile, fun _ => List.mem_takeWhile_imp, fun c hc => ?_⟩
  have hnot := List.head?_dropWhile_not Char.isDigit cs
  rwa [show (cs.dropWhile Char.isDigit).head? = some c from hc] at hnot

/-- A sign is taken off. -/
theorem splitSign_append {negative : Bool} {sign cs : List Char} (h : IsSign negative sign)
    (hcs : ∀ c ∈ cs.head?, c ≠ '-' ∧ c ≠ '+') : splitSign (sign ++ cs) = (negative, cs) := by
  cases h with
  | plus => rfl
  | minus => rfl
  | missing =>
    rw [List.nil_append, splitSign.eq_def]
    split
    · exact absurd rfl (hcs '-' rfl).1
    · exact absurd rfl (hcs '+' rfl).2
    · rfl

/-- What is taken off is a sign. -/
theorem exists_sign (cs : List Char) :
    ∃ sign, IsSign (splitSign cs).1 sign ∧ sign ++ (splitSign cs).2 = cs := by
  rw [splitSign.eq_def]
  split
  · exact ⟨['-'], .minus, rfl⟩
  · exact ⟨['+'], .plus, rfl⟩
  · exact ⟨[], .missing, rfl⟩

theorem ne_sign_of_isAlphanum {c : Char} (h : c.isAlphanum = true) : c ≠ '-' ∧ c ≠ '+' := by
  constructor
  all_goals
    rintro rfl
    cases h

/-! ### Exponents -/

/-- The reader of exponents accepts them and nothing else. -/
theorem readExponent?_eq_some_iff {es : List Char} {e : Int} :
    readExponent? es = some e ↔ IsPower e es := by
  constructor
  · intro h
    rcases es with _ | ⟨mark, rest⟩
    · cases h
      exact .missing
    · simp only [readExponent?, Bool.or_eq_true, decide_eq_true_eq, List.isEmpty_iff,
        Bool.not_eq_true', List.isEmpty_eq_false_iff] at h
      split at h
      case isFalse => cases h
      case isTrue hmark =>
        split at h
        case isTrue => cases h
        case isFalse hempty =>
          rw [not_or, not_not] at hempty
          obtain ⟨sign, hsign, hrest⟩ := exists_sign rest
          obtain ⟨hparts, hall, -⟩ := spanDigits_parts (splitSign rest).2
          have hpower := IsPower.marked hmark hsign ⟨hempty.1, hall⟩
          rw [hempty.2, List.append_nil] at hparts
          rw [hparts, hrest] at hpower
          rw [hparts] at h
          obtain rfl := Option.some.inj h
          exact hpower
  · rintro (_ | ⟨hmark, hsign, hds⟩)
    · rfl
    · have hsplit := splitSign_append hsign fun c hc =>
        ne_sign_of_isAlphanum (isAlphanum_of_isDigit (hds.2 c (List.mem_of_mem_head? hc)))
      simp [readExponent?, hmark, hsplit, spanDigits_all hds.2, hds.1]

/-- An exponent does not go on with digits or a point. -/
theorem IsPower.head {e : Int} {es : List Char} (h : IsPower e es) :
    ∀ c ∈ es.head?, c.isDigit = false ∧ c ≠ '.' := by
  cases h with
  | missing => simp
  | marked hmark =>
    rintro c ⟨⟩
    rcases hmark with rfl | rfl <;> decide

/-! ### Numerals -/

/-- What is read of digits without a point. -/
theorem readDecimal?_whole {ds es : List Char} (hds : ∀ d ∈ ds, d.isDigit = true)
    (hes : ∀ c ∈ es.head?, c.isDigit = false ∧ c ≠ '.') :
    readDecimal? (ds ++ es) =
      if ds = [] then none else (readExponent? es).map fun e => ⟨digitsValue ds, e⟩ := by
  rcases es with _ | ⟨c, es⟩
  · simp [readDecimal?, spanDigits_all hds]
  · have hspan := spanDigits_append hds fun c hc => (hes c hc).1
    have hpoint : c ≠ '.' := (hes c rfl).2
    simp [readDecimal?, hspan, hpoint]

/-- What is read of digits around a point. -/
theorem readDecimal?_pointed {whole fraction es : List Char}
    (hwhole : ∀ d ∈ whole, d.isDigit = true) (hfraction : ∀ d ∈ fraction, d.isDigit = true)
    (hes : ∀ c ∈ es.head?, c.isDigit = false) :
    readDecimal? (whole ++ '.' :: (fraction ++ es)) =
      if whole ++ fraction = [] then none
      else (readExponent? es).map fun e =>
        ⟨digitsValue (whole ++ fraction), e - fraction.length⟩ := by
  have hspan : spanDigits (whole ++ '.' :: (fraction ++ es)) = (whole, '.' :: (fraction ++ es)) :=
    spanDigits_append hwhole (by simp)
  simp [readDecimal?, hspan, spanDigits_append hfraction hes]

/-- Every text is digits, then either a point and digits or no point, then something else. -/
theorem exists_parts (cs : List Char) :
    (∃ ds es, cs = ds ++ es ∧ (∀ d ∈ ds, d.isDigit = true) ∧
      ∀ c ∈ es.head?, c.isDigit = false ∧ c ≠ '.') ∨
    ∃ whole fraction es, cs = whole ++ '.' :: (fraction ++ es) ∧
      (∀ d ∈ whole, d.isDigit = true) ∧ (∀ d ∈ fraction, d.isDigit = true) ∧
      ∀ c ∈ es.head?, c.isDigit = false := by
  obtain ⟨hparts, hall, hhead⟩ := spanDigits_parts cs
  by_cases hpoint : (spanDigits cs).2.head? = some '.'
  · obtain ⟨rest, hrest⟩ := List.head?_eq_some_iff.1 hpoint
    obtain ⟨hparts', hall', hhead'⟩ := spanDigits_parts rest
    refine .inr ⟨_, _, _, ?_, hall, hall', hhead'⟩
    rw [hparts', ← hrest, hparts]
  · refine .inl ⟨_, _, hparts.symm, hall, fun c hc => ⟨hhead c hc, ?_⟩⟩
    rintro rfl
    exact hpoint hc

/-- The reader of numerals accepts them and nothing else, and reads their values. -/
theorem readDecimal?_iff {cs : List Char} {q : Rat} :
    (∃ d, readDecimal? cs = some d ∧ d.toRat = q) ↔ HasValue q cs := by
  constructor
  · rintro ⟨d, h, rfl⟩
    obtain ⟨ds, es, rfl, hds, hes⟩ | ⟨whole, fraction, es, rfl, hwhole, hfraction, hes⟩ :=
      exists_parts cs
    · rw [readDecimal?_whole hds hes] at h
      split at h
      case isTrue => cases h
      case isFalse hne =>
        obtain ⟨e, he, rfl⟩ := Option.map_eq_some_iff.1 h
        exact .whole ⟨hne, hds⟩ (readExponent?_eq_some_iff.1 he)
    · rw [readDecimal?_pointed hwhole hfraction hes] at h
      split at h
      case isTrue => cases h
      case isFalse hne =>
        obtain ⟨e, he, rfl⟩ := Option.map_eq_some_iff.1 h
        refine .pointed ⟨hne, fun d hd => ?_⟩ (readExponent?_eq_some_iff.1 he)
        exact (List.mem_append.1 hd).elim (hwhole d) (hfraction d)
  · rintro (⟨hds, hpower⟩ | ⟨hds, hpower⟩)
    · rw [readDecimal?_whole hds.2 hpower.head, if_neg hds.1, readExponent?_eq_some_iff.2 hpower]
      exact ⟨_, rfl, rfl⟩
    · rw [readDecimal?_pointed (fun d hd => hds.2 d (List.mem_append_left _ hd))
        (fun d hd => hds.2 d (List.mem_append_right _ hd)) fun c hc => (hpower.head c hc).1,
        if_neg hds.1, readExponent?_eq_some_iff.2 hpower]
      exact ⟨_, rfl, rfl⟩

/-- A numeral starts with a digit or a point. -/
theorem HasValue.head {q : Rat} {cs : List Char} (h : HasValue q cs) :
    ∃ c, cs.head? = some c ∧ (c.isDigit = true ∨ c = '.') := by
  cases h with
  | whole hds =>
    obtain ⟨d, ds, rfl⟩ := List.exists_cons_of_ne_nil hds.1
    exact ⟨d, rfl, .inl (hds.2 d List.mem_cons_self)⟩
  | @pointed whole _ _ _ hds =>
    rcases whole with _ | ⟨d, ds⟩
    · exact ⟨'.', rfl, .inr rfl⟩
    · exact ⟨d, rfl, .inl (hds.2 d (by simp))⟩

/-! ### Words -/

/-- The two kinds of words. -/
theorem readNumberWord?_eq_some_iff {negative : Bool} {cs : List Char} {x : Binary64} :
    readNumberWord? negative cs = some x ↔
      ((cs.map Char.toLower = "inf".toList ∨ cs.map Char.toLower = "infinity".toList) ∧
        x = .inf negative) ∨ (cs.map Char.toLower = "nan".toList ∧ x = .nan) := by
  have htext : ∀ word : String,
      String.ofList (cs.map Char.toLower) = word ↔ cs.map Char.toLower = word.toList :=
    fun word => by rw [← String.toList_inj, String.toList_ofList]
  simp only [readNumberWord?, Bool.or_eq_true, decide_eq_true_eq, htext]
  split
  case isTrue hinf =>
    have hnan : cs.map Char.toLower ≠ "nan".toList := by
      intro h
      rw [h] at hinf
      exact absurd hinf (by decide)
    simp only [hinf, hnan, true_and, false_and, or_false, Option.some.injEq, eq_comm]
  case isFalse hinf =>
    simp only [hinf, false_and, false_or]
    split
    case isTrue hnan => simp only [hnan, true_and, Option.some.injEq, eq_comm]
    case isFalse hnan => simp only [hnan, false_and, reduceCtorEq]

/-- A text that is a word of small letters in some letter case has letters only. -/
theorem isAlpha_of_map_toLower {cs word : List Char} (h : cs.map Char.toLower = word)
    (hword : word.all Char.isLower = true) : ∀ c ∈ cs, c.isAlpha = true := by
  intro c hc
  refine isAlpha_of_isLower_toLower (List.all_eq_true.1 hword _ ?_)
  rw [← h]
  exact List.mem_map_of_mem hc

/-- A word has letters only. -/
theorem isAlpha_of_word {negative : Bool} {cs : List Char} {x : Binary64}
    (h : readNumberWord? negative cs = some x) : ∀ c ∈ cs, c.isAlpha = true := by
  obtain ⟨h | h, -⟩ | ⟨h, -⟩ := readNumberWord?_eq_some_iff.1 h
  all_goals exact isAlpha_of_map_toLower h (by decide)

/-- A numeral is not a word. -/
theorem HasValue.readNumberWord?_eq_none {q : Rat} {cs : List Char} (h : HasValue q cs)
    (negative : Bool) : readNumberWord? negative cs = none := by
  refine Option.eq_none_iff_forall_ne_some.2 fun x hx => ?_
  obtain ⟨c, hhead, hc⟩ := h.head
  have halpha := isAlpha_of_word hx c (List.mem_of_mem_head? hhead)
  rcases hc with hdigit | rfl
  · rw [isAlpha_eq_false_of_isDigit hdigit] at halpha
    cases halpha
  · cases halpha

/-! ### Doubles -/

/-- A word is read behind its sign. -/
theorem ofNumeral?_of_word {negative : Bool} {sign cs : List Char} {x : Binary64}
    (hsign : IsSign negative sign) (hx : readNumberWord? negative cs = some x) :
    Binary64.ofNumeral? (sign ++ cs) = some x := by
  have hne : ∀ c ∈ cs.head?, c ≠ '-' ∧ c ≠ '+' := by
    intro c hc
    have halpha := isAlpha_of_word hx c (List.mem_of_mem_head? hc)
    exact ne_sign_of_isAlphanum (isAlphanum_iff.2 (.inl halpha))
  simp only [Binary64.ofNumeral?, splitSign_append hsign hne, hx]

/-- A numeral is read behind its sign, as the nearest double. -/
theorem ofNumeral?_of_hasValue {negative : Bool} {sign cs : List Char} {q : Rat}
    (hsign : IsSign negative sign) (h : HasValue q cs) :
    Binary64.ofNumeral? (sign ++ cs) = some (.ofMagnitude negative q) := by
  have hne : ∀ c ∈ cs.head?, c ≠ '-' ∧ c ≠ '+' := by
    obtain ⟨c, hhead, hc⟩ := h.head
    rintro d hd
    obtain rfl := Option.some.inj (hhead.symm.trans hd)
    rcases hc with hdigit | rfl
    · exact ne_sign_of_isAlphanum (isAlphanum_of_isDigit hdigit)
    · decide
  obtain ⟨d, hd, hvalue⟩ := readDecimal?_iff.2 h
  simp only [Binary64.ofNumeral?, splitSign_append hsign hne, h.readNumberWord?_eq_none, hd,
    Option.map_some, d.toBinary64_eq, hvalue]

/-- The reader of doubles accepts numerals and words and nothing else, and reads what they
denote. -/
theorem ofNumeral?_eq_some_iff {cs : List Char} {x : Binary64} :
    Binary64.ofNumeral? cs = some x ↔ Denotes x cs := by
  constructor
  · intro h
    obtain ⟨sign, hsign, hrest⟩ := exists_sign cs
    rw [← hrest]
    simp only [Binary64.ofNumeral?] at h
    split at h
    case h_1 y hword =>
      obtain rfl := Option.some.inj h
      obtain ⟨hinf, rfl⟩ | ⟨hnan, rfl⟩ := readNumberWord?_eq_some_iff.1 hword
      · exact .infinity hsign hinf
      · exact .nan hsign hnan
    case h_2 =>
      obtain ⟨d, hd, rfl⟩ := Option.map_eq_some_iff.1 h
      rw [d.toBinary64_eq]
      exact .numeral hsign (readDecimal?_iff.1 ⟨d, hd, rfl⟩)
  · intro h
    cases h with
    | numeral hsign h => exact ofNumeral?_of_hasValue hsign h
    | infinity hsign h =>
      exact ofNumeral?_of_word hsign (readNumberWord?_eq_some_iff.2 (.inl ⟨h, rfl⟩))
    | nan hsign h =>
      exact ofNumeral?_of_word hsign (readNumberWord?_eq_some_iff.2 (.inr ⟨h, rfl⟩))

/-! ### Characters -/

/-- The characters of numerals and words. -/
def IsNumeralChar (c : Char) : Prop := c.isAlphanum = true ∨ c = '.' ∨ c = '+' ∨ c = '-'

theorem IsSign.isNumeralChar {negative : Bool} {sign : List Char} (h : IsSign negative sign) :
    ∀ c ∈ sign, IsNumeralChar c := by
  cases h <;> simp [IsNumeralChar]

theorem IsPower.isNumeralChar {e : Int} {es : List Char} (h : IsPower e es) :
    ∀ c ∈ es, IsNumeralChar c := by
  cases h with
  | missing => simp
  | marked hmark hsign hds =>
    refine List.forall_mem_cons.2 ⟨?_, List.forall_mem_append.2 ⟨hsign.isNumeralChar, fun d hd =>
      .inl (isAlphanum_of_isDigit (hds.2 d hd))⟩⟩
    rcases hmark with rfl | rfl <;> exact .inl (by decide)

theorem HasValue.isNumeralChar {q : Rat} {cs : List Char} (h : HasValue q cs) :
    ∀ c ∈ cs, IsNumeralChar c := by
  cases h with
  | whole hds hpower =>
    exact List.forall_mem_append.2
      ⟨fun d hd => .inl (isAlphanum_of_isDigit (hds.2 d hd)), hpower.isNumeralChar⟩
  | pointed hds hpower =>
    obtain ⟨hwhole, hfraction⟩ := List.forall_mem_append.1 hds.2
    exact List.forall_mem_append.2 ⟨fun d hd => .inl (isAlphanum_of_isDigit (hwhole d hd)),
      List.forall_mem_cons.2 ⟨.inr (.inl rfl), List.forall_mem_append.2
        ⟨fun d hd => .inl (isAlphanum_of_isDigit (hfraction d hd)), hpower.isNumeralChar⟩⟩⟩

/-- What denotes a double has no other characters. -/
theorem Denotes.isNumeralChar {x : Binary64} {cs : List Char} (h : Denotes x cs) :
    ∀ c ∈ cs, IsNumeralChar c := by
  have hword : ∀ {cs word : List Char}, cs.map Char.toLower = word →
      word.all Char.isLower = true → ∀ c ∈ cs, IsNumeralChar c := fun h hword c hc =>
    .inl (isAlphanum_iff.2 (.inl (isAlpha_of_map_toLower h hword c hc)))
  cases h with
  | numeral hsign h => exact List.forall_mem_append.2 ⟨hsign.isNumeralChar, h.isNumeralChar⟩
  | infinity hsign h =>
    refine List.forall_mem_append.2 ⟨hsign.isNumeralChar, ?_⟩
    rcases h with h | h <;> exact hword h (by decide)
  | nan hsign h => exact List.forall_mem_append.2 ⟨hsign.isNumeralChar, hword h (by decide)⟩

/-- White space is not among them, and the underscore is not. -/
theorem IsNumeralChar.isWhite_and_ne {c : Char} (h : IsNumeralChar c) :
    isWhite c = false ∧ c ≠ '_' := by
  obtain h | rfl | rfl | rfl := h
  · refine ⟨isWhite_eq_false_of_isAlphanum h, ?_⟩
    rintro rfl
    cases h
  all_goals decide

end Numeral

end ForgeDashboard
