import ForgeDashboard.Display.Duration
import ForgeDashboard.Number.Numeral
import ForgeDashboard.Proofs.Overflow

/-!
# Reading durations back

A duration is shown as components, each a numeral and a unit, from the first component that is not
zero on.  Whoever adds up what the components are worth gets the number of whole seconds that was
shown, because the components that are left out are worth nothing.

## Main definitions

* `Duration.total` : a duration in seconds.
* `secondsOf?` : the number of seconds that a text of components denotes.
* `durationBound` : from where on a duration is too long to be written.

## Main results

* `secondsOf?_text`, `secondsOf?_durationText_float` : the text of a duration denotes its seconds.
-/

namespace ForgeDashboard

/-! ### Reading -/

/-- How many seconds a unit is worth. -/
def unitSeconds? : List Char → Option Nat
  | ['d'] => some 86400
  | ['h'] => some 3600
  | ['m'] => some 60
  | ['s'] => some 1
  | _ => none

/-- The number of seconds that a component denotes: a numeral, and a unit after it. -/
def componentSeconds? (word : List Char) : Option Nat :=
  let read := spanDigits word
  if read.1.isEmpty then none else (unitSeconds? read.2).map (digitsValue read.1 * ·)

/-- The number of seconds that a text denotes: the sum of its components. -/
def secondsOf? (s : String) : Option Nat :=
  ((s.toList.splitOn ' ').mapM componentSeconds?).map List.sum

/-! ### Components -/

theorem digitsValue_toDigits (n : Nat) : digitsValue (Nat.toDigits 10 n) = n :=
  Nat.ofDigitChars_ten_toDigits

theorem isDigit_of_mem_numeral {n : Nat} {c : Char} (h : c ∈ (toString n).toList) : c.isDigit := by
  rw [Nat.toString_eq_ofList_toDigits, String.toList_ofList] at h
  exact Nat.isDigit_of_mem_toDigits (by decide) (by decide) h

/-- The text of an integer consists of digits after a sign. -/
theorem isDigit_of_mem_toString {n : Int} {c : Char} (h : c ∈ (toString n).toList) :
    c = '-' ∨ c.isDigit := by
  rcases n with m | m
  · exact .inr (isDigit_of_mem_numeral h)
  · have hneg : toString (Int.negSucc m) = "-" ++ toString (m + 1) := rfl
    rw [hneg, String.toList_append, List.mem_append] at h
    rcases h with h | h
    · exact .inl (List.mem_singleton.mp h)
    · exact .inr (isDigit_of_mem_numeral h)

/-- A text with other characters is not that of an integer. -/
theorem toString_ne_of_mem {n : Int} {s : String} {c : Char} (hc : c ∈ s.toList) (hsign : c ≠ '-')
    (hdigit : c.isDigit = false) : toString n ≠ s := by
  rintro rfl
  rcases isDigit_of_mem_toString hc with h | h
  · exact hsign h
  · rw [hdigit] at h
    cases h

/-- Digits end where something else begins. -/
theorem spanDigits_append {ds : List Char} (hds : ∀ d ∈ ds, d.isDigit = true) {rest : List Char}
    (hrest : ∀ c ∈ rest.head?, c.isDigit = false) : spanDigits (ds ++ rest) = (ds, rest) := by
  rw [spanDigits, List.takeWhile_append_of_pos hds, List.dropWhile_append_of_pos hds]
  cases rest with
  | nil => simp
  | cons c rest => simp [hrest c rfl]

/-- Digits alone are taken whole. -/
theorem spanDigits_all {ds : List Char} (hds : ∀ d ∈ ds, d.isDigit = true) :
    spanDigits ds = (ds, []) := by
  have hspan : spanDigits (ds ++ []) = (ds, []) := spanDigits_append hds (by simp)
  rwa [List.append_nil] at hspan

/-- The digits of a numeral end where something else begins. -/
theorem spanDigits_numeral (n : Nat) {c : Char} (hc : c.isDigit = false) (rest : List Char) :
    spanDigits ((toString n).toList ++ c :: rest) = ((toString n).toList, c :: rest) :=
  spanDigits_append (fun _ => isDigit_of_mem_numeral) (by simpa using hc)

/-- The units of durations. -/
def durationUnits : List String := ["d", "h", "m", "s"]

/-- What a component is worth, in seconds. -/
def componentWorth (part : Nat × String) : Nat := part.1 * (unitSeconds? part.2.toList).getD 0

/-- A unit is one letter, which has a worth. -/
theorem exists_of_mem_durationUnits {unit : String} (h : unit ∈ durationUnits) :
    ∃ c worth, unit.toList = [c] ∧ c.isDigit = false ∧ c ≠ ' ' ∧ unitSeconds? [c] = some worth := by
  simp only [durationUnits, List.mem_cons, List.not_mem_nil, or_false] at h
  rcases h with rfl | rfl | rfl | rfl
  · exact ⟨'d', _, rfl, rfl, by decide, rfl⟩
  · exact ⟨'h', _, rfl, rfl, by decide, rfl⟩
  · exact ⟨'m', _, rfl, rfl, by decide, rfl⟩
  · exact ⟨'s', _, rfl, rfl, by decide, rfl⟩

/-- A component denotes as many of its unit as its numeral says. -/
theorem componentSeconds?_of_unit {part : Nat × String} (h : part.2 ∈ durationUnits) :
    componentSeconds? (toString part.1 ++ part.2).toList = some (componentWorth part) := by
  obtain ⟨c, worth, hunit, hc, -, hworth⟩ := exists_of_mem_durationUnits h
  have hvalue : digitsValue (toString part.1).toList = part.1 := by
    rw [Nat.toString_eq_ofList_toDigits, String.toList_ofList, digitsValue_toDigits]
  have hne : ¬(toString part.1).toList.isEmpty = true := by
    rw [Nat.toString_eq_ofList_toDigits, String.toList_ofList, List.isEmpty_iff]
    exact Nat.toDigits_ne_nil
  rw [String.toList_append, hunit]
  simp only [componentSeconds?, spanDigits_numeral part.1 hc, hvalue, if_neg hne, componentWorth,
    hunit, hworth, Option.map_some, Option.getD_some]

/-- Components that are set apart by blanks are read one by one. -/
theorem secondsOf?_components {parts : List (Nat × String)} (hne : parts ≠ [])
    (hparts : ∀ part ∈ parts, part.2 ∈ durationUnits) :
    secondsOf? (" ".intercalate (parts.map fun part => toString part.1 ++ part.2)) =
      some (parts.map componentWorth).sum := by
  have hblank : ∀ word ∈ parts.map (fun part => (toString part.1 ++ part.2).toList),
      ' ' ∉ word := by
    intro word hword hmem
    obtain ⟨part, hpart, rfl⟩ := List.mem_map.mp hword
    obtain ⟨c, -, hunit, -, hc, -⟩ := exists_of_mem_durationUnits (hparts part hpart)
    rw [String.toList_append, hunit, List.mem_append, List.mem_singleton] at hmem
    rcases hmem with hmem | hmem
    · exact absurd (isDigit_of_mem_numeral hmem) (by decide)
    · exact hc hmem.symm
  have hread : (parts.map fun part => (toString part.1 ++ part.2).toList).mapM
      componentSeconds? = some (parts.map componentWorth) := by
    clear hne hblank
    induction parts with
    | nil => rfl
    | cons part parts ih =>
      obtain ⟨hpart, hparts⟩ := List.forall_mem_cons.mp hparts
      rw [List.map_cons, List.mapM_cons, componentSeconds?_of_unit hpart, ih hparts]
      rfl
  rw [secondsOf?, String.toList_intercalate, List.map_map]
  have hsplit := List.splitOn_intercalate ' ' hblank (by simpa using hne)
  exact (congrArg (fun words => (words.mapM componentSeconds?).map List.sum) hsplit).trans
    (congrArg (Option.map List.sum) hread)

/-- Components that are zero are worth nothing. -/
theorem sum_worth_dropWhile (parts : List (Nat × String)) :
    ((parts.dropWhile (·.1 == 0)).map componentWorth).sum = (parts.map componentWorth).sum := by
  induction parts with
  | nil => rfl
  | cons part parts ih =>
    by_cases hzero : part.1 = 0
    · simp [hzero, ih, componentWorth]
    · simp [hzero]

/-! ### Durations -/

/-- The least number of seconds whose days have too many digits to be written. -/
def durationBound : Nat := 86400 * 10 ^ Num.numeralLimit

/-- No finite double is that large. -/
theorem overflowBound_le_durationBound : overflowBound ≤ durationBound :=
  calc overflowBound
      ≤ 10 ^ Num.numeralLimit := Num.overflowBound_le_ten_pow
    _ ≤ 86400 * 10 ^ Num.numeralLimit := le_mul_of_one_le_left (by positivity) (by decide)
    _ = durationBound := by rw [durationBound, Nat.cast_mul, Nat.cast_pow, Nat.cast_ofNat,
      Nat.cast_ofNat]

namespace Duration

/-- A duration in seconds. -/
def total (d : Duration) : Nat := 86400 * d.days + 3600 * d.hours + 60 * d.minutes + d.seconds

/-- The components of a number of seconds make it up. -/
theorem total_ofSeconds (n : Nat) : (ofSeconds n).total = n := by
  simp only [total, ofSeconds]
  omega

/-- The days have too many digits from the bound on. -/
theorem isTooLong_days_iff (n : Nat) :
    (Num.int (ofSeconds n).days).isTooLong = true ↔ durationBound ≤ n := by
  rw [Num.isTooLong_int_iff, Int.natAbs_natCast, durationBound, mul_comm]
  exact Nat.le_div_iff_mul_le (by decide)

theorem unit_of_mem_components {d : Duration} {part : Nat × String} (h : part ∈ d.components) :
    part.2 ∈ durationUnits := by
  have hmem : part ∈ [(d.days, "d"), (d.hours, "h"), (d.minutes, "m"), (d.seconds, "s")] := by
    rcases List.mem_append.mp h with h | h
    · exact List.mem_append_left _ ((List.dropWhile_sublist _).subset h)
    · exact List.mem_append_right [(d.days, "d"), (d.hours, "h"), (d.minutes, "m")] h
  have hunits := List.mem_map_of_mem (f := Prod.snd) hmem
  exact hunits

/-- The components that are shown are worth the whole duration. -/
theorem sum_worth_components (d : Duration) : (d.components.map componentWorth).sum = d.total := by
  rw [components, List.map_append, List.sum_append, sum_worth_dropWhile]
  simp [componentWorth, unitSeconds?, total]
  omega

/-- The text of a duration denotes its seconds. -/
theorem secondsOf?_text (d : Duration) : secondsOf? d.text = some d.total := by
  rw [text, secondsOf?_components (by simp [components]) fun _ => unit_of_mem_components,
    sum_worth_components]

end Duration

/-- A double that has a whole part and is not negative has a value, which is not negative, and its
whole part is the integer below that value. -/
theorem exists_toRat_of_truncate {x : Binary64} {whole : Int}
    (hneg : ¬(Num.float x).isNegative = true) (h : (Num.float x).truncate = .ok whole) :
    ∃ q, x.toRat? = some q ∧ 0 ≤ q ∧ q.floor = whole := by
  rcases x with _ | _ | ⟨s, m, e, hc⟩
  · cases h
  · cases h
  · have hmagnitude := Binary64.magnitude_nonneg m e
    cases h
    refine ⟨_, rfl, ?_⟩
    cases s
    · exact ⟨hmagnitude, rfl⟩
    · have hzero : Binary64.magnitude m e = 0 := by
        refine le_antisymm ?_ hmagnitude
        simpa [Num.isNegative, Num.lt, Num.line?, Binary64.line?, Line.lt, Binary64.signed]
          using hneg
      have hfloor : (0 : Rat).floor = 0 := rfl
      simp [Binary64.signed, hzero, hfloor]

/-- The text of a number of seconds denotes its whole part, and no negative number has a text. -/
theorem secondsOf?_durationText {n : Num} {s : String} (h : durationText n = .ok s) :
    ∃ whole : Int, n.truncate = .ok whole ∧ ¬n.isNegative = true ∧
      secondsOf? s = some whole.toNat := by
  unfold durationText at h
  split_ifs at h with hneg
  rcases htruncate : n.truncate with cause | whole
  · rw [htruncate] at h
    cases h
  · rw [htruncate] at h
    dsimp only at h
    split_ifs at h
    cases h
    refine ⟨whole, rfl, hneg, ?_⟩
    rw [Duration.secondsOf?_text, Duration.total_ofSeconds]

theorem durationText_ne_unknown {n : Num} {s : String} (h : durationText n = .ok s) :
    s ≠ "unknown" := by
  rintro rfl
  obtain ⟨_, -, -, hread⟩ := secondsOf?_durationText h
  have hnone : secondsOf? "unknown" = none := by decide
  rw [hnone] at hread
  cases hread

/-- The text of a double denotes the integer below its value. -/
theorem secondsOf?_durationText_float {x : Binary64} {s : String}
    (h : durationText (.float x) = .ok s) :
    ∃ q, x.toRat? = some q ∧ 0 ≤ q ∧ secondsOf? s = some q.floor.toNat := by
  obtain ⟨whole, htruncate, hneg, hread⟩ := secondsOf?_durationText h
  obtain ⟨q, hq, hnonneg, rfl⟩ := exists_toRat_of_truncate hneg htruncate
  exact ⟨q, hq, hnonneg, hread⟩

end ForgeDashboard
