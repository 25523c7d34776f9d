import ForgeDashboard.Proofs.Difference
import ForgeDashboard.Proofs.NumeralGrammar
import ForgeDashboard.Settings.Basic

/-!
# The limit among the settings

The limit on each source is read from a text: a numeral or a word with white space around it, or
one in which single underscores stand between other characters.  A limit has to be a number greater
than zero, with which every other number can be compared.  The check refuses what is zero or less;
of all doubles that leaves the limits and not-a-number, which is not less than anything.

So the settings that are accepted have a limit, unless the text that decides it denotes
not-a-number; and a text that denotes neither is refused under the name of the setting.

## Main definitions

* `Settings.DenotesNumber` : the double that a text denotes.
* `Settings.IsLimit` : a number greater than zero that compares with all others.
* `Settings.limit` : the limit of an environment and a file, from the text that decides it.

## Main results

* `Settings.readNumber?_eq_some_iff` : the reader accepts the texts that denote a double.
* `Settings.readLimit_eq_ok_iff` : what the check lets pass.
* `Settings.accepted_timeout` : the limit of accepted settings.
-/

namespace ForgeDashboard

/-! ### White space and underscores -/

section Trim

variable (drop : Char → Bool)

/-- Nothing but characters of the set is cut off. -/
theorem exists_eq_append_trimWith (cs : List Char) :
    ∃ before after, cs = before ++ trimWith drop cs ++ after ∧ (∀ c ∈ before, drop c = true) ∧
      ∀ c ∈ after, drop c = true := by
  refine ⟨cs.takeWhile drop, ((cs.dropWhile drop).reverse.takeWhile drop).reverse, ?_,
    fun _ => List.mem_takeWhile_imp, fun c hc => List.mem_takeWhile_imp (List.mem_reverse.1 hc)⟩
  rw [trimWith, List.append_assoc, ← List.reverse_append, List.takeWhile_append_dropWhile,
    List.reverse_reverse, List.takeWhile_append_dropWhile]

variable {drop}

/-- What is not in the set stays. -/
theorem mem_trimWith_of_neg {cs : List Char} {c : Char} (hc : c ∈ cs) (hdrop : drop c = false) :
    c ∈ trimWith drop cs := by
  obtain ⟨before, after, hcs, hbefore, hafter⟩ := exists_eq_append_trimWith drop cs
  rw [hcs, List.mem_append, List.mem_append] at hc
  rcases hc with (hc | hc) | hc
  · rw [hbefore c hc] at hdrop
    cases hdrop
  · exact hc
  · rw [hafter c hc] at hdrop
    cases hdrop

theorem dropWhile_append_of_neg {ds es : List Char} (hne : ds ≠ [])
    (hds : ∀ d ∈ ds, drop d = false) : (ds ++ es).dropWhile drop = ds ++ es := by
  obtain ⟨d, ds, rfl⟩ := List.exists_cons_of_ne_nil hne
  simp [hds d List.mem_cons_self]

/-- What is in the set and stands around other characters is cut off. -/
theorem trimWith_append {before cs after : List Char} (hbefore : ∀ c ∈ before, drop c = true)
    (hcs : ∀ c ∈ cs, drop c = false) (hafter : ∀ c ∈ after, drop c = true) :
    trimWith drop (before ++ cs ++ after) = cs := by
  rw [trimWith, List.append_assoc, List.dropWhile_append_of_pos hbefore]
  rcases eq_or_ne cs [] with rfl | hne
  · rw [List.nil_append, List.dropWhile_eq_nil_iff.2 hafter]
    rfl
  · have hreverse : cs.reverse ≠ [] := List.reverse_eq_nil_iff.not.2 hne
    rw [dropWhile_append_of_neg hne hcs, List.reverse_append, List.dropWhile_append_of_pos
      fun c hc => hafter c (List.mem_reverse.1 hc), ← List.append_nil cs.reverse,
      dropWhile_append_of_neg hreverse fun c hc => hcs c (List.mem_reverse.1 hc), List.append_nil,
      List.reverse_reverse]

end Trim

/-- Two underscores in a row are found. -/
theorem any_zip_tail_iff (cs : List Char) :
    ((cs.zip cs.tail).any fun pair => pair.1 == '_' && pair.2 == '_') = true ↔
      ['_', '_'] <:+: cs := by
  induction cs with
  | nil => simp
  | cons c cs ih =>
    rw [List.infix_cons_iff, ← ih]
    rcases cs with _ | ⟨d, cs⟩
    · simp
    · simp [List.cons_prefix_cons, @eq_comm _ '_']

namespace Settings

open Numeral (Denotes)

/-- Underscores are left out if none is first, last or next to another. -/
theorem dropUnderscores?_eq_some_iff {cs ds : List Char} :
    dropUnderscores? cs = some ds ↔ cs.head? ≠ some '_' ∧ cs.getLast? ≠ some '_' ∧
      ¬['_', '_'] <:+: cs ∧ cs.filter (· != '_') = ds := by
  simp only [dropUnderscores?, any_zip_tail_iff]
  split
  case isTrue h =>
    simp only [reduceCtorEq, false_iff]
    tauto
  case isFalse h =>
    simp only [not_or] at h
    simp [h]

/-! ### Texts that denote doubles -/

/-- A text and the double that it denotes.  White space may stand around a numeral or a word, or
single underscores between its characters, but not both. -/
inductive DenotesNumber (s : String) : Binary64 → Prop
  | spaced {before cs after : List Char} {x : Binary64} (hs : s.toList = before ++ cs ++ after)
      (hbefore : ∀ c ∈ before, isWhite c = true) (hafter : ∀ c ∈ after, isWhite c = true)
      (h : Denotes x cs) : DenotesNumber s x
  | grouped {x : Binary64} (hhead : s.toList.head? ≠ some '_')
      (hlast : s.toList.getLast? ≠ some '_') (hsingle : ¬['_', '_'] <:+: s.toList)
      (h : Denotes x (s.toList.filter (· != '_'))) : DenotesNumber s x

theorem readNumber?_of_spaced {s : String} {before cs after : List Char} {x : Binary64}
    (hs : s.toList = before ++ cs ++ after) (hbefore : ∀ c ∈ before, isWhite c = true)
    (hafter : ∀ c ∈ after, isWhite c = true) (h : Denotes x cs) : readNumber? s = some x := by
  have htrim := trimWith_append hbefore (fun c hc => (h.isNumeralChar c hc).isWhite_and_ne.1) hafter
  rw [readNumber?, hs, htrim, Numeral.ofNumeral?_eq_some_iff.2 h]

/-- A text with an underscore denotes nothing as it is. -/
theorem ofNumeral?_trimWith_eq_none {cs : List Char} (h : '_' ∈ cs) :
    Binary64.ofNumeral? (trimWith isWhite cs) = none := by
  refine Option.eq_none_iff_forall_ne_some.2 fun y hy => ?_
  have hchar := (Numeral.ofNumeral?_eq_some_iff.1 hy).isNumeralChar '_'
    (mem_trimWith_of_neg h (by decide))
  exact hchar.isWhite_and_ne.2 rfl

/-- The reader accepts the texts that denote a double, and no others. -/
theorem readNumber?_eq_some_iff {s : String} {x : Binary64} :
    readNumber? s = some x ↔ DenotesNumber s x := by
  constructor
  · intro h
    rw [readNumber?] at h
    split at h
    case h_1 y hy =>
      obtain rfl := Option.some.inj h
      obtain ⟨before, after, hs, hbefore, hafter⟩ := exists_eq_append_trimWith isWhite s.toList
      exact .spaced hs hbefore hafter (Numeral.ofNumeral?_eq_some_iff.1 hy)
    case h_2 =>
      obtain ⟨cs, hcs, hx⟩ := Option.bind_eq_some_iff.1 h
      obtain ⟨hhead, hlast, hsingle, rfl⟩ := dropUnderscores?_eq_some_iff.1 hcs
      exact .grouped hhead hlast hsingle (Numeral.ofNumeral?_eq_some_iff.1 hx)
  · intro h
    cases h with
    | spaced hs hbefore hafter h => exact readNumber?_of_spaced hs hbefore hafter h
    | grouped hhead hlast hsingle h =>
      by_cases hmem : '_' ∈ s.toList
      · have hdropped := dropUnderscores?_eq_some_iff.2 ⟨hhead, hlast, hsingle, rfl⟩
        rw [readNumber?, ofNumeral?_trimWith_eq_none hmem]
        simp only [hdropped, Option.bind_some, Numeral.ofNumeral?_eq_some_iff.2 h]
      · rw [List.filter_eq_self.2 fun c hc => by simpa using ne_of_mem_of_not_mem hc hmem] at h
        have hs : s.toList = [] ++ s.toList ++ [] := by rw [List.nil_append, List.append_nil]
        exact readNumber?_of_spaced hs nofun nofun h

/-! ### The check -/

/-- A number greater than zero.  Any other number is less than it or at least as great, and greater
than it or at most as great. -/
structure IsLimit (x : Binary64) : Prop where
  pos : 0 < x
  not_lt_iff : ∀ y, y ≠ .nan → (¬x < y ↔ y ≤ x)
  not_gt_iff : ∀ y, y ≠ .nan → (¬y < x ↔ x ≤ y)

/-- What is not zero or less is a limit, if it is a number. -/
theorem isLimit_of_not_le_zero {x : Binary64} (hx : x ≠ .nan) (h : ¬x ≤ 0) : IsLimit x where
  pos := by
    by_contra hlt
    exact h ((Binary64.not_lt_iff (by decide) hx).1 hlt)
  not_lt_iff _ := Binary64.not_lt_iff hx
  not_gt_iff _ hy := Binary64.not_lt_iff hy hx

/-- The check lets limits pass and, besides, not-a-number. -/
theorem readLimit_eq_ok_iff {s : String} {x : Binary64} :
    readLimit s = .ok x ↔ DenotesNumber s x ∧ (IsLimit x ∨ x = .nan) := by
  have hcheck : ¬x ≤ 0 ↔ IsLimit x ∨ x = .nan := by
    constructor
    · intro h
      by_cases hx : x = .nan
      · exact .inr hx
      · exact .inl (isLimit_of_not_le_zero hx h)
    · rintro (h | rfl)
      · exact Binary64.not_le_of_lt h.pos
      · decide
  rw [← hcheck, ← readNumber?_eq_some_iff, readLimit]
  split
  case h_1 hnone => simp [hnone]
  case h_2 y hy =>
    rw [hy, Option.some.injEq]
    split
    case isTrue hle =>
      refine iff_of_false nofun ?_
      rintro ⟨rfl, hnot⟩
      exact hnot hle
    case isFalse hnot =>
      rw [Except.ok.injEq]
      refine ⟨?_, And.left⟩
      rintro rfl
      exact ⟨rfl, hnot⟩

/-- What is refused is refused under the name of the setting. -/
theorem readLimit_error {s : String} {f : Fault} (h : readLimit s = .error f) :
    ∃ problem, f = .invalidFields [("DASHBOARD_TIMEOUT", problem)] := by
  rw [readLimit] at h
  split at h
  case h_1 => exact ⟨_, (Except.error.inj h).symm⟩
  case h_2 =>
    split at h
    case isTrue => exact ⟨_, (Except.error.inj h).symm⟩
    case isFalse => cases h

/-! ### Accepted settings -/

/-- The limit that the chosen text denotes, or the default one. -/
def limit (env : List (String × String)) (bindings : List EnvFile.Binding) :
    Except Fault Binary64 :=
  (chosen? .timeout env bindings).elim (.ok default.timeout) readLimit

/-- Only the limit can be refused. -/
theorem ofSources_eq (env : List (String × String)) (bindings : List EnvFile.Binding) :
    ofSources env bindings = (limit env bindings).map fun timeout =>
      { databaseUrl := (chosen? .databaseUrl env bindings).getD default.databaseUrl
        timeout := timeout
        logLevel := ((chosen? .logLevel env bindings).map uppercase).getD default.logLevel } := by
  rw [ofSources, limit]
  rcases chosen? .timeout env bindings with _ | text
  · rfl
  · simp only [Option.elim_some]
    rcases readLimit text with f | x <;> rfl

theorem limit_eq_of_ofSources {env : List (String × String)} {bindings : List EnvFile.Binding}
    {s : Settings} (h : ofSources env bindings = .ok s) : limit env bindings = .ok s.timeout := by
  rw [ofSources_eq] at h
  rcases hlimit : limit env bindings with f | x
  · rw [hlimit] at h
    cases h
  · rw [hlimit] at h
    cases h
    rfl

theorem isLimit_default : IsLimit default.timeout :=
  isLimit_of_not_le_zero (by decide +kernel) (by decide +kernel)

/-- Accepted settings have a limit, unless the text that decides it denotes not-a-number.  A text
that denotes a limit is accepted as that limit, and one that denotes neither is refused under the
name of the setting. -/
theorem accepted_timeout (env : List (String × String)) (file : String) :
    (∀ s, ofSources env (EnvFile.bindings file) = .ok s → IsLimit s.timeout ∨
      s.timeout = .nan ∧ ∃ text, chosen? .timeout env (EnvFile.bindings file) = some text ∧
        DenotesNumber text .nan) ∧
    ∀ text, chosen? .timeout env (EnvFile.bindings file) = some text →
      (∀ x, DenotesNumber text x → IsLimit x →
        ∃ s, ofSources env (EnvFile.bindings file) = .ok s ∧ s.timeout = x) ∧
      ((∀ x, DenotesNumber text x → ¬IsLimit x ∧ x ≠ .nan) →
        ∃ problem, ofSources env (EnvFile.bindings file) =
          .error (.invalidFields [("DASHBOARD_TIMEOUT", problem)])) := by
  refine ⟨fun s hs => ?_, fun text htext => ?_⟩
  · have hlimit := limit_eq_of_ofSources hs
    rw [limit] at hlimit
    rcases hchosen : chosen? .timeout env (EnvFile.bindings file) with _ | text
    · rw [hchosen, Option.elim_none] at hlimit
      have hdefault := Except.ok.inj hlimit
      exact .inl (hdefault ▸ isLimit_default)
    · rw [hchosen, Option.elim_some] at hlimit
      obtain ⟨hnumber, hpositive | hnan⟩ := readLimit_eq_ok_iff.1 hlimit
      · exact .inl hpositive
      · exact .inr ⟨hnan, text, rfl, hnan ▸ hnumber⟩
  · have hlimit : limit env (EnvFile.bindings file) = readLimit text := by
      rw [limit, htext, Option.elim_some]
    rw [ofSources_eq, hlimit]
    refine ⟨fun x hx hpositive => ?_, fun hno => ?_⟩
    · rw [readLimit_eq_ok_iff.2 ⟨hx, .inl hpositive⟩]
      exact ⟨_, rfl, rfl⟩
    · rcases hread : readLimit text with f | x
      · obtain ⟨problem, rfl⟩ := readLimit_error hread
        exact ⟨problem, rfl⟩
      · obtain ⟨hnumber, hpositive | hnan⟩ := readLimit_eq_ok_iff.1 hread
        · exact absurd hpositive (hno x hnumber).1
        · exact absurd hnan (hno x hnumber).2

/-- A thousandth of a second, in the notation with an exponent and between blanks, from a variable
in small letters.  It prevails over the zero of the file. -/
theorem blank_thousandth_accepted :
    ∃ s, ofSources [("gitarena_dashboard_timeout", " 1e-3 ")]
        (EnvFile.bindings "GITARENA_DASHBOARD_TIMEOUT=0") = .ok s ∧
      s.timeout = .ofMagnitude false (1 / 1000) := by
  have hchosen : chosen? .timeout [("gitarena_dashboard_timeout", " 1e-3 ")]
      (EnvFile.bindings "GITARENA_DASHBOARD_TIMEOUT=0") = some " 1e-3 " := by
    rw [chosen?, show inEnvironment? .timeout [("gitarena_dashboard_timeout", " 1e-3 ")] =
      some " 1e-3 " by decide +kernel]
    rfl
  have hnumber : DenotesNumber " 1e-3 " (.ofMagnitude false (1 / 1000)) := by
    have hdigit : ∀ {c : Char}, c.isDigit = true → Json.IsDigits [c] := fun h =>
      ⟨List.cons_ne_nil _ _, List.forall_mem_singleton.2 h⟩
    have hpower : Numeral.IsPower (-3) ['e', '-', '3'] :=
      @Numeral.IsPower.marked 'e' true ['-'] ['3'] (.inl rfl) .minus (hdigit rfl)
    have hvalue : Numeral.HasValue (1 / 1000) ['1', 'e', '-', '3'] := by
      have h := @Numeral.HasValue.whole ['1'] _ _ (hdigit rfl) hpower
      rwa [show (digitsValue ['1'] : Rat) * 10 ^ (-3 : Int) = 1 / 1000 by decide +kernel] at h
    have hblank : ∀ c ∈ [' '], isWhite c = true := List.forall_mem_singleton.2 (by decide)
    exact @DenotesNumber.spaced " 1e-3 " [' '] _ [' '] _ rfl hblank hblank
      (.numeral .missing hvalue)
  exact ((accepted_timeout _ _).2 _ hchosen).1 _ hnumber
    (isLimit_of_not_le_zero (by decide +kernel) (by decide +kernel))

/-- Not-a-number is accepted, and it is not greater than zero. -/
theorem nan_timeout_accepted :
    ∃ s, ofSources [("GITARENA_DASHBOARD_TIMEOUT", "nan")] (EnvFile.bindings "") = .ok s ∧
      ¬0 < s.timeout := by
  have hbindings : EnvFile.bindings "" = [] := by
    rw [EnvFile.bindings, EnvFile.readLines]
    rfl
  rw [hbindings]
  exact ⟨{ default with timeout := .nan }, rfl, by decide⟩

end Settings

end ForgeDashboard
