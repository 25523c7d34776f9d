import Mathlib.Logic.Relation
import ForgeDashboard.Proofs.TimeoutSetting

/-!
# Which text decides a setting

A setting is decided by the variable of its name in the environment, or else by the last pair of its
name in the environment file, or else by its default; names are compared without their letter case.
This is stated of the environment and of the pairs as they are written, apart from the program,
which first puts the pairs of one name together and replaces references.

Everything else goes unread: one setting does not see the variables and pairs of other names, nor
the pairs of its own name behind a variable of the environment or before a later pair.  Whether the
settings are accepted depends on the same texts.

## Main definitions

* `EnvFile.HasReference` : a value refers to a variable.
* `Settings.IsPlain` : no value of the file has a reference, and no name has two spellings.
* `Settings.Decides` : the text that decides a setting.
* `Settings.Unread` : a change of the environment or of the file that a setting does not see.

## Main results

* `EnvFile.replaceReferences_eq_self` : without references a value stays as it is.
* `Settings.lastPair?_resolved` : the program finds the last pair of a name.
* `Settings.decides_iff_of_unread` : what a setting does not see does not decide it.
* `Settings.settings_follow_precedence` : the settings of plain sources.
-/

namespace ForgeDashboard

/-! ### References -/

namespace EnvFile

/-- A reference as it is written. -/
inductive IsReference : List Char → Prop
  | plain {name : List Char} (hname : ∀ c ∈ name, c ≠ '\x7d' ∧ c ≠ ':') :
      IsReference ('$' :: '\x7b' :: (name ++ ['\x7d']))
  | withDefault {name default : List Char} (hname : ∀ c ∈ name, c ≠ '\x7d' ∧ c ≠ ':')
      (hdefault : ∀ c ∈ default, c ≠ '\x7d') :
      IsReference ('$' :: '\x7b' :: (name ++ ':' :: '-' :: (default ++ ['\x7d'])))

/-- Does a reference stand somewhere in the value? -/
def HasReference (value : List Char) : Prop :=
  ∃ reference, IsReference reference ∧ reference <:+: value

/-- What is read as a reference is one. -/
theorem exists_isReference {cs after : List Char} {r : Reference}
    (h : readReference? cs = some (r, after)) :
    ∃ body, IsReference ('$' :: '\x7b' :: body) ∧ cs = body ++ after := by
  have hname : ∀ c ∈ cs.takeWhile (fun c => c != '\x7d' && c != ':'), c ≠ '\x7d' ∧ c ≠ ':' :=
    fun c hc => by simpa using List.mem_takeWhile_imp hc
  have hcs := List.takeWhile_append_dropWhile (p := fun c => c != '\x7d' && c != ':') (l := cs)
  rw [readReference?] at h
  split at h
  case h_1 rest hrest =>
    cases h
    refine ⟨_, .plain hname, ?_⟩
    rw [List.append_assoc, List.singleton_append, ← hrest, hcs]
  case h_2 rest hrest =>
    have hdefault : ∀ c ∈ rest.takeWhile (· != '\x7d'), c ≠ '\x7d' :=
      fun c hc => by simpa using List.mem_takeWhile_imp hc
    have hparts := List.takeWhile_append_dropWhile (p := (· != '\x7d')) (l := rest)
    split at h
    case h_1 c after' hafter =>
      obtain rfl : c = '\x7d' := by
        have hnot := List.head?_dropWhile_not (· != '\x7d') rest
        rw [hafter] at hnot
        simpa using hnot
      cases h
      refine ⟨_, .withDefault hname hdefault, ?_⟩
      simp only [List.append_assoc, List.cons_append, List.nil_append, ← hafter, hparts, ← hrest,
        hcs]
    case h_2 => cases h
  case h_3 => cases h

theorem not_hasReference_of_cons {c : Char} {cs : List Char} (h : ¬HasReference (c :: cs)) :
    ¬HasReference cs :=
  fun ⟨reference, hreference, hstands⟩ => h ⟨reference, hreference, List.infix_cons hstands⟩

/-- Without references a value stays as it is. -/
theorem replaceReferences_eq_self (value : Reference → String) {cs : List Char}
    (h : ¬HasReference cs) : replaceReferences value cs = cs := by
  fun_induction replaceReferences value cs with
  | case1 => rfl
  | case2 rest reference after hread =>
    obtain ⟨body, hreference, rfl⟩ := exists_isReference hread
    exact absurd ⟨_, hreference, [], after, rfl⟩ h
  | case3 _ _ _ _ _ ih => rw [ih (not_hasReference_of_cons h)]
  | case4 _ _ ih => rw [ih (not_hasReference_of_cons h)]
  | case5 _ _ _ ih => rw [ih (not_hasReference_of_cons h)]

end EnvFile

namespace Settings

open EnvFile (Binding HasReference put resolved)

variable {setting : SettingName} {env : List (String × String)} {bindings : List Binding}

/-! ### The last pair of a name -/

section LastPair

variable {α : Type} {pairs : List (String × α)}

/-- The last pair whose name is that of the variable of a setting. -/
def lastPair? (setting : SettingName) (pairs : List (String × α)) : Option (String × α) :=
  pairs.reverse.find? fun pair => setting.isVariable pair.1

theorem lastPair?_append (setting : SettingName) (earlier later : List (String × α)) :
    lastPair? setting (earlier ++ later) =
      (lastPair? setting later).or (lastPair? setting earlier) := by
  rw [lastPair?, List.reverse_append, List.find?_append, lastPair?, lastPair?]

theorem lastPair?_concat (setting : SettingName) (pairs : List (String × α)) (pair : String × α) :
    lastPair? setting (pairs ++ [pair]) =
      if setting.isVariable pair.1 then some pair else lastPair? setting pairs := by
  rw [lastPair?_append]
  by_cases h : setting.isVariable pair.1 = true <;> simp [lastPair?, h]

theorem lastPair?_eq_none_iff :
    lastPair? setting pairs = none ↔ ∀ pair ∈ pairs, setting.isVariable pair.1 = false := by
  simp [lastPair?]

/-- The last pair of a name has only pairs of other names behind it. -/
def IsLast (setting : SettingName) (pairs : List (String × α)) (pair : String × α) : Prop :=
  ∃ before after, pairs = before ++ pair :: after ∧ setting.isVariable pair.1 = true ∧
    ∀ later ∈ after, setting.isVariable later.1 = false

theorem lastPair?_eq_some_iff {pair : String × α} :
    lastPair? setting pairs = some pair ↔ IsLast setting pairs pair := by
  rw [lastPair?, List.find?_eq_some_iff_append, IsLast]
  constructor
  · rintro ⟨hname, after, before, hreverse, hafter⟩
    refine ⟨before.reverse, after.reverse, ?_, hname, by simpa using hafter⟩
    rw [← List.reverse_reverse pairs, hreverse]
    simp
  · rintro ⟨before, after, rfl, hname, hafter⟩
    exact ⟨hname, after.reverse, before.reverse, by simp, by simpa using hafter⟩

/-- A change of the values leaves the pairs where they are. -/
theorem lastPair?_map {f : String × α → String × α} (hf : ∀ pair, (f pair).1 = pair.1) :
    lastPair? setting (pairs.map f) = (lastPair? setting pairs).map f := by
  have hsame : ((fun pair : String × α => setting.isVariable pair.1) ∘ f) =
      fun pair => setting.isVariable pair.1 := by
    funext pair
    rw [Function.comp_apply, hf]
  rw [lastPair?, ← List.map_reverse, List.find?_map, hsame, lastPair?]

/-- Where a name is put, every other pair was there before. -/
theorem mem_put {name : String} {value : α} {pair : String × α} (h : pair ∈ put pairs name value) :
    pair = (name, value) ∨ pair ∈ pairs := by
  rw [put] at h
  split at h
  case isTrue =>
    obtain ⟨old, hold, hpair⟩ := List.mem_map.1 h
    split at hpair
    case isTrue => exact .inl hpair.symm
    case isFalse => exact .inr (hpair ▸ hold)
  case isFalse => exact (List.mem_append.1 h).elim .inr fun h => .inl (List.mem_singleton.1 h)

/-- Putting a name makes it the last one of its setting, if the setting has no other name, and does
not touch the other settings. -/
theorem lastPair?_put {name : String} {value : α}
    (hspelling : setting.isVariable name = true → ∀ pair ∈ pairs,
      setting.isVariable pair.1 = true → pair.1 = name) :
    lastPair? setting (put pairs name value) =
      if setting.isVariable name then some (name, value) else lastPair? setting pairs := by
  rw [put]
  split
  case isFalse => exact lastPair?_concat setting pairs (name, value)
  case isTrue hset =>
    rw [lastPair?_map fun pair => by
      by_cases h : pair.1 = name
      · rw [if_pos (beq_iff_eq.2 h), h]
      · rw [if_neg (beq_iff_eq.not.2 h)]]
    rcases hlast : lastPair? setting pairs with _ | pair
    · -- The name is there, so it is not that of the setting.
      obtain ⟨pair, hmem, hpair⟩ := List.any_eq_true.1 hset
      have hother := lastPair?_eq_none_iff.1 hlast pair hmem
      rw [eq_of_beq hpair] at hother
      rw [if_neg (by rw [hother]; exact Bool.false_ne_true)]
      rfl
    · obtain ⟨before, after, rfl, hpair, -⟩ := lastPair?_eq_some_iff.1 hlast
      by_cases hname : setting.isVariable name = true
      · have heq := hspelling hname pair (by simp) hpair
        simp [heq, hname]
      · have hne : pair.1 ≠ name := fun heq => hname (heq ▸ hpair)
        simp [hne, hname]

end LastPair

/-- The values are put as they are written, if they have no references. -/
theorem resolved_concat {pair : Binding} (h : ∀ value ∈ pair.2, ¬HasReference value.toList) :
    resolved env (bindings ++ [pair]) = put (resolved env bindings) pair.1 pair.2 := by
  have hvalue : (pair.2.map fun value => String.ofList (EnvFile.replaceReferences
      (EnvFile.referenceValue env (resolved env bindings)) value.toList)) = pair.2 := by
    rcases hvalue : pair.2 with _ | value
    · rfl
    · rw [Option.map_some, EnvFile.replaceReferences_eq_self _ (h value hvalue),
        String.ofList_toList]
  rw [resolved, List.foldl_append, ← resolved, List.foldl_cons, List.foldl_nil, hvalue]

/-- The program finds the last pair of a name. -/
theorem lastPair?_resolved (env : List (String × String))
    (hspelling : ∀ a ∈ bindings, ∀ b ∈ bindings, caseless a.1 = caseless b.1 → a.1 = b.1)
    (hvalues : ∀ pair ∈ bindings, ∀ value ∈ pair.2, ¬HasReference value.toList) :
    (∀ entry ∈ resolved env bindings, ∃ pair ∈ bindings, pair.1 = entry.1) ∧
      lastPair? setting (resolved env bindings) = lastPair? setting bindings := by
  -- The pairs are put one after another; what was put before has names of the file only, so the
  -- setting has no second spelling among them.
  induction bindings using List.reverseRecOn with
  | nil => exact ⟨nofun, rfl⟩
  | append_singleton bindings pair ih =>
    obtain ⟨hnames, hlast⟩ := ih
      (fun a ha b hb => hspelling a (List.mem_append_left _ ha) b (List.mem_append_left _ hb))
      (fun a ha => hvalues a (List.mem_append_left _ ha))
    have hpair : pair ∈ bindings ++ [pair] := by simp
    rw [resolved_concat (hvalues pair hpair), lastPair?_concat, lastPair?_put, hlast]
    · refine ⟨fun entry hentry => ?_, rfl⟩
      rcases mem_put hentry with rfl | hold
      · exact ⟨pair, hpair, rfl⟩
      · obtain ⟨old, hold, hname⟩ := hnames entry hold
        exact ⟨old, List.mem_append_left _ hold, hname⟩
    · intro hname entry hentry hother
      obtain ⟨old, hold, heq⟩ := hnames entry hentry
      rw [← heq] at hother ⊢
      refine hspelling old (List.mem_append_left _ hold) pair hpair ?_
      rw [SettingName.isVariable, beq_iff_eq] at hname hother
      rw [hname, hother]

/-! ### What decides a setting -/

/-- Plain sources: no value of the file has a reference, every name of the file has a value, and
neither in the environment nor in the file two names differ in their letter case alone. -/
structure IsPlain (env : List (String × String)) (bindings : List Binding) : Prop where
  environment : (env.map fun entry => caseless entry.1).Nodup
  spelling : ∀ a ∈ bindings, ∀ b ∈ bindings, caseless a.1 = caseless b.1 → a.1 = b.1
  values : ∀ pair ∈ bindings, ∃ value, pair.2 = some value ∧ ¬HasReference value.toList

/-- The text that decides a setting, or `none` where that is its default. -/
inductive Decides (setting : SettingName) (env : List (String × String))
    (bindings : List Binding) : Option String → Prop
  | ofVariable {name text : String} (hmem : (name, text) ∈ env)
      (hname : setting.isVariable name = true) : Decides setting env bindings (some text)
  | ofPair {name text : String} (henv : ∀ entry ∈ env, setting.isVariable entry.1 = false)
      (hlast : IsLast setting bindings (name, some text)) : Decides setting env bindings (some text)
  | ofDefault (henv : ∀ entry ∈ env, setting.isVariable entry.1 = false)
      (hfile : ∀ pair ∈ bindings, setting.isVariable pair.1 = false) :
      Decides setting env bindings none

section Plain

variable (h : IsPlain env bindings)

include h

/-- The program looks for the last variable and for the last pair. -/
theorem IsPlain.chosen?_eq : chosen? setting env bindings =
    ((lastPair? setting env).map (·.2)).or ((lastPair? setting bindings).bind (·.2)) := by
  have hresolved : lastPair? setting (resolved env bindings) = lastPair? setting bindings := by
    refine (lastPair?_resolved env h.spelling fun pair hpair value hvalue => ?_).2
    obtain ⟨value', hvalue', hplain⟩ := h.values pair hpair
    rwa [Option.some.inj (hvalue.symm.trans hvalue')]
  rw [chosen?, inFile?, ← lastPair?, hresolved, inEnvironment?, ← lastPair?]

/-- What it chooses decides the setting. -/
theorem IsPlain.decides_chosen? : Decides setting env bindings (chosen? setting env bindings) := by
  rw [h.chosen?_eq]
  rcases hfound : lastPair? setting env with _ | entry
  · have henv := lastPair?_eq_none_iff.1 hfound
    rcases hpair : lastPair? setting bindings with _ | ⟨name, value?⟩
    · exact .ofDefault henv (lastPair?_eq_none_iff.1 hpair)
    · have hlast := lastPair?_eq_some_iff.1 hpair
      obtain ⟨before, after, hbindings, -⟩ := id hlast
      obtain ⟨value, rfl, -⟩ := h.values (name, value?) (by simp [hbindings])
      exact .ofPair henv hlast
  · obtain ⟨before, after, rfl, hname, -⟩ := lastPair?_eq_some_iff.1 hfound
    exact .ofVariable (by simp) hname

/-- Nothing else decides it. -/
theorem IsPlain.decides_iff {decided : Option String} :
    Decides setting env bindings decided ↔ chosen? setting env bindings = decided := by
  refine ⟨fun hdecides => ?_, fun heq => heq ▸ h.decides_chosen?⟩
  rw [h.chosen?_eq]
  cases hdecides with
  | @ofVariable name text hmem hname =>
    rcases hfound : lastPair? setting env with _ | entry
    · exact absurd hname (by simp [lastPair?_eq_none_iff.1 hfound _ hmem])
    · obtain ⟨before, after, henv, hentry, -⟩ := lastPair?_eq_some_iff.1 hfound
      have heq : entry = (name, text) := List.inj_on_of_nodup_map h.environment
        (by simp [henv]) hmem ((eq_of_beq hentry).trans (eq_of_beq hname).symm)
      rw [heq]
      rfl
  | ofPair henv hlast =>
    rw [lastPair?_eq_none_iff.2 henv, lastPair?_eq_some_iff.2 hlast]
    rfl
  | ofDefault henv hfile =>
    rw [lastPair?_eq_none_iff.2 henv, lastPair?_eq_none_iff.2 hfile]
    rfl

end Plain

/-! ### What a setting does not see -/

/-- One change that a setting does not see: an entry is added, removed or replaced.  It is a
variable of another name, or a pair of another name, or a pair that stands behind a variable of the
environment or before a later pair of its name. -/
inductive Unread (setting : SettingName) : List (String × String) × List Binding →
    List (String × String) × List Binding → Prop
  | inEnvironment {before after : List (String × String)} {old new : Option (String × String)}
      {bindings : List Binding}
      (hother : ∀ entry ∈ old.toList ++ new.toList, setting.isVariable entry.1 = false) :
      Unread setting (before ++ old.toList ++ after, bindings)
        (before ++ new.toList ++ after, bindings)
  | inFile {env : List (String × String)} {before after : List Binding} {old new : Option Binding}
      (hhidden : ∀ pair ∈ old.toList ++ new.toList, setting.isVariable pair.1 = true →
        (∃ entry ∈ env, setting.isVariable entry.1 = true) ∨
          ∃ later ∈ after, setting.isVariable later.1 = true) :
      Unread setting (env, before ++ old.toList ++ after) (env, before ++ new.toList ++ after)

theorem Unread.symm {a b : List (String × String) × List Binding} (h : Unread setting a b) :
    Unread setting b a := by
  cases h with
  | inEnvironment hother =>
    exact .inEnvironment fun entry hentry => hother entry (by simpa [or_comm] using hentry)
  | inFile hhidden => exact .inFile fun pair hpair => hhidden pair (by simpa [or_comm] using hpair)

/-- A pair before a later pair of its name is not the last one. -/
theorem lastPair?_replace {before after : List Binding} {old new : Option Binding}
    (h : ∀ pair ∈ old.toList ++ new.toList, setting.isVariable pair.1 = true →
      ∃ later ∈ after, setting.isVariable later.1 = true) :
    lastPair? setting (before ++ old.toList ++ after) =
      lastPair? setting (before ++ new.toList ++ after) := by
  simp only [lastPair?_append]
  rcases hafter : lastPair? setting after with _ | pair
  · have hnone : ∀ pair ∈ old.toList ++ new.toList, setting.isVariable pair.1 = false := by
      intro pair hpair
      by_contra hname
      obtain ⟨later, hlater, hvariable⟩ := h pair hpair (by simpa using hname)
      exact absurd hvariable (by simp [lastPair?_eq_none_iff.1 hafter later hlater])
    rw [lastPair?_eq_none_iff.2 fun pair hpair => hnone pair (List.mem_append_left _ hpair),
      lastPair?_eq_none_iff.2 fun pair hpair => hnone pair (List.mem_append_right _ hpair)]
  · rfl

/-- Variables of a setting stay where only others are changed. -/
theorem mem_replace_iff {before after : List (String × String)}
    {old new : Option (String × String)}
    (hother : ∀ entry ∈ old.toList ++ new.toList, setting.isVariable entry.1 = false)
    {entry : String × String} (hname : setting.isVariable entry.1 = true) :
    entry ∈ before ++ old.toList ++ after ↔ entry ∈ before ++ new.toList ++ after := by
  have hold : entry ∉ old.toList := fun h =>
    absurd hname (by simp [hother entry (List.mem_append_left _ h)])
  have hnew : entry ∉ new.toList := fun h =>
    absurd hname (by simp [hother entry (List.mem_append_right _ h)])
  simp only [List.mem_append, hold, hnew]

theorem Decides.replace_variable {before after : List (String × String)}
    {old new : Option (String × String)}
    (hother : ∀ entry ∈ old.toList ++ new.toList, setting.isVariable entry.1 = false)
    {decided : Option String}
    (h : Decides setting (before ++ old.toList ++ after) bindings decided) :
    Decides setting (before ++ new.toList ++ after) bindings decided := by
  have hnone : (∀ entry ∈ before ++ old.toList ++ after, setting.isVariable entry.1 = false) →
      ∀ entry ∈ before ++ new.toList ++ after, setting.isVariable entry.1 = false := by
    intro henv entry hentry
    by_contra hname
    rw [Bool.not_eq_false] at hname
    exact absurd hname (by simp [henv entry ((mem_replace_iff hother hname).2 hentry)])
  cases h with
  | @ofVariable name text hmem hname =>
    have hmem' : (name, text) ∈ before ++ new.toList ++ after :=
      (mem_replace_iff hother (by exact hname)).1 hmem
    exact .ofVariable hmem' hname
  | ofPair henv hlast => exact .ofPair (hnone henv) hlast
  | ofDefault henv hfile => exact .ofDefault (hnone henv) hfile

theorem Decides.replace_pair {before after : List Binding} {old new : Option Binding}
    (hhidden : ∀ pair ∈ old.toList ++ new.toList, setting.isVariable pair.1 = true →
      (∃ entry ∈ env, setting.isVariable entry.1 = true) ∨
        ∃ later ∈ after, setting.isVariable later.1 = true)
    {decided : Option String} (h : Decides setting env (before ++ old.toList ++ after) decided) :
    Decides setting env (before ++ new.toList ++ after) decided := by
  have hlater : (∀ entry ∈ env, setting.isVariable entry.1 = false) →
      lastPair? setting (before ++ old.toList ++ after) =
        lastPair? setting (before ++ new.toList ++ after) := by
    refine fun henv => lastPair?_replace fun pair hpair hname => ?_
    refine (hhidden pair hpair hname).resolve_left ?_
    rintro ⟨entry, hentry, hvariable⟩
    exact absurd hvariable (by simp [henv entry hentry])
  cases h with
  | ofVariable hmem hname => exact .ofVariable hmem hname
  | ofPair henv hlast =>
    rw [← lastPair?_eq_some_iff, hlater henv, lastPair?_eq_some_iff] at hlast
    exact .ofPair henv hlast
  | ofDefault henv hfile =>
    rw [← lastPair?_eq_none_iff, hlater henv, lastPair?_eq_none_iff] at hfile
    exact .ofDefault henv hfile

/-- What a setting does not see is not what decides it. -/
theorem Unread.decides {a b : List (String × String) × List Binding} (h : Unread setting a b)
    {decided : Option String} (hdecides : Decides setting a.1 a.2 decided) :
    Decides setting b.1 b.2 decided := by
  cases h with
  | inEnvironment hother => exact hdecides.replace_variable hother
  | inFile hhidden => exact hdecides.replace_pair hhidden

/-- Any number of such changes leaves what decides the setting. -/
theorem decides_iff_of_unread {a b : List (String × String) × List Binding}
    (h : Relation.ReflTransGen (Unread setting) a b) {decided : Option String} :
    Decides setting a.1 a.2 decided ↔ Decides setting b.1 b.2 decided := by
  induction h with
  | refl => rfl
  | tail _ hstep ih => exact ih.trans ⟨hstep.decides, hstep.symm.decides⟩

/-! ### The settings of plain sources -/

theorem isSqlite_iff (s : Settings) :
    s.isSqlite = true ↔ ∃ rest, s.databaseUrl = "sqlite" ++ rest := by
  rw [isSqlite, List.isPrefixOf_iff_prefix]
  constructor
  · rintro ⟨rest, hrest⟩
    refine ⟨String.ofList rest, ?_⟩
    rw [← String.toList_inj, String.toList_append, @String.toList_ofList rest, hrest]
  · rintro ⟨rest, hrest⟩
    exact ⟨rest.toList, by rw [hrest, String.toList_append]⟩

/-- In plain sources every setting is decided by exactly one text, or by its default.  These texts
make the settings, or make them fail, and changes that no setting sees change nothing. -/
theorem settings_follow_precedence (h : IsPlain env bindings) :
    (∀ setting, ∃! decided, Decides setting env bindings decided) ∧
    (∀ url limit level, Decides .databaseUrl env bindings url →
      Decides .timeout env bindings limit → Decides .logLevel env bindings level →
        ofSources env bindings = ((limit.elim (.ok default.timeout) readLimit).map fun timeout =>
          { databaseUrl := url.getD default.databaseUrl
            timeout := timeout
            logLevel := uppercase (level.getD default.logLevel) }) ∧
        ∀ s, ofSources env bindings = .ok s →
          (s.isSqlite = true ↔ ∃ rest, url.getD default.databaseUrl = "sqlite" ++ rest)) ∧
    ∀ env' bindings', IsPlain env' bindings' →
      (∀ setting, Relation.ReflTransGen (Unread setting) (env, bindings) (env', bindings')) →
        ofSources env' bindings' = ofSources env bindings := by
  refine ⟨fun setting => ?_, fun url limit level hurl hlimit hlevel => ?_,
    fun env' bindings' h' hunread => ?_⟩
  · exact ⟨_, h.decides_chosen?, fun decided hdecided => (h.decides_iff.1 hdecided).symm⟩
  · rw [ofSources_eq, Settings.limit, h.decides_iff.1 hurl, h.decides_iff.1 hlimit,
      h.decides_iff.1 hlevel]
    refine ⟨?_, fun s hs => ?_⟩
    · rcases level with _ | level
      · rfl
      · rfl
    · rw [isSqlite_iff]
      rcases hread : limit.elim (.ok default.timeout) readLimit with f | timeout
      · rw [hread] at hs
        cases hs
      · rw [hread] at hs
        cases hs
        rfl
  · have hchosen : ∀ setting, chosen? setting env' bindings' = chosen? setting env bindings :=
      fun setting => h'.decides_iff.1
        ((decides_iff_of_unread (hunread setting)).1 h.decides_chosen?)
    rw [ofSources_eq, ofSources_eq, Settings.limit, Settings.limit, hchosen, hchosen, hchosen]

/-- The later of two limits prevails over the earlier one, which could not be read, and the settings
are the same without that one; the level is that of a variable in small letters. -/
theorem later_limit_accepted :
    ofSources [("gitarena_log_level", "debug")] [("GITARENA_DASHBOARD_TIMEOUT", some "soon"),
        ("GITARENA_DASHBOARD_TIMEOUT", some "2.5")] =
      .ok ⟨"sqlite:///data/gitarena.db", .ofMagnitude false (5 / 2), "DEBUG"⟩ ∧
    ofSources [("gitarena_log_level", "debug")] [("GITARENA_DASHBOARD_TIMEOUT", some "2.5")] =
      .ok ⟨"sqlite:///data/gitarena.db", .ofMagnitude false (5 / 2), "DEBUG"⟩ := by
  have hvalue : ∀ value : String, '$' ∉ value.toList → ¬HasReference value.toList := by
    rintro value hvalue ⟨reference, hreference, hstands⟩
    cases hreference <;> exact hvalue (hstands.subset List.mem_cons_self)
  have hkept : IsPlain [("gitarena_log_level", "debug")]
      [("GITARENA_DASHBOARD_TIMEOUT", some "2.5")] :=
    ⟨by simp, by simp, by simpa using hvalue "2.5" (by decide)⟩
  have hall : IsPlain [("gitarena_log_level", "debug")]
      [("GITARENA_DASHBOARD_TIMEOUT", some "soon"), ("GITARENA_DASHBOARD_TIMEOUT", some "2.5")] :=
    ⟨hkept.environment, by simp, List.forall_mem_cons.2
      ⟨⟨_, rfl, hvalue "soon" (by decide)⟩, hkept.values⟩⟩
  have hunread : ∀ setting, Unread setting
      ([("gitarena_log_level", "debug")], [] ++ [("GITARENA_DASHBOARD_TIMEOUT", some "soon")] ++
        [("GITARENA_DASHBOARD_TIMEOUT", some "2.5")])
      ([("gitarena_log_level", "debug")], [] ++ [] ++
        [("GITARENA_DASHBOARD_TIMEOUT", some "2.5")]) := fun setting =>
    @Unread.inFile setting _ [] _ (some (_, some "soon")) none (by cases setting <;> decide +kernel)
  have hurl : Decides .databaseUrl [("gitarena_log_level", "debug")]
      [("GITARENA_DASHBOARD_TIMEOUT", some "soon"), ("GITARENA_DASHBOARD_TIMEOUT", some "2.5")]
        none := .ofDefault (by decide +kernel) (by decide +kernel)
  have hlimit : Decides .timeout [("gitarena_log_level", "debug")]
      [("GITARENA_DASHBOARD_TIMEOUT", some "soon"), ("GITARENA_DASHBOARD_TIMEOUT", some "2.5")]
        (some "2.5") := .ofPair (by decide +kernel) ⟨[_], [], rfl, by decide +kernel, nofun⟩
  have hlevel : Decides .logLevel [("gitarena_log_level", "debug")]
      [("GITARENA_DASHBOARD_TIMEOUT", some "soon"), ("GITARENA_DASHBOARD_TIMEOUT", some "2.5")]
        (some "debug") := .ofVariable List.mem_cons_self (by decide +kernel)
  have hread : readLimit "2.5" = .ok (.ofMagnitude false (5 / 2)) :=
    readLimit_eq_ok_iff.2 ⟨readNumber?_eq_some_iff.1 (by decide +kernel),
      .inl (isLimit_of_not_le_zero (by decide +kernel) (by decide +kernel))⟩
  obtain ⟨-, hsettings, hsame⟩ := settings_follow_precedence hall
  rw [hsame _ _ hkept fun setting => .single (hunread setting), and_self,
    (hsettings none (some "2.5") (some "debug") hurl hlimit hlevel).1, Option.elim_some, hread]
  rfl

end Settings

end ForgeDashboard
