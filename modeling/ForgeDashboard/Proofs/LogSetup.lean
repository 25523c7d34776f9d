import ForgeDashboard.Log.Level
import Mathlib.Data.List.Induction
import Mathlib.Tactic.Common

/-!
# Setting up the log

A call that sets up the log works with its own level or, if that asks for nothing, with the one of
the settings.  It sets the level first, which is the only step that can fail, and then attaches a
handler unless it finds one of this program.  So a call that fails has done nothing, and of any
number of calls that succeed the first one attaches the only handler and the last one decides the
level.

## Main definitions

* `LevelChoice.Effective`, `LevelChoice.Denotes` : the level a call works with, and its number.
* `LevelChoice.IsRefused` : the calls that fail.
* `Logger.afterCalls` : the state after some calls.
* `Logger.IsSetUp` : the state of a log that has been set up.

## Main results

* `Logger.configure_eq_ok_iff`, `Logger.configure_eq_error_iff` : what one call does.
* `Logger.afterCalls_cases` : the state after any calls is that of the last one that succeeded.
* `log_setup_atomic_and_idempotent` : calls one after another.
-/

namespace ForgeDashboard

/-! ### Levels -/

namespace LevelChoice

/-- The level a call works with: its own one, or that of the settings if its own one is absent,
empty or zero. -/
inductive Effective (settingsLevel : String) : LevelChoice → LevelChoice → Prop
  | given {choice : LevelChoice} : choice ≠ .absent → choice ≠ .name "" → choice ≠ .number 0 →
      Effective settingsLevel choice choice
  | fallback {choice : LevelChoice} : choice = .absent ∨ choice = .name "" ∨ choice = .number 0 →
      Effective settingsLevel choice (.name settingsLevel)

/-- The number of a level: itself, or that of a known name. -/
inductive Denotes : LevelChoice → Int → Prop
  | number (n : Int) : Denotes (.number n) n
  | name {s : String} {n : Int} : (s, n) ∈ names → Denotes (.name s) n

/-- A call is refused if it works with a text that is no known name. -/
def IsRefused (settingsLevel : String) (choice : LevelChoice) : Prop :=
  ∃ s, Effective settingsLevel choice (.name s) ∧ ∀ n, (s, n) ∉ names

theorem isVoid_iff {choice : LevelChoice} :
    choice.isVoid = true ↔ choice = .absent ∨ choice = .name "" ∨ choice = .number 0 := by
  cases choice <;> simp [isVoid]

theorem effective_iff {settingsLevel : String} {choice level : LevelChoice} :
    Effective settingsLevel choice level ↔ level = choice.orElse (.name settingsLevel) := by
  unfold orElse
  constructor
  · rintro (⟨habsent, hempty, hzero⟩ | hvoid)
    · rw [if_neg (by simp [isVoid_iff, *])]
    · rw [if_pos (isVoid_iff.mpr hvoid)]
  · rintro rfl
    split_ifs with hvoid
    · exact .fallback (isVoid_iff.mp hvoid)
    · rw [isVoid_iff, not_or, not_or] at hvoid
      exact .given hvoid.1 hvoid.2.1 hvoid.2.2

theorem orElse_ne_absent (choice : LevelChoice) (s : String) :
    choice.orElse (.name s) ≠ .absent := by
  cases choice <;> unfold orElse <;> split_ifs with hvoid <;> simp_all [isVoid]

/-- Each name is known once. -/
theorem lookup_names_eq_some_iff {s : String} {n : Int} :
    names.lookup s = some n ↔ (s, n) ∈ names := by
  have hkeys : (names.map (·.1)).Nodup := by decide
  generalize names = pairs at hkeys ⊢
  induction pairs with
  | nil => simp
  | cons pair pairs ih =>
    obtain ⟨t, m⟩ := pair
    obtain ⟨hfirst, hrest⟩ := List.nodup_cons.mp hkeys
    rcases eq_or_ne s t with rfl | hne
    · have hnot : (s, n) ∉ pairs := fun h => hfirst (List.mem_map_of_mem (f := (·.1)) h)
      simp [hnot, eq_comm]
    · simp [List.lookup_cons, beq_eq_false_iff_ne.mpr hne, hne, ih hrest]

theorem level_eq_ok_iff {choice : LevelChoice} {n : Int} :
    choice.level = .ok n ↔ Denotes choice n := by
  cases choice with
  | absent => exact ⟨nofun, nofun⟩
  | number m =>
    constructor
    · rintro ⟨⟩
      exact .number _
    · rintro ⟨⟩
      rfl
  | name s =>
    have hdenotes : Denotes (.name s) n ↔ names.lookup s = some n := by
      rw [lookup_names_eq_some_iff]
      exact ⟨fun | .name h => h, .name⟩
    rw [level, hdenotes]
    rcases names.lookup s with _ | m <;> simp

/-- Of the levels a call may work with only unknown names have no number. -/
theorem level_eq_error_iff {choice : LevelChoice} {f : Fault} (hchoice : choice ≠ .absent) :
    choice.level = .error f ↔
      ∃ s, choice = .name s ∧ (∀ n, (s, n) ∉ names) ∧ f = .unknownLevel (.text s) := by
  cases choice with
  | absent => exact absurd rfl hchoice
  | number n => exact iff_of_false nofun nofun
  | name s =>
    simp only [level, name.injEq, exists_eq_left', ← lookup_names_eq_some_iff]
    rcases names.lookup s with _ | m <;> simp [eq_comm]

end LevelChoice

namespace Logger

open LevelChoice

variable {settingsLevel : String} {choice : LevelChoice}

/-! ### One call -/

/-- Handlers with one of this program among them. -/
def attached (handlers : List LogHandler) : List LogHandler :=
  if handlers.any (·.own) then handlers else handlers ++ [runHandler]

theorem run_attach (l : Logger) :
    attach.run.run l = (.ok (), { l with handlers := attached l.handlers }) := by
  show ((if l.handlers.any (·.own) then pure () else
    modify fun l => { l with handlers := l.handlers ++ [runHandler] } :
      ExceptT Fault (StateM Logger) Unit).run.run l) = _
  unfold attached
  split_ifs <;> rfl

/-- The level comes first, and a level that is not known leaves everything as it is. -/
theorem run_setUp (l : Logger) (settingsLevel : String) (choice : LevelChoice) :
    (setUp settingsLevel choice).run.run l =
      match (choice.orElse (.name settingsLevel)).level with
      | .ok n => (.ok (), ⟨n, attached l.handlers⟩)
      | .error f => (.error f, l) := by
  unfold setUp setLevel
  rcases (choice.orElse (.name settingsLevel)).level with f | n
  · rfl
  · exact run_attach ⟨n, l.handlers⟩

theorem afterCall_eq (l : Logger) :
    l.afterCall settingsLevel choice =
      match (choice.orElse (.name settingsLevel)).level with
      | .ok n => ⟨n, attached l.handlers⟩
      | .error _ => l := by
  rw [afterCall, run_setUp]
  rcases (choice.orElse (.name settingsLevel)).level with f | n <;> rfl

theorem configure_eq (l : Logger) :
    l.configure settingsLevel choice =
      (choice.orElse (.name settingsLevel)).level.map fun n => ⟨n, attached l.handlers⟩ := by
  rw [configure, afterCall_eq, run_setUp]
  rcases (choice.orElse (.name settingsLevel)).level with f | n <;> rfl

variable {l next : Logger} {f : Fault}

/-- A call that succeeds has set the level it works with, and has found or attached a handler. -/
theorem configure_eq_ok_iff :
    l.configure settingsLevel choice = .ok next ↔
      (∃ level, Effective settingsLevel choice level ∧ level.Denotes next.level) ∧
        next.handlers = attached l.handlers := by
  simp only [configure_eq, effective_iff, exists_eq_left, ← level_eq_ok_iff]
  obtain ⟨n, handlers⟩ := next
  rcases (choice.orElse (.name settingsLevel)).level with f | m
  · simp [Except.map]
  · simp [Except.map, eq_comm]

/-- A call fails for no other reason than a text that is no known name. -/
theorem configure_eq_error_iff :
    l.configure settingsLevel choice = .error f ↔
      ∃ s, Effective settingsLevel choice (.name s) ∧ (∀ n, (s, n) ∉ names) ∧
        f = .unknownLevel (.text s) := by
  have hlevel := level_eq_error_iff (f := f) (choice.orElse_ne_absent settingsLevel)
  simp only [configure_eq, effective_iff, eq_comm (a := LevelChoice.name _), ← hlevel]
  rcases (choice.orElse (.name settingsLevel)).level with g | n <;> simp [Except.map]

theorem exists_configure_eq_error_iff :
    (∃ f, l.configure settingsLevel choice = .error f) ↔ choice.IsRefused settingsLevel := by
  simp only [configure_eq_error_iff, IsRefused]
  constructor
  · rintro ⟨_, s, hs, hunknown, -⟩
    exact ⟨s, hs, hunknown⟩
  · rintro ⟨s, hs, hunknown⟩
    exact ⟨_, s, hs, hunknown, rfl⟩

theorem afterCall_of_ok (h : l.configure settingsLevel choice = .ok next) :
    l.afterCall settingsLevel choice = next := by
  rw [configure_eq] at h
  rw [afterCall_eq]
  generalize (choice.orElse (.name settingsLevel)).level = level at h ⊢
  rcases level with f | n <;> cases h
  rfl

/-- A call that fails leaves the level and the handlers as they are. -/
theorem afterCall_of_error (h : l.configure settingsLevel choice = .error f) :
    l.afterCall settingsLevel choice = l := by
  rw [configure_eq] at h
  rw [afterCall_eq]
  generalize (choice.orElse (.name settingsLevel)).level = level at h ⊢
  rcases level with f | n <;> cases h
  rfl

/-! ### Calls one after another -/

/-- The state after some calls, some of which may have failed. -/
def afterCalls (l : Logger) (settingsLevel : String) (choices : List LevelChoice) : Logger :=
  choices.foldl (fun l choice => l.afterCall settingsLevel choice) l

theorem afterCalls_concat (choices : List LevelChoice) :
    l.afterCalls settingsLevel (choices ++ [choice]) =
      (l.afterCalls settingsLevel choices).afterCall settingsLevel choice := by
  simp [afterCalls]

/-- A log that has been set up has one handler, which is of this program and marks each record
once. -/
def IsSetUp (l : Logger) : Prop :=
  ∃ handler, l.handlers = [handler] ∧ handler.own = true ∧ handler.filters = [.markRun]

theorem isSetUp_of_handlers (h : l.handlers = [runHandler]) : l.IsSetUp := ⟨_, h, rfl, rfl⟩

/-- The first handler is attached, and no second one. -/
theorem attached_eq {handlers : List LogHandler} (h : handlers = [] ∨ handlers = [runHandler]) :
    attached handlers = [runHandler] := by
  rcases h with rfl | rfl <;> rfl

/-- After any calls the log is as it was if all of them were refused; otherwise it is as the last
one that was not refused has left it. -/
theorem afterCalls_cases (settingsLevel : String) (level : Int) (choices : List LevelChoice) :
    ((∀ c ∈ choices, c.IsRefused settingsLevel) ∧
      afterCalls ⟨level, []⟩ settingsLevel choices = ⟨level, []⟩) ∨
    ∃ before choice after n, choices = before ++ choice :: after ∧
      ¬choice.IsRefused settingsLevel ∧ (∀ c ∈ after, c.IsRefused settingsLevel) ∧
      (∃ e, Effective settingsLevel choice e ∧ e.Denotes n) ∧
      afterCalls ⟨level, []⟩ settingsLevel choices = ⟨n, [runHandler]⟩ := by
  induction choices using List.reverseRecOn with
  | nil => exact .inl ⟨by simp, rfl⟩
  | append_singleton choices choice ih =>
    rw [afterCalls_concat]
    generalize afterCalls ⟨level, []⟩ settingsLevel choices = l at ih ⊢
    have hhandlers : l.handlers = [] ∨ l.handlers = [runHandler] := by
      rcases ih with ⟨-, rfl⟩ | ⟨_, _, _, _, -, -, -, -, rfl⟩
      · exact .inl rfl
      · exact .inr rfl
    rcases hcall : l.configure settingsLevel choice with f | next
    · -- Nothing changes, and what was the last accepted call still is.
      have hrefused := exists_configure_eq_error_iff.mp ⟨f, hcall⟩
      rw [afterCall_of_error hcall]
      rcases ih with ⟨hall, rfl⟩ | ⟨before, last, after, n, rfl, haccepted, hafter, hlevel, rfl⟩
      · exact .inl ⟨by simpa [or_imp, forall_and] using ⟨hall, hrefused⟩, rfl⟩
      · refine .inr ⟨before, last, after ++ [choice], n, by simp, haccepted, ?_, hlevel, rfl⟩
        simpa [or_imp, forall_and] using ⟨hafter, hrefused⟩
    · -- This call is the last accepted one now.
      obtain ⟨hlevel, hnext⟩ := configure_eq_ok_iff.mp hcall
      have haccepted : ¬choice.IsRefused settingsLevel := fun hrefused => by
        obtain ⟨f, hf⟩ := exists_configure_eq_error_iff (l := l).mpr hrefused
        rw [hcall] at hf
        cases hf
      rw [afterCall_of_ok hcall]
      refine .inr ⟨choices, choice, [], next.level, rfl, haccepted, by simp, hlevel, ?_⟩
      rw [attached_eq hhandlers] at hnext
      rw [← hnext]

end Logger

open LevelChoice in
/-- **Setting up the log is atomic and idempotent.**  However often it was set up before, from a
state without handlers, there is no handler if all calls were refused, and otherwise exactly one, of
this program, which marks each record once.  The next call fails exactly if the level it works with
is a text that is no known name, and then it changes nothing.  A call that succeeds sets the level
it works with, leaves exactly one handler, and changes nothing if it is repeated. -/
theorem log_setup_atomic_and_idempotent (settingsLevel : String) (level : Int)
    (earlier : List LevelChoice) :
    let l := Logger.afterCalls ⟨level, []⟩ settingsLevel earlier
    ((∀ c ∈ earlier, c.IsRefused settingsLevel) → l = ⟨level, []⟩) ∧
    ((∃ c ∈ earlier, ¬c.IsRefused settingsLevel) → l.IsSetUp) ∧
    ∀ choice,
      ((∃ f, l.configure settingsLevel choice = .error f) ↔ choice.IsRefused settingsLevel) ∧
      (∀ f, l.configure settingsLevel choice = .error f →
        l.afterCall settingsLevel choice = l) ∧
      ∀ next, l.configure settingsLevel choice = .ok next →
        l.afterCall settingsLevel choice = next ∧
        (∃ e, Effective settingsLevel choice e ∧ e.Denotes next.level) ∧ next.IsSetUp ∧
        next.configure settingsLevel choice = .ok next := by
  intro l
  have hcases := Logger.afterCalls_cases settingsLevel level earlier
  have hhandlers : l.handlers = [] ∨ l.handlers = [runHandler] := by
    rcases hcases with ⟨-, hl⟩ | ⟨_, _, _, _, -, -, -, -, hl⟩
    · exact .inl (congrArg Logger.handlers hl)
    · exact .inr (congrArg Logger.handlers hl)
  refine ⟨fun hall => ?_, ?_, fun choice => ⟨Logger.exists_configure_eq_error_iff,
    fun f => Logger.afterCall_of_error, fun next hnext => ?_⟩⟩
  · rcases hcases with ⟨-, hl⟩ | ⟨before, choice, after, n, rfl, haccepted, -⟩
    · exact hl
    · exact absurd (hall choice (by simp)) haccepted
  · rintro ⟨choice, hmem, haccepted⟩
    rcases hcases with ⟨hall, -⟩ | ⟨_, _, _, _, -, -, -, -, hl⟩
    · exact absurd (hall choice hmem) haccepted
    · exact Logger.isSetUp_of_handlers (congrArg Logger.handlers hl)
  · obtain ⟨hlevel, hset⟩ := Logger.configure_eq_ok_iff.mp hnext
    rw [Logger.attached_eq hhandlers] at hset
    refine ⟨Logger.afterCall_of_ok hnext, hlevel, Logger.isSetUp_of_handlers hset, ?_⟩
    exact Logger.configure_eq_ok_iff.mpr
      ⟨hlevel, hset.trans (Logger.attached_eq (.inr hset)).symm⟩

/-- Between two refused calls a number was accepted, and it still counts after the second one. -/
theorem debug_after_refused_calls :
    let l := Logger.afterCalls ⟨0, []⟩ "VERBOSE" [.name "verbose", .number 15, .absent]
    (∃ c ∈ [.name "verbose", .number 15, .absent], ¬LevelChoice.IsRefused "VERBOSE" c) ∧
      l.level = 15 ∧ l.IsSetUp ∧
      l.configure "VERBOSE" .absent = .error (.unknownLevel (.text "VERBOSE")) ∧
      l.afterCall "VERBOSE" .absent = l ∧
      ∃ next, l.configure "VERBOSE" (.name "DEBUG") = .ok next ∧
        (∃ e, LevelChoice.Effective "VERBOSE" (.name "DEBUG") e ∧ e.Denotes next.level) ∧
        next.IsSetUp ∧ next.configure "VERBOSE" (.name "DEBUG") = .ok next := by
  intro l
  have haccepted : ∃ c ∈ [.name "verbose", .number 15, .absent],
      ¬LevelChoice.IsRefused "VERBOSE" c := by
    refine ⟨.number 15, by simp, ?_⟩
    rintro ⟨s, heffective, -⟩
    exact absurd (LevelChoice.effective_iff.mp heffective) nofun
  obtain ⟨-, hset, hcalls⟩ := log_setup_atomic_and_idempotent "VERBOSE" 0
    [.name "verbose", .number 15, .absent]
  obtain ⟨-, hfails, -⟩ := hcalls .absent
  obtain ⟨-, -, hsucceeds⟩ := hcalls (.name "DEBUG")
  have hrefused : l.configure "VERBOSE" .absent = .error (.unknownLevel (.text "VERBOSE")) := rfl
  have hdebug : l.configure "VERBOSE" (.name "DEBUG") = .ok ⟨10, [runHandler]⟩ := rfl
  exact ⟨haccepted, rfl, hset haccepted, hrefused, hfails _ hrefused, _, hdebug,
    (hsucceeds _ hdebug).2⟩

end ForgeDashboard
