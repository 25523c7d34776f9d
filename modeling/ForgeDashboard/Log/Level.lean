import ForgeDashboard.Fault

/-!
# Levels of the log

The log is set up with a level: a number, or one of eight names.  A call without a level takes the
one from the settings.  The first call that succeeds attaches a handler, which marks every record
with the number of this run; later calls leave the handlers alone, and a call that fails changes
nothing.

## Main definitions

* `LevelChoice`, `LevelChoice.level` : a level as it is asked for, and the number that it means.
* `Logger`, `Logger.setUp` : the state of the log, and a call that sets it up.
* `Logger.configure`, `Logger.afterCall` : what a call gives, and the state that it leaves.
-/

namespace ForgeDashboard

/-- A level as it is asked for. -/
inductive LevelChoice where
  | absent
  | name (s : String)
  | number (n : Int)
  deriving DecidableEq

namespace LevelChoice

/-- The names of levels with their numbers. -/
def names : List (String × Int) :=
  [("CRITICAL", 50), ("FATAL", 50), ("ERROR", 40), ("WARN", 30), ("WARNING", 30), ("INFO", 20),
    ("DEBUG", 10), ("NOTSET", 0)]

/-- A level that is absent, an empty name or zero asks for nothing. -/
def isVoid : LevelChoice → Bool
  | absent => true
  | name s => s.isEmpty
  | number n => n == 0

/-- The choice, or another one if it asks for nothing. -/
def orElse (choice fallback : LevelChoice) : LevelChoice :=
  if choice.isVoid then fallback else choice

/-- The number of a level; only known names have one. -/
def level : LevelChoice → Except Fault Int
  | absent => .error (.unknownLevel .null)
  | number n => .ok n
  | name s =>
    match names.lookup s with
    | some n => .ok n
    | none => .error (.unknownLevel (.text s))

end LevelChoice

/-- What a handler does to a record before it is written. -/
inductive RecordFilter where
  /-- Marks the record with the number of this run. -/
  | markRun
  deriving DecidableEq

/-- A handler that writes records. -/
structure LogHandler where
  /-- Was it attached by this program? -/
  own : Bool
  filters : List RecordFilter
  deriving DecidableEq

/-- The handler of this program. -/
def runHandler : LogHandler := ⟨true, [.markRun]⟩

/-- The state of the log of this program. -/
structure Logger where
  level : Int
  handlers : List LogHandler
  deriving DecidableEq

namespace Logger

/-- The name of the log of this program. -/
def name : String := "gitarena"

/-- The state before the first call. -/
def initial : Logger := ⟨0, []⟩

/-- Sets the level, if it is known. -/
def setLevel (choice : LevelChoice) : ExceptT Fault (StateM Logger) Unit := do
  let level ← choice.level
  modify fun l => { l with level := level }

/-- Attaches the handler of this program, unless one is attached. -/
def attach : ExceptT Fault (StateM Logger) Unit := do
  unless (← get).handlers.any (·.own) do
    modify fun l => { l with handlers := l.handlers ++ [runHandler] }

/-- Sets up the log with a level, or with the level of the settings if none is asked for.  What was
done before a failure stays done. -/
def setUp (settingsLevel : String) (choice : LevelChoice) : ExceptT Fault (StateM Logger) Unit := do
  setLevel (choice.orElse (.name settingsLevel))
  attach

/-- The state after a call, whether it succeeds or fails. -/
def afterCall (l : Logger) (settingsLevel : String) (choice : LevelChoice) : Logger :=
  ((setUp settingsLevel choice).run.run l).2

/-- The state after a call that succeeds, or its failure. -/
def configure (l : Logger) (settingsLevel : String) (choice : LevelChoice) :
    Except Fault Logger :=
  ((setUp settingsLevel choice).run.run l).1.map fun _ => l.afterCall settingsLevel choice

end Logger

end ForgeDashboard
