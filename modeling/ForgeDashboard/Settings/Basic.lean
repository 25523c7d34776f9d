import ForgeDashboard.Fault
import ForgeDashboard.Number.Numeral
import ForgeDashboard.Settings.EnvFile
import ForgeDashboard.Text.Uppercase

/-!
# Settings

Three settings rule the program: the address of the database, the limit on each source of the
dashboard in seconds, and the level of the log.  Each is taken from the environment, or else from
the environment file, or else has a default.  Names of variables are read in any letter case.

## Main definitions

* `Settings` : the settings.
* `Settings.chosen?` : the text that decides a setting.
* `readLimit` : the limit that a text denotes.
* `Settings.ofSources` : the settings of an environment and an environment file.
-/

namespace ForgeDashboard

/-- The settings of the program. -/
structure Settings where
  databaseUrl : String
  timeout : Binary64
  logLevel : String
  deriving DecidableEq

/-- The names of the settings. -/
inductive SettingName where
  | databaseUrl
  | timeout
  | logLevel
  deriving DecidableEq

/-- The name of a setting in messages. -/
def SettingName.text : SettingName → String
  | .databaseUrl => "DATABASE_URL"
  | .timeout => "DASHBOARD_TIMEOUT"
  | .logLevel => "LOG_LEVEL"

/-- What precedes the name of a setting in the name of its variable. -/
def variableStem : String := "GITARENA_"

/-- A text without its letter case, as far as ASCII letters go. -/
def caseless (s : String) : String := String.ofList (s.toList.map Char.toLower)

/-- Is the variable of this name the variable of a setting? -/
def SettingName.isVariable (setting : SettingName) (name : String) : Bool :=
  caseless name == caseless (variableStem ++ setting.text)

/-- A numeral in which single underscores between other characters are left out. -/
def dropUnderscores? (cs : List Char) : Option (List Char) :=
  let doubled := (cs.zip cs.tail).any fun pair => pair.1 == '_' && pair.2 == '_'
  if cs.head? = some '_' ∨ cs.getLast? = some '_' ∨ doubled then none
  else some (cs.filter (· != '_'))

/-- The number that a text denotes, white space around it ignored. -/
def readNumber? (s : String) : Option Binary64 :=
  match Binary64.ofNumeral? (trimWith isWhite s.toList) with
  | some x => some x
  | none => (dropUnderscores? s.toList).bind Binary64.ofNumeral?

/-- The limit that a text denotes: a number that is not zero or less. -/
def readLimit (s : String) : Except Fault Binary64 :=
  match readNumber? s with
  | none => .error (.invalidFields [(SettingName.timeout.text, .notNumeral)])
  | some x =>
    if x ≤ 0 then .error (.invalidFields [(SettingName.timeout.text, .timeoutNotPositive)])
    else .ok x

namespace Settings

/-- The settings where nothing is set. -/
def default : Settings where
  databaseUrl := "sqlite:///data/gitarena.db"
  timeout := Binary64.ofRat 5
  logLevel := "INFO"

/-- The text of a setting in the environment: that of the last variable of its name. -/
def inEnvironment? (setting : SettingName) (env : List (String × String)) : Option String :=
  (env.reverse.find? fun entry => setting.isVariable entry.1).map (·.2)

/-- The text of a setting in an environment file: that of the last name, if it has a value. -/
def inFile? (setting : SettingName) (entries : List EnvFile.Binding) : Option String :=
  (entries.reverse.find? fun entry => setting.isVariable entry.1).bind (·.2)

/-- The text that decides a setting: that of the environment, or else that of the file. -/
def chosen? (setting : SettingName) (env : List (String × String))
    (bindings : List EnvFile.Binding) : Option String :=
  (inEnvironment? setting env).or (inFile? setting (EnvFile.resolved env bindings))

/-- The settings of an environment and the bindings of an environment file. -/
def ofSources (env : List (String × String)) (bindings : List EnvFile.Binding) :
    Except Fault Settings := do
  let timeout ← match chosen? .timeout env bindings with
    | some text => readLimit text
    | none => .ok default.timeout
  return {
    databaseUrl := (chosen? .databaseUrl env bindings).getD default.databaseUrl
    timeout := timeout
    logLevel := ((chosen? .logLevel env bindings).map uppercase).getD default.logLevel }

/-- Is the database a file? -/
def isSqlite (s : Settings) : Bool := "sqlite".toList.isPrefixOf s.databaseUrl.toList

end Settings

end ForgeDashboard
