import ForgeDashboard.Number.Numeral

/-!
# Commands

The command line names one command: a check of the installation, making the tables, listing the
component versions, showing the dashboard, or running the service.  Only the last one has options.

## Main definitions

* `Command` : a command.
* `Command.parse?` : the command that the words of a command line name.
-/

namespace ForgeDashboard

/-- A command of the program. -/
inductive Command where
  | doctor
  | createTables
  | versions
  | dashboard
  | serve (host : String) (port : Int)
  deriving DecidableEq

namespace Command

/-- Does the word look like an option? -/
def isOption (word : String) : Bool := 1 < word.length && word.toList.head? == some '-'

/-- The word that ends the options. -/
def optionsEnd : String := "--"

/-- The name of a command and the words after it. -/
def splitName? : List String → Option (String × List String)
  | [] => none
  | word :: rest =>
    if word = optionsEnd then
      match rest with
      | [] => none
      | name :: after => some (name, after)
    else if isOption word then none
    else some (word, rest)

/-- Are these the words of a command without options and arguments? -/
def isBare (words : List String) : Bool := words.isEmpty || words == [optionsEnd]

/-- A word that sets an option: its name, and its value if the word holds it. -/
def splitOption (word : String) : String × Option String :=
  let name := word.toList.takeWhile (· != '=')
  match word.toList.dropWhile (· != '=') with
  | _ :: value => (String.ofList name, some (String.ofList value))
  | [] => (String.ofList name, none)

/-- Sets an option of the service. -/
def setOption (name value : String) (host : String) (port : Int) : Option (String × Int) :=
  if name = "--host" then some (value, port)
  else if name = "--port" then (readInteger? value).map fun port => (host, port)
  else none

/-- The options of the service, the last one of a name counting.  A value stands after an equals
sign or is the next word, whatever that is. -/
def readServe? (host : String) (port : Int) : List String → Option (String × Int)
  | [] => some (host, port)
  | [word] =>
    if word = optionsEnd then some (host, port)
    else match splitOption word with
      | (name, some value) => setOption name value host port
      | (_, none) => none
  | word :: next :: rest =>
    match splitOption word with
    | (name, some value) =>
      match setOption name value host port with
      | some (host, port) => readServe? host port (next :: rest)
      | none => none
    | (name, none) =>
      match setOption name next host port with
      | some (host, port) => readServe? host port rest
      | none => none

/-- The command of a name with the words after it. -/
def ofName? (name : String) (words : List String) : Option Command :=
  match name with
  | "doctor" => if isBare words then some doctor else none
  | "versions" => if isBare words then some versions else none
  | "dashboard" => if isBare words then some dashboard else none
  | "serve" => (readServe? "127.0.0.1" 8000 words).map fun options => serve options.1 options.2
  | "db" =>
    match splitName? words with
    | some ("init", rest) => if isBare rest then some createTables else none
    | _ => none
  | _ => none

/-- The command that the words of a command line name, if they are well formed. -/
def parse? (words : List String) : Option Command := do
  let (name, rest) ← splitName? words
  ofName? name rest

end Command

end ForgeDashboard
