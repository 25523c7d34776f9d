import ForgeDashboard.Text.Blank

/-!
# Environment files

An environment file sets variables, one after another.  A line sets a name to a plain value, which
ends at a comment, or to a value between quotes, which may run over several lines and hold escapes.
A line without an equals sign names a variable without a value.  Lines that cannot be read are left
out.  Values may refer to variables of the environment and to those set before.

## Main definitions

* `EnvFile.bindings` : the names of a file with their values as written.
* `EnvFile.resolved` : the names with the values after references are replaced.
-/

namespace ForgeDashboard

namespace EnvFile

/-- Lines end in a line feed, a carriage return, or both; here always in a line feed. -/
def unifyLineEnds : List Char → List Char
  | '\r' :: '\n' :: rest => '\n' :: unifyLineEnds rest
  | '\r' :: rest => '\n' :: unifyLineEnds rest
  | c :: rest => c :: unifyLineEnds rest
  | [] => []

/-- A blank within a line. -/
def isInlineBlank (c : Char) : Bool := isBlank c && c != '\n'

/-- Drops blanks within a line. -/
def skipInline (cs : List Char) : List Char := cs.dropWhile isInlineBlank

/-- Drops the rest of a line with its end. -/
def skipLine (cs : List Char) : List Char := (cs.dropWhile (· != '\n')).drop 1

/-- Drops the word that may precede a name. -/
def skipExport (cs : List Char) : List Char :=
  let word := "export".toList
  let rest := cs.drop word.length
  if cs.take word.length = word ∧ rest.head?.any isInlineBlank then skipInline rest else cs

/-- The characters up to a closing quote, and what follows the quote.  A quote after a backslash
does not close, unless no other one follows. -/
def readQuoted? (quote : Char) : List Char → Option (List Char × List Char)
  | [] => none
  | '\\' :: c :: rest =>
    if c = quote then
      match readQuoted? quote rest with
      | some (inner, after) => some ('\\' :: c :: inner, after)
      | none => some (['\\'], rest)
    else (readQuoted? quote (c :: rest)).map fun read => ('\\' :: read.1, read.2)
  | c :: rest =>
    if c = quote then some ([], rest)
    else (readQuoted? quote rest).map fun read => (c :: read.1, read.2)

/-- Replaces the escapes of a table. -/
def unescape (escape? : Char → Option Char) : List Char → List Char
  | [] => []
  | '\\' :: c :: rest =>
    match escape? c with
    | some d => d :: unescape escape? rest
    | none => '\\' :: unescape escape? (c :: rest)
  | c :: rest => c :: unescape escape? rest

/-- The escapes between single quotes. -/
def singleEscape? (c : Char) : Option Char :=
  if c = '\\' ∨ c = '\x27' then some c else none

/-- The escapes between double quotes. -/
def doubleEscape? (c : Char) : Option Char :=
  [('\\', '\\'), ('\x27', '\x27'), ('\x22', '\x22'), ('a', '\x07'), ('b', '\x08'), ('f', '\x0c'),
    ('n', '\n'), ('r', '\r'), ('t', '\t'), ('v', '\x0b')].lookup c

/-- Drops a comment that follows a blank. -/
def cutComment : List Char → List Char
  | [] => []
  | c :: rest =>
    if isBlank c && (rest.dropWhile isBlank).head? == some '#' then [] else c :: cutComment rest

/-- Drops blanks at the end. -/
def trimEnd (cs : List Char) : List Char := (cs.reverse.dropWhile isBlank).reverse

/-- A value, and what follows it. -/
def readValue? : List Char → Option (List Char × List Char)
  | '\x27' :: rest =>
    (readQuoted? '\x27' rest).map fun read => (unescape singleEscape? read.1, read.2)
  | '\x22' :: rest =>
    (readQuoted? '\x22' rest).map fun read => (unescape doubleEscape? read.1, read.2)
  | cs => some (trimEnd (cutComment (cs.takeWhile (· != '\n'))), cs.dropWhile (· != '\n'))

/-- Does the character end a name that is not quoted? -/
def endsName (c : Char) : Bool := c == '=' || c == '#' || isBlank c

/-- A name, and what follows it; before a comment there is no name. -/
def readName? : List Char → Option (Option (List Char) × List Char)
  | '#' :: rest => some (none, '#' :: rest)
  | '\x27' :: rest =>
    let name := rest.takeWhile (· != '\x27')
    match rest.dropWhile (· != '\x27') with
    | _ :: after => if name.isEmpty then none else some (some name, after)
    | [] => none
  | cs =>
    let name := cs.takeWhile (!endsName ·)
    if name.isEmpty then none else some (some name, cs.dropWhile (!endsName ·))

/-- Drops a comment up to the end of its line. -/
def skipComment (cs : List Char) : List Char :=
  if (skipInline cs).head? = some '#' then cs.dropWhile (· != '\n') else cs

/-- A name with its value, which may be missing. -/
abbrev Binding := String × Option String

/-- Ends a line on which a name and a value were read. -/
def endLine (name : Option (List Char)) (value : Option (List Char)) (cs : List Char) :
    Option Binding × List Char :=
  let rest := skipComment cs
  let found := name.map fun name => (String.ofList name, value.map String.ofList)
  match skipInline rest with
  | [] => (found, [])
  | '\n' :: after => (found, after)
  | _ => (none, skipLine rest)

/-- Reads a line: the binding on it, if there is one, and what follows the line. -/
def readLine (cs : List Char) : Option Binding × List Char :=
  let start := skipExport (cs.dropWhile isBlank)
  match readName? start with
  | none => (none, skipLine start)
  | some (name, rest) =>
    match skipInline rest with
    | '=' :: after =>
      let after := skipInline after
      match readValue? after with
      | some (value, rest) => endLine name (some value) rest
      | none => (none, skipLine after)
    | rest => endLine name none rest

/-- Reads line after line. -/
def readLines (cs : List Char) : List Binding :=
  let read := readLine cs
  if read.2.length < cs.length then read.1.toList ++ readLines read.2 else read.1.toList
termination_by cs.length

/-- The names of a file with their values as written, in order. -/
def bindings (text : String) : List Binding := readLines (unifyLineEnds text.toList)

/-! ### References -/

/-- A reference to a variable, with the value that stands for a variable that is not set. -/
structure Reference where
  name : String
  default : String

/-- A reference after its opening brace, and what follows it. -/
def readReference? (cs : List Char) : Option (Reference × List Char) :=
  let name := String.ofList (cs.takeWhile fun c => c != '\x7d' && c != ':')
  match cs.dropWhile fun c => c != '\x7d' && c != ':' with
  | '\x7d' :: rest => some (⟨name, ""⟩, rest)
  | ':' :: '-' :: rest =>
    match rest.dropWhile (· != '\x7d') with
    | _ :: after => some (⟨name, String.ofList (rest.takeWhile (· != '\x7d'))⟩, after)
    | [] => none
  | _ => none

/-- Replaces the references of a value. -/
def replaceReferences (value : Reference → String) (cs : List Char) : List Char :=
  match cs with
  | [] => []
  | '$' :: '\x7b' :: rest =>
    match readReference? rest with
    | some (reference, after) =>
      if after.length < rest.length then
        (value reference).toList ++ replaceReferences value after
      else '$' :: replaceReferences value ('\x7b' :: rest)
    | none => '$' :: replaceReferences value ('\x7b' :: rest)
  | c :: rest => c :: replaceReferences value rest
termination_by cs.length

/-- Sets a name, which keeps its place if it was set before. -/
def put {α : Type} (entries : List (String × α)) (name : String) (value : α) :
    List (String × α) :=
  if entries.any (·.1 == name) then
    entries.map fun entry => if entry.1 == name then (name, value) else entry
  else entries ++ [(name, value)]

/-- The value of a reference: that set in the file, or else that of the environment. -/
def referenceValue (env : List (String × String)) (entries : List Binding) (r : Reference) :
    String :=
  match entries.lookup r.name with
  | some (some value) => value
  | some none => ""
  | none => (env.lookup r.name).getD r.default

/-- The names of a file with their values after references are replaced.  A name that is set again
keeps its first place and takes the last value. -/
def resolved (env : List (String × String)) (bindings : List Binding) : List Binding :=
  bindings.foldl (fun entries binding =>
    put entries binding.1 (binding.2.map fun value =>
      String.ofList (replaceReferences (referenceValue env entries) value.toList))) []

end EnvFile

end ForgeDashboard
