import ForgeDashboard.Number.Scientific
import ForgeDashboard.Reading

/-!
# Message templates

A message of the log may be a template: text with placeholders, each of which takes the next
argument, or, if the only argument is a dictionary, the entry of the name it gives.  A placeholder
starts with a percent sign and ends in a letter that says how the argument is written; between them
stand flags, a least width and a precision.

## Main definitions

* `Placeholder` : a placeholder.
* `Template.pieces` : the pieces of a template.
* `Template.fill` : the message of a template and its arguments.
-/

namespace ForgeDashboard

/-- A width or a precision: none, a number, or one that the next argument gives. -/
inductive Extent where
  | absent
  | fixed (n : Nat)
  | argument
  deriving DecidableEq

/-- How a placeholder chooses its argument: it takes the next one, or the entry of a name.  The
template may end before the name does. -/
inductive Choice where
  | next
  | entry (name : String)
  | unfinished
  deriving DecidableEq

/-- A placeholder of a template. -/
structure Placeholder where
  choice : Choice
  flags : List Char
  width : Extent
  precision : Extent
  /-- The letter at the end, unless the template ends before it. -/
  form : Option Char
  /-- Where in the template the form stands. -/
  position : Nat

/-- A piece of a template. -/
inductive TemplatePiece where
  | plain (c : Char)
  | place (p : Placeholder)

namespace Template

/-- The flags that may follow the percent sign. -/
def isFlag (c : Char) : Bool := ['-', '+', ' ', '#', '0'].contains c

/-- The name of an entry at the front, between balanced parentheses, and what follows it. -/
def readEntryName? (depth : Nat) : List Char → Option (List Char × List Char)
  | [] => none
  | ')' :: rest =>
    if depth = 0 then some ([], rest)
    else (readEntryName? (depth - 1) rest).map fun read => (')' :: read.1, read.2)
  | c :: rest =>
    (readEntryName? (if c = '(' then depth + 1 else depth) rest).map fun read =>
      (c :: read.1, read.2)

/-- A width or a precision at the front, and what follows it. -/
def readExtent (cs : List Char) : Extent × List Char :=
  match cs with
  | '*' :: rest => (.argument, rest)
  | _ =>
    let ds := spanDigits cs
    (if ds.1.isEmpty then .absent else .fixed (digitsValue ds.1), ds.2)

/-- A precision at the front, and what follows it. -/
def readPrecision (cs : List Char) : Extent × List Char :=
  match cs with
  | '.' :: rest =>
    match readExtent rest with
    | (.absent, after) => (.fixed 0, after)
    | read => read
  | _ => (.absent, cs)

/-- Drops a mark for the size of a number, which says nothing here. -/
def skipSizeMark (cs : List Char) : List Char :=
  match cs with
  | c :: rest => if c = 'h' ∨ c = 'l' ∨ c = 'L' then rest else cs
  | [] => []

/-- The choice of the argument at the front, and what follows it. -/
def readChoice (cs : List Char) : Choice × List Char :=
  match cs with
  | '(' :: inner =>
    match readEntryName? 0 inner with
    | some (name, after) => (.entry (String.ofList name), after)
    | none => (.unfinished, [])
  | _ => (.next, cs)

/-- The placeholder after a percent sign, and what follows it. -/
def readPlaceholder (total : Nat) (cs : List Char) : Placeholder × List Char :=
  let (choice, rest) := readChoice cs
  let flags := rest.takeWhile isFlag
  let (width, rest) := readExtent (rest.dropWhile isFlag)
  let (precision, rest) := readPrecision rest
  let rest := skipSizeMark rest
  (⟨choice, flags, width, precision, rest.head?, total - rest.length⟩, rest.tail)

/-- The pieces of the rest of a template of a given length.  Two percent signs stand for one. -/
def piecesFrom (total : Nat) (cs : List Char) : List TemplatePiece :=
  match cs with
  | [] => []
  | '%' :: '%' :: rest => .plain '%' :: piecesFrom total rest
  | '%' :: rest =>
    let (p, after) := readPlaceholder total rest
    if after.length < rest.length then .place p :: piecesFrom total after else [.place p]
  | c :: rest => .plain c :: piecesFrom total rest
termination_by cs.length

/-- The pieces of a template. -/
def pieces (template : String) : List TemplatePiece :=
  piecesFrom template.toList.length template.toList

/-! ### Writing an argument -/

/-- How a placeholder is written once its width and precision are known. -/
structure Layout where
  left : Bool
  plus : Bool
  space : Bool
  alternate : Bool
  zeros : Bool
  width : Nat
  precision : Option Nat

/-- Fills a text with blanks up to the width. -/
def Layout.pad (l : Layout) (s : String) : String :=
  let fill := String.ofList (List.replicate (l.width - s.length) ' ')
  if l.left then s ++ fill else fill ++ s

/-- Writes a number: its sign, a mark of its base, and its digits, filled with zeros between them or
with blanks around. -/
def Layout.number (l : Layout) (negative : Bool) (mark digits : String) : String :=
  let sign := if negative then "-" else if l.plus then "+" else if l.space then " " else ""
  let lead := sign ++ mark
  if l.zeros && !l.left then
    lead ++ String.ofList (List.replicate (l.width - lead.length - digits.length) '0') ++ digits
  else l.pad (lead ++ digits)

/-- Writes a text, cut to the precision. -/
def Layout.text (l : Layout) (s : String) : String :=
  l.pad (match l.precision with
    | some n => String.ofList (s.toList.take n)
    | none => s)

/-- Digits with zeros on the left up to the precision. -/
def Layout.digits (l : Layout) (ds : String) : String :=
  String.ofList (List.replicate (l.precision.getD 0 - ds.length) '0') ++ ds

/-- A text in capital letters where the form asks for them. -/
def capitalFor (form : Char) (s : String) : String :=
  if form.isUpper then String.ofList (s.toList.map Char.toUpper) else s

/-- Writes an integer in a base, with the mark of the base if the alternate form is wanted. -/
def Layout.integer (l : Layout) (form : Char) (n : Int) : String :=
  let base := if form = 'x' ∨ form = 'X' then 16 else if form = 'o' then 8 else 10
  let mark := if l.alternate ∧ base ≠ 10 then "0" ++ String.singleton form else ""
  l.number (n < 0) mark (l.digits (capitalFor form (String.ofList (Nat.toDigits base n.natAbs))))

/-- Writes a double in one of the three forms for doubles. -/
def Layout.double (l : Layout) (form : Char) (x : Binary64) : String :=
  let places := l.precision.getD 6
  match x with
  | .nan => l.number false "" (capitalFor form "nan")
  | .inf s => l.number s "" (capitalFor form "inf")
  | .finite s m e _ =>
    let q := Binary64.magnitude m e
    let shown := match form.toLower with
      | 'f' =>
        let digits := placesText places (scaledPlaces places q)
        if l.alternate then keepPoint digits else digits
      | 'e' => Binary64.scientificMagnitude places l.alternate q
      | _ => Binary64.generalMagnitude places l.alternate q
    l.number s "" (capitalFor form shown)

/-- The number that an argument must be. -/
def requireNumber (form : Char) (needed : String) (v : Value) : Except Fault Num :=
  match v.toNum? with
  | some n => .ok n
  | none => .error (.placeholderMismatch form needed v)

/-- A text in which every character that is not ASCII is escaped. -/
def asciiOnly (s : String) : String :=
  String.ofList (s.toList.flatMap fun c => if c.toNat < 0x80 then [c] else escapeCode c)

/-- Writes the character that an argument denotes. -/
def writeChar (l : Layout) (v : Value) : Except Fault String :=
  match v with
  | .text s => if s.length = 1 then .ok (l.pad s) else .error .characterExpected
  | _ => match v.toNum? with
    | some (.int n) =>
      if 0 ≤ n ∧ n < 0x110000 then .ok (l.pad (String.singleton (Char.ofNat n.toNat)))
      else .error .characterTooLarge
    | _ => .error .characterExpected

/-- Writes an argument in a form, which stands at a position of the template. -/
def write (form : Char) (position : Nat) (l : Layout) (v : Value) : Except Fault String :=
  match form with
  | 's' => .ok (l.text v.shown)
  | 'r' => .ok (l.text v.quoted)
  | 'a' => .ok (l.text (asciiOnly v.quoted))
  | 'c' => writeChar l v
  | 'd' | 'i' | 'u' => do
    let n ← requireNumber form "a real number" v
    return l.integer 'd' (← n.truncate.mapError .arithmetic)
  | 'x' | 'X' | 'o' => do
    match ← requireNumber form "an integer" v with
    | .int n => return l.integer form n
    | .float _ => throw (.placeholderMismatch form "an integer" v)
  | 'e' | 'E' | 'f' | 'F' | 'g' | 'G' =>
    match v.toNum? with
    | some n => do return l.double form (← n.toBinary64.mapError .arithmetic)
    | none => .error (.realExpected v)
  | _ => .error (.unknownPlaceholder form position)

/-! ### Filling -/

/-- The arguments of a template: those that follow in order, and the dictionary whose entries can be
named. -/
structure Arguments where
  rest : List Value
  entries : Option (List (String × Value))
  /-- Need all arguments be used? -/
  exact : Bool

/-- The arguments of a list.  If the only one is a dictionary that is not empty, it stands for its
entries, too. -/
def Arguments.ofList : List Value → Arguments
  | [.dict fields] =>
    if fields.isEmpty then ⟨[.dict fields], none, true⟩
    else ⟨[.dict fields], some fields, false⟩
  | values => ⟨values, none, true⟩

/-- Takes the next argument. -/
def Arguments.next (a : Arguments) : Except Fault (Value × Arguments) :=
  match a.rest with
  | v :: rest => .ok (v, { a with rest := rest })
  | [] => .error .missingArgument

/-- Prepares the argument that a placeholder chooses.  A named entry takes the place of all
arguments that follow in order. -/
def Arguments.choose (a : Arguments) (choice : Choice) : Except Fault Arguments :=
  match choice, a.entries with
  | .next, _ => .ok a
  | _, none => .error .dictionaryExpected
  | .unfinished, some _ => .error .unfinishedEntry
  | .entry name, some fields =>
    match fields.lookup name with
    | some v => .ok { a with rest := [v] }
    | none => .error (.raised .key (some name))

/-- The number that a width or precision is. -/
def Arguments.extent (a : Arguments) (role : ExtentRole) :
    Extent → Except Fault (Option Int × Arguments)
  | .absent => .ok (none, a)
  | .fixed n => if n < role.limit then .ok (some n, a) else .error (.extentTooLarge role)
  | .argument => do
    let (v, a) ← a.next
    match v.toNum? with
    | some (.int n) =>
      if -role.limit ≤ n ∧ n < role.limit then return (some n, a)
      else throw (.extentOutOfRange role)
    | _ => throw .extentExpected

/-- Writes a placeholder. -/
def writePlaceholder (a : Arguments) (p : Placeholder) : Except Fault (String × Arguments) := do
  let a ← a.choose p.choice
  let (width, a) ← a.extent .width p.width
  let (precision, a) ← a.extent .precision p.precision
  match p.form with
  | none => throw .unfinishedTemplate
  | some form =>
    let (v, a) ← a.next
    let wide := width.getD 0
    let layout : Layout := {
      left := p.flags.contains '-' || wide < 0
      plus := p.flags.contains '+'
      space := p.flags.contains ' '
      alternate := p.flags.contains '#'
      zeros := p.flags.contains '0'
      width := wide.natAbs
      precision := precision.map Int.toNat }
    return (← write form p.position layout v, a)

/-- Writes the pieces of a template one after another. -/
def fillPieces (a : Arguments) : List TemplatePiece → Except Fault String
  | [] => if a.exact && !a.rest.isEmpty then .error .unusedArguments else .ok ""
  | .plain c :: rest => do return String.singleton c ++ (← fillPieces a rest)
  | .place p :: rest => do
    let (s, a) ← writePlaceholder a p
    return s ++ (← fillPieces a rest)

/-- The message of a template.  Without arguments a template stands for itself. -/
def fill (template : String) (arguments : List Value) : Except Fault String :=
  if arguments.isEmpty then .ok template
  else fillPieces (Arguments.ofList arguments) (pieces template)

end Template

end ForgeDashboard
