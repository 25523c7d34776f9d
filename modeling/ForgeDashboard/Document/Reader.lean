import ForgeDashboard.Document.Basic
import ForgeDashboard.Number.Numeral

/-!
# Reading documents

What whoever receives a printed document makes of it.  A text is read character by character, by a
machine that is between two parts of a document or within a word or a quoted text, and that keeps
the parts since the last bracket that is still open, with the parts in front of each open bracket.
When a bracket is closed, the parts since it was opened become one part.

The reader knows documents of this program, in which there are no truth values.  It is lenient about
the form of numbers, as it accepts zeros in front of a number and a plus sign.

## Main definitions

* `Reader.State`, `Reader.State.step` : the machine, and what it does with a character.
* `Document.read?` : the document that a text says.
-/

namespace ForgeDashboard

namespace Reader

/-! ### Words -/

/-- White space between parts. -/
def isBlank (c : Char) : Bool := c = ' ' || c = '\t' || c = '\n' || c = '\r'

/-- A character that ends a word. -/
def isDelimiter (c : Char) : Bool :=
  isBlank c || c = '\x22' || c = ',' || c = ':' || c = '[' || c = ']' || c = '\x7b' || c = '\x7d'

/-- The integer that a word says. -/
def readWhole? (cs : List Char) : Option Int :=
  let signed := splitSign cs
  let ds := spanDigits signed.2
  if ds.1.isEmpty || !ds.2.isEmpty then none
  else
    let n : Int := digitsValue ds.1
    some (if signed.1 then -n else n)

/-- Does a word say a double?  Then it has a point or an exponent. -/
def hasFraction (cs : List Char) : Bool := cs.any fun c => c = '.' || c = 'e' || c = 'E'

/-- The document that a word says. -/
def readWord? (cs : List Char) : Option Document :=
  if cs = "null".toList then some .null
  else if hasFraction cs then (Binary64.ofNumeral? cs).map .float
  else (readWhole? cs).map .int

/-! ### Quoted texts -/

/-- The value of a hexadecimal digit. -/
def hexValue? (c : Char) : Option Nat :=
  if c.isDigit then some (c.toNat - 48)
  else if 'a' ≤ c && c ≤ 'f' then some (c.toNat - 87)
  else if 'A' ≤ c && c ≤ 'F' then some (c.toNat - 55)
  else none

/-- The 16-bit units of a character: two of them beyond the first 65536. -/
def units (c : Char) : List Nat :=
  if c.toNat < 0x10000 then [c.toNat]
  else
    let beyond := c.toNat - 0x10000
    [0xd800 + beyond / 0x400, 0xdc00 + beyond % 0x400]

/-- The first of the two units of a character. -/
def isLeading (unit : Nat) : Bool := 0xd800 ≤ unit && unit < 0xdc00

/-- The second of the two units of a character. -/
def isTrailing (unit : Nat) : Bool := 0xdc00 ≤ unit && unit < 0xe000

/-- The characters of 16-bit units.  A unit that belongs to another one does not stand alone. -/
def characters? : List Nat → Option (List Char)
  | [] => some []
  | unit :: rest =>
    if isLeading unit then
      match rest with
      | next :: rest =>
        if isTrailing next then
          (Char.ofNat (0x10000 + (unit - 0xd800) * 0x400 + (next - 0xdc00)) :: ·) <$>
            characters? rest
        else none
      | [] => none
    else if isTrailing unit then none
    else (Char.ofNat unit :: ·) <$> characters? rest

/-- The unit that a letter after a backslash stands for. -/
def escapedUnit? (c : Char) : Option Nat :=
  if c = '\x22' || c = '\\' || c = '/' then some c.toNat
  else if c = 'b' then some 8
  else if c = 'f' then some 12
  else if c = 'n' then some 10
  else if c = 'r' then some 13
  else if c = 't' then some 9
  else none

/-! ### Parts of documents -/

/-- The two kinds of brackets. -/
inductive Bracket where
  | square
  | curly
  deriving DecidableEq

/-- A part of a document that was read: a value, or what stands between values. -/
inductive Part where
  | value (d : Document)
  | comma
  | colon

/-- The items of a list, from what stands between its brackets. -/
def items? : List Part → Option (List Document)
  | [] => some []
  | [.value d] => some [d]
  | .value d :: .comma :: next :: rest => (d :: ·) <$> items? (next :: rest)
  | _ => none

/-- The fields of an object, from what stands between its brackets. -/
def fields? : List Part → Option (List (String × Document))
  | [] => some []
  | [.value (.text name), .colon, .value d] => some [(name, d)]
  | .value (.text name) :: .colon :: .value d :: .comma :: next :: rest =>
    ((name, d) :: ·) <$> fields? (next :: rest)
  | _ => none

/-- The document between two brackets. -/
def Bracket.document? (parts : List Part) : Bracket → Option Document
  | square => .list <$> items? parts
  | curly => .object <$> fields? parts

/-! ### The machine -/

/-- What the machine is in the middle of. -/
inductive Mode where
  /-- Between two parts. -/
  | between
  /-- Within a word. -/
  | word (cs : List Char)
  /-- Within a quoted text, of which these are the units. -/
  | quoted (us : List Nat)
  /-- After a backslash. -/
  | escaped (us : List Nat)
  /-- Within a unit, of which these are the digits. -/
  | unit (us : List Nat) (digits : List Nat)

/-- The state of the machine. -/
structure State where
  mode : Mode
  /-- The parts since the last open bracket. -/
  parts : List Part
  /-- The open brackets, the last one first, each with the parts in front of it. -/
  opened : List (Bracket × List Part)

namespace State

/-- Nothing was read. -/
def start : State := ⟨.between, [], []⟩

/-- Adds a part. -/
def add (s : State) (p : Part) : State := ⟨.between, s.parts ++ [p], s.opened⟩

/-- Opens a bracket. -/
def openBracket (s : State) (b : Bracket) : State := ⟨.between, [], (b, s.parts) :: s.opened⟩

/-- Closes a bracket, which makes one part of those since it was opened. -/
def closeBracket? (s : State) (b : Bracket) : Option State :=
  match s.opened with
  | (b', before) :: opened =>
    if b = b' then (fun d => ⟨.between, before ++ [.value d], opened⟩) <$> b.document? s.parts
    else none
  | [] => none

/-- Reads a character between two parts. -/
def enter (s : State) (c : Char) : Option State :=
  if isBlank c then some s
  else if c = '\x22' then some { s with mode := .quoted [] }
  else if c = ',' then some (s.add .comma)
  else if c = ':' then some (s.add .colon)
  else if c = '[' then some (s.openBracket .square)
  else if c = ']' then s.closeBracket? .square
  else if c = '\x7b' then some (s.openBracket .curly)
  else if c = '\x7d' then s.closeBracket? .curly
  else some { s with mode := .word [c] }

/-- Ends a word. -/
def settle (s : State) : Option State :=
  match s.mode with
  | .word cs => (fun d => s.add (.value d)) <$> readWord? cs
  | _ => some s

/-- Reads a character. -/
def step (s : State) (c : Char) : Option State :=
  match s.mode with
  | .between => s.enter c
  | .word cs =>
    if isDelimiter c then s.settle.bind (·.enter c) else some { s with mode := .word (cs ++ [c]) }
  | .quoted us =>
    if c = '\x22' then (fun cs => s.add (.value (.text (String.ofList cs)))) <$> characters? us
    else if c = '\\' then some { s with mode := .escaped us }
    else if c.toNat < 0x20 then none
    else some { s with mode := .quoted (us ++ units c) }
  | .escaped us =>
    if c = 'u' then some { s with mode := .unit us [] }
    else (fun u => { s with mode := .quoted (us ++ [u]) }) <$> escapedUnit? c
  | .unit us digits =>
    (fun digit =>
      if digits.length = 3 then
        { s with mode := .quoted (us ++ [(digits ++ [digit]).foldl (16 * · + ·) 0]) }
      else { s with mode := .unit us (digits ++ [digit]) }) <$> hexValue? c

/-- The document at the end: one value, with no open bracket. -/
def finish (s : State) : Option Document :=
  match s.settle with
  | some ⟨.between, [.value d], []⟩ => some d
  | _ => none

/-- Reads characters up to the end. -/
def run (s : State) : List Char → Option Document
  | [] => s.finish
  | c :: cs => (s.step c).bind (·.run cs)

end State

end Reader

/-- The document that a text says. -/
def Document.read? (s : String) : Option Document := Reader.State.start.run s.toList

end ForgeDashboard
