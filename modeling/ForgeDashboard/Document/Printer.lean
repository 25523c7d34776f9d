import ForgeDashboard.Document.Basic
import ForgeDashboard.Number.Shortest

/-!
# Printing documents

A document is printed over several lines, each level indented by two blanks, with ASCII characters
only.  Within a text, the quote and the backslash are escaped by a backslash, five controls by a
letter, and every other character outside the printable ASCII range by its 16-bit units in
hexadecimal; a character beyond the first 65536 takes two units.

## Main definitions

* `escapedText` : a text between quotes.
* `Document.lines` : the printed document, line by line.
* `Document.printed` : the printed document.
-/

namespace ForgeDashboard

/-- A 16-bit unit, by its code. -/
def unitEscape (code : Nat) : List Char :=
  let ds := Nat.toDigits 16 code
  '\\' :: 'u' :: List.replicate (4 - ds.length) '0' ++ ds

/-- One character of a printed text. -/
def documentEscape (c : Char) : List Char :=
  if c = '\x22' then ['\\', '\x22']
  else if c = '\\' then ['\\', '\\']
  else if c = '\n' then ['\\', 'n']
  else if c = '\r' then ['\\', 'r']
  else if c = '\t' then ['\\', 't']
  else if c = '\x08' then ['\\', 'b']
  else if c = '\x0c' then ['\\', 'f']
  else if 0x20 ≤ c.toNat && c.toNat < 0x7f then [c]
  else if c.toNat < 0x10000 then unitEscape c.toNat
  else
    let beyond := c.toNat - 0x10000
    unitEscape (0xd800 + beyond / 0x400) ++ unitEscape (0xdc00 + beyond % 0x400)

/-- A text between quotes. -/
def escapedText (s : String) : String :=
  "\x22" ++ String.ofList (s.toList.flatMap documentEscape) ++ "\x22"

/-- Lines moved one level to the right. -/
def indentLines (lines : List String) : List String := lines.map ("  " ++ ·)

/-- Adds a text to the first of some lines. -/
def addBefore (head : String) : List String → List String
  | [] => [head]
  | line :: rest => (head ++ line) :: rest

/-- Adds a text to the last of some lines. -/
def addAfter (tail : String) : List String → List String
  | [] => [tail]
  | [line] => [line ++ tail]
  | line :: rest => line :: addAfter tail rest

/-- Separates printed members by commas. -/
def joinMembers : List (List String) → List String
  | [] => []
  | [member] => member
  | member :: rest => addAfter "," member ++ joinMembers rest

/-- Members between an opening and a closing bracket, each on lines of its own. -/
def bracketed (opening closing : String) (members : List (List String)) : List String :=
  if members.isEmpty then [opening ++ closing]
  else opening :: indentLines (joinMembers members) ++ [closing]

namespace Document

mutual

/-- The lines of a printed document. -/
def lines : Document → List String
  | .null => ["null"]
  | .int n => [toString n]
  | .float x => [x.text]
  | .text s => [escapedText s]
  | .list items => bracketed "[" "]" (itemLines items)
  | .object fields => bracketed "\x7b" "\x7d" (fieldLines fields)

/-- The lines of the items of a list. -/
def itemLines : List Document → List (List String)
  | [] => []
  | d :: rest => d.lines :: itemLines rest

/-- The lines of the fields of an object. -/
def fieldLines : List (String × Document) → List (List String)
  | [] => []
  | (name, d) :: rest => addBefore (escapedText name ++ ": ") d.lines :: fieldLines rest

end

/-- The printed document. -/
def printed (d : Document) : String := "\n".intercalate d.lines

end Document

end ForgeDashboard
