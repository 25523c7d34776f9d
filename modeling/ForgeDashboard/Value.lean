import ForgeDashboard.Number.Num
import ForgeDashboard.Number.Shortest
import ForgeDashboard.Text.Quoted

/-!
# Loosely typed values

What the host, the database and the installed packages report is text or a number in the normal
case, but nothing enforces it.  A reported value keeps whatever shape it came in until a consumer
checks it or turns it into text.

## Main definitions

* `Value` : a reported value.
* `Value.quoted` : its unambiguous text, with texts in quotes.
* `Value.shown` : its plain text, in which a text stands for itself.
-/

namespace ForgeDashboard

/-- A reported value of any shape. -/
inductive Value where
  | null
  | flag (b : Bool)
  | num (n : Num)
  | text (s : String)
  | list (items : List Value)
  | dict (fields : List (String × Value))

/-- The text of a number: a numeral, or the fewest digits that identify the double. -/
def Num.text : Num → String
  | .int n => toString n
  | .float x => x.text

namespace Value

mutual

/-- The unambiguous text of a value. -/
def quoted : Value → String
  | .null => "None"
  | .flag b => if b then "True" else "False"
  | .num n => n.text
  | .text s => ForgeDashboard.quoted s
  | .list items => "[" ++ ", ".intercalate (quotedItems items) ++ "]"
  | .dict fields => "\x7b" ++ ", ".intercalate (quotedFields fields) ++ "\x7d"

/-- The unambiguous texts of the items of a list. -/
def quotedItems : List Value → List String
  | [] => []
  | v :: rest => v.quoted :: quotedItems rest

/-- The unambiguous texts of the entries of a dictionary. -/
def quotedFields : List (String × Value) → List String
  | [] => []
  | (name, v) :: rest => (ForgeDashboard.quoted name ++ ": " ++ v.quoted) :: quotedFields rest

end

/-- The plain text of a value. -/
def shown : Value → String
  | .text s => s
  | v => v.quoted

/-- A value that is missing or an empty text tells nothing. -/
def isEmpty : Value → Bool
  | .null => true
  | .text s => s.isEmpty
  | _ => false

/-- The name of the shape of a value, for messages. -/
def shapeName : Value → String
  | .null => "NoneType"
  | .flag _ => "bool"
  | .num (.int _) => "int"
  | .num (.float _) => "float"
  | .text _ => "str"
  | .list _ => "list"
  | .dict _ => "dict"

end Value

end ForgeDashboard
