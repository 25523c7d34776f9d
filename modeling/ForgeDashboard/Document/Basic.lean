import ForgeDashboard.Number.Binary64

/-!
# Documents

The dashboard leaves the program as a structured document: nulls, integers, doubles, texts, lists
and objects whose fields keep their order.

## Main definitions

* `Document` : a structured document.
* `Document.ofOption`, `Document.field?` : small operations on documents.
-/

namespace ForgeDashboard

/-- A structured document. -/
inductive Document where
  | null
  | int (n : Int)
  | float (x : Binary64)
  | text (s : String)
  | list (items : List Document)
  | object (fields : List (String × Document))

namespace Document

/-- The document of a value that may be missing. -/
def ofOption {α : Type} (encode : α → Document) : Option α → Document
  | none => null
  | some a => encode a

/-- The first field of an object with a given name. -/
def field? (name : String) : Document → Option Document
  | object fields => fields.lookup name
  | _ => none

end Document

end ForgeDashboard
