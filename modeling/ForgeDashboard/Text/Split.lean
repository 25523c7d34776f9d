import ForgeDashboard.Text.Blank

/-!
# Splitting text

Text is split at marks into the parts between them, some of which may be empty, and at blanks into
words, none of which is.

## Main definitions

* `splitWhere` : the parts between marks.
* `splitOnce` : the part before the first mark, and the part after it.
* `wordsOf` : the words.
-/

namespace ForgeDashboard

/-- The parts between the characters that are marks. -/
def splitWhere (isMark : Char → Bool) : List Char → List (List Char)
  | [] => [[]]
  | c :: rest =>
    match splitWhere isMark rest with
    | part :: parts => if isMark c then [] :: part :: parts else (c :: part) :: parts
    | [] => [[c]]

theorem splitWhere_eq_splitOnP (isMark : Char → Bool) (cs : List Char) :
    splitWhere isMark cs = cs.splitOnP isMark := by
  induction cs with
  | nil => rfl
  | cons c cs ih =>
    rw [splitWhere, ih, List.splitOnP_cons_eq_if_modifyHead]
    rcases hparts : cs.splitOnP isMark with _ | ⟨part, parts⟩
    · exact absurd hparts (List.splitOnP_ne_nil isMark cs)
    · rfl

/-- The characters before the first mark, and those after it if there is one. -/
def splitOnce (mark : Char) (cs : List Char) : List Char × Option (List Char) :=
  match cs.dropWhile (· != mark) with
  | _ :: after => (cs.takeWhile (· != mark), some after)
  | [] => (cs, none)

/-- The words of a text, which are separated by blanks. -/
def wordsOf (s : String) : List String :=
  ((splitWhere isBlank s.toList).filter (!·.isEmpty)).map String.ofList

/-- The lines of a text, without their ends. -/
def linesOf (s : String) : List String := (splitWhere (· == '\n') s.toList).map String.ofList

end ForgeDashboard
