/-!
# Blank characters

Two sets of blank characters are in use.  Both hold the white space of the Unicode character
database; text that is split into words also counts the four ASCII information separators as
blank.

## Main definitions

* `isWhite` : white space.
* `isBlank` : white space and the information separators.
* `trimWith` : text without the characters of a set at its ends.
* `firstWord?` : the first run of characters that are not blank.
-/

namespace ForgeDashboard

/-- White space other than the ASCII controls. -/
def wideSpaces : List Nat :=
  [0x20, 0x85, 0xa0, 0x1680, 0x2028, 0x2029, 0x202f, 0x205f, 0x3000]

/-- The white space of the Unicode character database. -/
def isWhite (c : Char) : Bool :=
  (0x9 ≤ c.toNat && c.toNat ≤ 0xd) || (0x2000 ≤ c.toNat && c.toNat ≤ 0x200a) ||
    wideSpaces.contains c.toNat

/-- White space, or one of the four ASCII information separators. -/
def isBlank (c : Char) : Bool := isWhite c || (0x1c ≤ c.toNat && c.toNat ≤ 0x1f)

/-- The characters without those of a set at either end. -/
def trimWith (drop : Char → Bool) (cs : List Char) : List Char :=
  ((cs.dropWhile drop).reverse.dropWhile drop).reverse

/-- The first run of characters that are not blank, if there is one. -/
def firstWord? (s : String) : Option String :=
  let word := (s.toList.dropWhile isBlank).takeWhile (!isBlank ·)
  if word.isEmpty then none else some (String.ofList word)

end ForgeDashboard
