import ForgeDashboard.Text.Printable

/-!
# Quoted text

Messages show a text that was not understood between quotes.  Single quotes are used unless the
text holds a single quote and no double quote.  The backslash, the quote in use, line feed,
carriage return and tab are escaped by a backslash; any other character that is not printable is
written by its code point, in the shortest of three hexadecimal forms.

## Main definitions

* `quoteFor` : the quote for a text.
* `escapeChar` : one character within quotes.
* `quoted` : the quoted text.
-/

namespace ForgeDashboard

/-- The quote character for a text: single, unless the text holds a single quote and no double
one. -/
def quoteFor (cs : List Char) : Char :=
  if cs.contains '\x27' && !cs.contains '\x22' then '\x22' else '\x27'

/-- A number in hexadecimal, with zeros on the left up to a width. -/
def hexPadded (width n : Nat) : List Char :=
  let ds := Nat.toDigits 16 n
  List.replicate (width - ds.length) '0' ++ ds

/-- A character that is not printable, by its code point. -/
def escapeCode (c : Char) : List Char :=
  if c.toNat < 0x100 then '\\' :: 'x' :: hexPadded 2 c.toNat
  else if c.toNat < 0x10000 then '\\' :: 'u' :: hexPadded 4 c.toNat
  else '\\' :: 'U' :: hexPadded 8 c.toNat

/-- One character of a text between the given quotes. -/
def escapeChar (quote c : Char) : List Char :=
  if c = quote || c = '\\' then ['\\', c]
  else if c = '\n' then ['\\', 'n']
  else if c = '\r' then ['\\', 'r']
  else if c = '\t' then ['\\', 't']
  else if isPrintable c then [c]
  else escapeCode c

/-- The text between quotes. -/
def quoted (s : String) : String :=
  let cs := s.toList
  let quote := quoteFor cs
  String.ofList (quote :: cs.flatMap (escapeChar quote) ++ [quote])

end ForgeDashboard
