/-!
# Percent-encoded text

In addresses a byte may be written as a percent sign and two hexadecimal digits.  Decoding replaces
such groups by their bytes and reads the bytes as UTF-8; a sequence of bytes that is no character
becomes the replacement character, one for each longest start of a character.

## Main definitions

* `Utf8.feed` : reading UTF-8 byte by byte.
* `percentDecoded` : the decoded text.
-/

namespace ForgeDashboard

namespace Utf8

/-- A character of which some bytes have been read: how many are missing, the bits so far, and the
bounds of the next byte. -/
structure Partial where
  missing : Nat
  bits : Nat
  lower : Nat
  upper : Nat

/-- The replacement character. -/
def replacement : Char := '\ufffd'

/-- Reads a byte at the start of a character. -/
def begin (b : Nat) : List Char × Option Partial :=
  if b < 0x80 then ([Char.ofNat b], none)
  else if 0xc2 ≤ b ∧ b ≤ 0xdf then ([], some ⟨1, b - 0xc0, 0x80, 0xbf⟩)
  else if b = 0xe0 then ([], some ⟨2, 0, 0xa0, 0xbf⟩)
  else if b = 0xed then ([], some ⟨2, 0xd, 0x80, 0x9f⟩)
  else if 0xe1 ≤ b ∧ b ≤ 0xef then ([], some ⟨2, b - 0xe0, 0x80, 0xbf⟩)
  else if b = 0xf0 then ([], some ⟨3, 0, 0x90, 0xbf⟩)
  else if b = 0xf4 then ([], some ⟨3, 4, 0x80, 0x8f⟩)
  else if 0xf1 ≤ b ∧ b ≤ 0xf3 then ([], some ⟨3, b - 0xf0, 0x80, 0xbf⟩)
  else ([replacement], none)

/-- Reads a byte: the characters that are now complete, and the one that is not. -/
def feed (state : Option Partial) (b : Nat) : List Char × Option Partial :=
  match state with
  | none => begin b
  | some p =>
    if p.lower ≤ b ∧ b ≤ p.upper then
      let bits := 64 * p.bits + (b - 0x80)
      if p.missing = 1 then ([Char.ofNat bits], none)
      else ([], some ⟨p.missing - 1, bits, 0x80, 0xbf⟩)
    else
      let fresh := begin b
      (replacement :: fresh.1, fresh.2)

/-- What is left of an incomplete character when no byte follows. -/
def finish (state : Option Partial) : List Char :=
  if state.isSome then [replacement] else []

end Utf8

/-- The value of a hexadecimal digit. -/
def hexValue? (c : Char) : Option Nat :=
  if '0' ≤ c ∧ c ≤ '9' then some (c.toNat - '0'.toNat)
  else if 'a' ≤ c ∧ c ≤ 'f' then some (c.toNat - 'a'.toNat + 10)
  else if 'A' ≤ c ∧ c ≤ 'F' then some (c.toNat - 'A'.toNat + 10)
  else none

/-- The byte of two hexadecimal digits. -/
def hexByte? (high low : Char) : Option Nat := do
  return 16 * (← hexValue? high) + (← hexValue? low)

/-- Decodes characters after an incomplete one.  Only ASCII characters and encoded bytes are part of
byte sequences. -/
def percentDecodeFrom (state : Option Utf8.Partial) : List Char → List Char
  | [] => Utf8.finish state
  | '%' :: high :: low :: rest =>
    match hexByte? high low with
    | some b =>
      let read := Utf8.feed state b
      read.1 ++ percentDecodeFrom read.2 rest
    | none =>
      let read := Utf8.feed state '%'.toNat
      read.1 ++ percentDecodeFrom read.2 (high :: low :: rest)
  | c :: rest =>
    if c.toNat < 0x80 then
      let read := Utf8.feed state c.toNat
      read.1 ++ percentDecodeFrom read.2 rest
    else Utf8.finish state ++ c :: percentDecodeFrom none rest

/-- The decoded text. -/
def percentDecoded (cs : List Char) : List Char := percentDecodeFrom none cs

end ForgeDashboard
