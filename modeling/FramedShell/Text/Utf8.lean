/-!
# Reading UTF-8 one byte at a time

A character is read from a lead byte, which says how many bytes follow and where the first of them may
lie, and from its continuation bytes. Overlong forms, surrogates and numbers beyond the last code point
are excluded by the range of the first continuation byte.

## Main definitions

* `Utf8.encode` — the bytes of a character;
* `Utf8.Partial` — a character of which some bytes are still missing;
* `Utf8.lead`, `Utf8.Partial.next` — the first byte, and each byte after it;
* `Utf8.decode?` — the character that a whole byte sequence encodes;
* `Utf8.text?` — the text that a byte sequence encodes.
-/

namespace FramedShell.Text.Utf8

/-- **The bytes of a character.** -/
def encode (c : Char) : List UInt8 := String.utf8EncodeChar c

/-- **A character that is not complete.** `value` holds the bits read so far, `missing` the number of
bytes after the next one, and the next byte has to lie between `low` and `high`. -/
structure Partial where
  value : Nat
  missing : Nat
  low : UInt8
  high : UInt8
deriving DecidableEq, Inhabited

/-- What a lead byte of more than one byte begins, if `b` is one. -/
def lead (b : UInt8) : Option Partial :=
  if 0xC2 ≤ b ∧ b ≤ 0xDF then some ⟨b.toNat - 0xC0, 0, 0x80, 0xBF⟩
  else if b = 0xE0 then some ⟨0, 1, 0xA0, 0xBF⟩
  else if b = 0xED then some ⟨0xD, 1, 0x80, 0x9F⟩
  else if 0xE1 ≤ b ∧ b ≤ 0xEF then some ⟨b.toNat - 0xE0, 1, 0x80, 0xBF⟩
  else if b = 0xF0 then some ⟨0, 2, 0x90, 0xBF⟩
  else if 0xF1 ≤ b ∧ b ≤ 0xF3 then some ⟨b.toNat - 0xF0, 2, 0x80, 0xBF⟩
  else if b = 0xF4 then some ⟨4, 2, 0x80, 0x8F⟩
  else none

/-- **What the next byte makes of an incomplete character.** -/
inductive Progress where
  /-- The byte does not continue the character. -/
  | broken
  /-- More bytes are missing. -/
  | more (p : Partial)
  /-- The character is complete. -/
  | done (c : Char)
deriving DecidableEq, Inhabited

/-- Read one more byte. -/
def Partial.next (p : Partial) (b : UInt8) : Progress :=
  if p.low ≤ b ∧ b ≤ p.high then
    let value := p.value * 64 + (b.toNat - 0x80)
    match p.missing with
    | 0 => .done (Char.ofNat value)
    | n + 1 => .more ⟨value, n, 0x80, 0xBF⟩
  else .broken

/-- Read all remaining bytes of a character, no more and no fewer. -/
def Partial.decode? (p : Partial) : List UInt8 → Option Char
  | [] => none
  | b :: rest =>
    match p.next b with
    | .broken => none
    | .more q => q.decode? rest
    | .done c => if rest.isEmpty then some c else none

/-- **The character that a byte sequence encodes**, if it encodes exactly one. -/
def decode? : List UInt8 → Option Char
  | [] => none
  | b :: rest =>
    if b < 0x80 then (if rest.isEmpty then some (Char.ofNat b.toNat) else none)
    else (lead b).bind fun p => p.decode? rest

/-- The text that bytes encode after the beginning of a character, if there is one. -/
def textFrom? : Option Partial → List UInt8 → Option (List Char)
  | none, [] => some []
  | some _, [] => none
  | none, b :: rest =>
    if b < 0x80 then (textFrom? none rest).map (Char.ofNat b.toNat :: ·)
    else
      match lead b with
      | some p => textFrom? (some p) rest
      | none => none
  | some p, b :: rest =>
    match p.next b with
    | .broken => none
    | .more q => textFrom? (some q) rest
    | .done c => (textFrom? none rest).map (c :: ·)

/-- **The text that bytes encode**, if they encode one. -/
def text? (bytes : List UInt8) : Option (List Char) := textFrom? none bytes

end FramedShell.Text.Utf8
