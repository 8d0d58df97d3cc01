import FramedShell.Keyboard.Event
import FramedShell.Text.Ranges
import FramedShell.Text.UppercaseTable

/-!
# Decoding what is typed

In raw mode the terminal delivers typed keys as bytes. Characters come as UTF-8, keys without a character
as escape sequences, and control bytes as themselves. Bytes are collected until they make up an event or
cannot become one; in the second case they are dropped.

An escape byte begins a sequence only if another byte has arrived together with it.

## Main definitions

* `Reading` — what some bytes amount to;
* `read` — the reading of the bytes collected so far;
* `decode` — the events of everything that was typed at once.
-/

namespace FramedShell.Keyboard

/-- **What the bytes collected so far amount to.** -/
inductive Reading where
  /-- More bytes are needed. -/
  | incomplete
  /-- The bytes are no event, and no byte can make them one. -/
  | invalid
  | event (e : TerminalEvent)
deriving DecidableEq, Inhabited

/-- The event of pressing a key without modifiers. -/
def press (code : KeyCode) : Reading := .event (.key code {} .press)

/-- The event of pressing a character's key together with control. -/
def pressControl (c : Char) : Reading := .event (.key (.char c) { control := true } .press)

/-! ### Numbers in sequences -/

/-- The pieces between separators; at least one. -/
def pieces (separator : UInt8) : List UInt8 → List (List UInt8)
  | [] => [[]]
  | b :: rest =>
    match pieces separator rest with
    | first :: more => if b = separator then [] :: first :: more else (b :: first) :: more
    | [] => [[b]]

/-- The number of a digit byte. -/
def digit? (b : UInt8) : Option Nat := if 0x30 ≤ b ∧ b ≤ 0x39 then some (b.toNat - 0x30) else none

/-- The number that some digits write, if it is at most 255. -/
def byteNumber? (digits : List UInt8) : Option Nat :=
  if digits.isEmpty then none
  else
    (digits.foldl (fun n b => n.bind fun n => (digit? b).map fun d => n * 10 + d) (some 0)).bind
      fun n => if n ≤ 255 then some n else none

/-- The modifiers of the number that a sequence gives: one more than their sum. -/
def modifiersOf (n : Nat) : Modifiers :=
  let mask := n - 1
  { shift := mask.testBit 0, alt := mask.testBit 1, control := mask.testBit 2 }

/-- What the number of a kind says about the key. -/
def actionOf (n : Nat) : KeyAction := if n = 2 then .autoRepeat else if n = 3 then .release else .press

/-- The modifiers and the action in the second field of a sequence, if it gives any. -/
def modifierField? (fields : List (List UInt8)) : Option (Modifiers × KeyAction) := do
  let field ← fields[1]?
  let parts := pieces 0x3A field
  let mask ← parts[0]?.bind byteNumber?
  let kind := (parts[1]?.bind byteNumber?).getD 1
  return (modifiersOf mask, actionOf kind)

/-! ### Sequences -/

/-- The keys that end a sequence by a letter of their own. -/
def letterKey? (b : UInt8) : Option KeyCode :=
  match Char.ofNat b.toNat with
  | 'A' => some .up
  | 'B' => some .down
  | 'C' => some .right
  | 'D' => some .left
  | 'F' => some .pageEnd
  | 'H' => some .home
  | _ => none

/-- The key of a letter after numbers. The letter `R` is none: with numbers it reports where the cursor
is. -/
def modifiedKey? (b : UInt8) : Option KeyCode :=
  match Char.ofNat b.toNat with
  | 'P' => some (.function 1)
  | 'Q' => some (.function 2)
  | 'S' => some (.function 4)
  | _ => letterKey? b

/-- The key of a number before a tilde. -/
def numberedKey? (n : Nat) : Option KeyCode :=
  if n = 1 ∨ n = 7 then some .home
  else if n = 2 then some .insert
  else if n = 3 then some .delete
  else if n = 4 ∨ n = 8 then some .pageEnd
  else if n = 5 then some .pageUp
  else if n = 6 then some .pageDown
  else if 11 ≤ n ∧ n ≤ 15 then some (.function (n - 10))
  else if 17 ≤ n ∧ n ≤ 21 then some (.function (n - 11))
  else if 23 ≤ n ∧ n ≤ 26 then some (.function (n - 12))
  else if 28 ≤ n ∧ n ≤ 29 then some (.function (n - 15))
  else if 31 ≤ n ∧ n ≤ 34 then some (.function (n - 17))
  else none

/-- A sequence of numbers that ends in a tilde. -/
def readNumbered (body : List UInt8) : Reading :=
  let fields := pieces 0x3B body
  match (fields[0]?.bind byteNumber?).bind numberedKey? with
  | some code =>
    match modifierField? fields with
    | some (m, action) => .event (.key code m action)
    | none => press code
  | none => .invalid

/-- A sequence of numbers that ends in a letter. Without a field for the modifiers, the digit before the
letter gives them. -/
def readModified (body : List UInt8) (final : UInt8) : Reading :=
  match modifiedKey? final with
  | none => .invalid
  | some code =>
    match modifierField? (pieces 0x3B body) with
    | some (m, action) => .event (.key code m action)
    | none =>
      match body.getLast?.bind digit? with
      | some n => .event (.key code (modifiersOf n) .press)
      | none => .invalid

/-- A sequence that begins with a digit: it ends with the first byte from the letters' block on. -/
def readNumbers (body : List UInt8) : Reading :=
  match body.getLast? with
  | none => .incomplete
  | some final =>
    if final < 0x40 ∨ 0x7E < final then .incomplete
    else if final = 0x7E then readNumbered body.dropLast
    else readModified body.dropLast final

/-- The bytes after an escape byte and an opening bracket. -/
def readBracket (body : List UInt8) : Reading :=
  match body with
  | [] => .incomplete
  | b :: rest =>
    if b = 0x5B then
      match rest with
      | [] => .incomplete
      | v :: _ => if 0x41 ≤ v ∧ v ≤ 0x45 then press (.function (v.toNat - 0x40)) else .invalid
    else if (digit? b).isSome then readNumbers body
    else if b = 0x5A then .event (.key .backTab { shift := true } .press)
    else if b = 0x49 ∨ b = 0x4F then .event .other
    else if b = 0x50 then press (.function 1)
    else if b = 0x51 then press (.function 2)
    else if b = 0x53 then press (.function 4)
    else
      match letterKey? b with
      | some code => press code
      | none => .invalid

/-- The byte after an escape byte and the letter O. -/
def readApplication (body : List UInt8) : Reading :=
  match body with
  | [] => .incomplete
  | b :: _ =>
    if 0x50 ≤ b ∧ b ≤ 0x53 then press (.function (b.toNat - 0x4F))
    else
      match letterKey? b with
      | some code => press code
      | none => .invalid

/-! ### Characters -/

/-- How many bytes a character has that begins with `b`, going by the leading bits only. -/
def bytesNeeded (b : UInt8) : Option Nat :=
  if b < 0x80 then some 1
  else if b < 0xC0 then none
  else if b < 0xE0 then some 2
  else if b < 0xF0 then some 3
  else if b < 0xF8 then some 4
  else none

/-- The event of typing a character; a capital letter is typed with shift. -/
def typed (c : Char) : Reading :=
  .event (.key (.char c) { shift := Text.inRanges Text.uppercaseRanges c } .press)

/-- The bytes of a character outside of sequences. -/
def readCharacter (bytes : List UInt8) : Reading :=
  match Text.Utf8.decode? bytes with
  | some c => typed c
  | none =>
    match bytes with
    | [] => .incomplete
    | b :: rest =>
      match bytesNeeded b with
      | none => .invalid
      | some needed =>
        if rest.all (fun b => 0x80 ≤ b && b < 0xC0) && decide (bytes.length < needed) then .incomplete
        else .invalid

/-- A control byte, or the first byte of a character. -/
def readPlain (b : UInt8) (bytes : List UInt8) : Reading :=
  if b = 0x0D then press .enter
  else if b = 0x09 then press .tab
  else if b = 0x7F then press .backspace
  else if b = 0x00 then pressControl ' '
  else if b ≤ 0x1A then pressControl (Char.ofNat (b.toNat + 0x60))
  else if 0x1C ≤ b ∧ b ≤ 0x1F then pressControl (Char.ofNat (b.toNat + 0x18))
  else readCharacter bytes

/-- The reading with the alt modifier added to a key. -/
def withAlt : Reading → Reading
  | .event (.key code m action) => .event (.key code { m with alt := true } action)
  | r => r

/-- **The reading of the bytes collected so far.** `more` says whether another byte has arrived. -/
def read (more : Bool) : List UInt8 → Reading
  | [] => .incomplete
  | b :: rest =>
    if b = 0x1B then
      match rest with
      | [] => if more then .incomplete else press .escape
      | c :: body =>
        if c = 0x4F then readApplication body
        else if c = 0x5B then readBracket body
        else if c = 0x1B then press .escape
        else withAlt (read more (c :: body))
    else readPlain b (b :: rest)

/-- The events of bytes that follow those collected so far. -/
def decodeFrom (collected : List UInt8) : List UInt8 → List TerminalEvent
  | [] => []
  | b :: rest =>
    match read (!rest.isEmpty) (collected ++ [b]) with
    | .incomplete => decodeFrom (collected ++ [b]) rest
    | .invalid => decodeFrom [] rest
    | .event e => e :: decodeFrom [] rest

/-- **The events of bytes that were typed at once.** -/
def decode (bytes : List UInt8) : List TerminalEvent := decodeFrom [] bytes

end FramedShell.Keyboard
