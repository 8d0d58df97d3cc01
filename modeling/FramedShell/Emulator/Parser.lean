import FramedShell.Emulator.Screen
import FramedShell.Text.Utf8

/-!
# Parsing the terminal language

The parser is a state machine that takes one byte at a time and yields at most one command for it. It
follows the well-known state diagram of video terminals: escape sequences, control sequences with
parameters, and strings that are read and forgotten. Outside of them it reads UTF-8, where a byte that
breaks a character off is lost and the replacement character is printed instead.

## Main definitions

* `State` — where in a sequence the parser is;
* `Parser` — the state and what was collected of the current sequence;
* `Parser.next` — the parser after a byte, and the command that the byte completes.
-/

namespace FramedShell.Emulator

/-- **Where the parser is.** -/
inductive State where
  | ground
  /-- Inside a character of several bytes. -/
  | character (p : Text.Utf8.Partial)
  | escape
  | escapeIntermediate
  | sequenceEntry
  | sequenceParams
  | sequenceIntermediate
  /-- A control sequence that is read to its end and forgotten. -/
  | sequenceIgnored
  | deviceEntry
  | deviceParams
  | deviceIntermediate
  /-- The text of a device control string. -/
  | deviceText
  /-- An operating system command. -/
  | systemCommand
  /-- Another string without meaning. -/
  | anyString
deriving DecidableEq, Inhabited

/-- **The parser.** `groups` are the complete parameters of the current sequence, `opened` the values of
the parameter that is being read, and `value` its last value. -/
structure Parser where
  state : State := .ground
  leader : Option UInt8 := none
  groups : List (List Nat) := []
  opened : List Nat := []
  value : Nat := 0
deriving DecidableEq, Inhabited

namespace Parser

/-- The number of values that a sequence can hold. -/
def capacity : Nat := 32

/-- The largest value of a parameter. -/
def largestValue : Nat := 65535

/-- How many values were stored for the current sequence. -/
def stored (p : Parser) : Nat := p.groups.flatten.length + p.opened.length

/-- The parser in another state. -/
def goto (p : Parser) (state : State) : Parser := { p with state := state }

/-- The parser at the beginning of a sequence: nothing is collected. -/
def begin (state : State) : Parser := { state := state }

/-- Keep the first of the bytes that are collected before the final one. -/
def collect (p : Parser) (b : UInt8) : Parser := { p with leader := p.leader <|> some b }

/-- Read a byte of the parameters: a digit, or the end of a value. Once the sequence is full, nothing
more is stored. -/
def readParam (p : Parser) (b : UInt8) : Parser :=
  if capacity ≤ p.stored then p
  else if b = 0x3B then { p with groups := p.groups ++ [p.opened ++ [p.value]], opened := [], value := 0 }
  else if b = 0x3A then { p with opened := p.opened ++ [p.value], value := 0 }
  else { p with value := min (p.value * 10 + (b.toNat - 0x30)) largestValue }

/-- The parameters at the end of a sequence, of which the last value is one as well. -/
def params (p : Parser) : List (List Nat) :=
  if capacity ≤ p.stored then (if p.opened.isEmpty then p.groups else p.groups ++ [p.opened])
  else p.groups ++ [p.opened ++ [p.value]]

/-- Whether a byte is a control that is carried out wherever it stands in a sequence. -/
def isControl (b : UInt8) : Bool := b < 0x18 || b == 0x19 || (0x1C ≤ b && b < 0x20)

/-- A byte outside of sequences. -/
def ground (p : Parser) (b : UInt8) : Parser × Option Command :=
  if b < 0x20 then (p, some (.control b))
  else if b < 0x80 then (p, some (.print (Char.ofNat b.toNat)))
  else
    match Text.Utf8.lead b with
    | some partialChar => (p.goto (.character partialChar), none)
    | none => (p, none)

/-- A byte inside a character. -/
def character (p : Parser) (partialChar : Text.Utf8.Partial) (b : UInt8) : Parser × Option Command :=
  match partialChar.next b with
  | .broken => (p.goto .ground, some (.print '\ufffd'))
  | .more rest => (p.goto (.character rest), none)
  | .done c => (p.goto .ground, some (.print c))

/-- A byte after the escape byte. -/
def escape (p : Parser) (b : UInt8) : Parser × Option Command :=
  if b < 0x30 then ((p.collect b).goto .escapeIntermediate, none)
  else if b = 0x5B then (begin .sequenceEntry, none)
  else if b = 0x5D then (begin .systemCommand, none)
  else if b = 0x50 then (begin .deviceEntry, none)
  else if b = 0x58 ∨ b = 0x5E ∨ b = 0x5F then (begin .anyString, none)
  else if b < 0x7F then (p.goto .ground, some (.escape p.leader b))
  else (p, none)

/-- A byte of an escape sequence with collected bytes. -/
def escapeIntermediate (p : Parser) (b : UInt8) : Parser × Option Command :=
  if b < 0x30 then (p.collect b, none)
  else if b < 0x7F then (p.goto .ground, some (.escape p.leader b))
  else (p, none)

/-- The final byte of a control sequence. -/
def finish (p : Parser) (b : UInt8) : Parser × Option Command :=
  (p.goto .ground, some (.sequence p.leader p.params b))

/-- The first byte of a control sequence. -/
def sequenceEntry (p : Parser) (b : UInt8) : Parser × Option Command :=
  if b < 0x30 then ((p.collect b).goto .sequenceIntermediate, none)
  else if b < 0x3C then ((p.readParam b).goto .sequenceParams, none)
  else if b < 0x40 then ((p.collect b).goto .sequenceParams, none)
  else if b < 0x7F then p.finish b
  else (p, none)

/-- A byte among the parameters of a control sequence. -/
def sequenceParams (p : Parser) (b : UInt8) : Parser × Option Command :=
  if b < 0x30 then ((p.collect b).goto .sequenceIntermediate, none)
  else if b < 0x3C then (p.readParam b, none)
  else if b < 0x40 then (p.goto .sequenceIgnored, none)
  else if b < 0x7F then p.finish b
  else (p, none)

/-- A byte after the parameters of a control sequence. -/
def sequenceIntermediate (p : Parser) (b : UInt8) : Parser × Option Command :=
  if b < 0x30 then (p.collect b, none)
  else if b < 0x40 then (p.goto .sequenceIgnored, none)
  else if b < 0x7F then p.finish b
  else (p, none)

/-- A byte of a control sequence that is forgotten. -/
def sequenceIgnored (p : Parser) (b : UInt8) : Parser × Option Command :=
  if 0x40 ≤ b ∧ b < 0x7F then (p.goto .ground, none) else (p, none)

/-- The state after a byte in the head of a device control string. -/
def deviceHead (state : State) (b : UInt8) : State :=
  if b < 0x20 ∨ 0x7F ≤ b then state
  else if b < 0x30 then .deviceIntermediate
  else if b < 0x40 then
    (match state with
    | .deviceEntry => .deviceParams
    | .deviceParams => if b < 0x3C then .deviceParams else .deviceText
    | _ => .deviceText)
  else .deviceText

/-- **The parser after a byte**, and the command that the byte completes. -/
def next (p : Parser) (b : UInt8) : Parser × Option Command :=
  match p.state with
  | .character partialChar => p.character partialChar b
  | state =>
    if b = 0x18 ∨ b = 0x1A then (p.goto .ground, none)
    else if b = 0x1B then (begin .escape, none)
    else
      match state with
      | .ground | .character _ => p.ground b
      | .escape => if isControl b then (p, some (.control b)) else p.escape b
      | .escapeIntermediate => if isControl b then (p, some (.control b)) else p.escapeIntermediate b
      | .sequenceEntry => if isControl b then (p, some (.control b)) else p.sequenceEntry b
      | .sequenceParams => if isControl b then (p, some (.control b)) else p.sequenceParams b
      | .sequenceIntermediate =>
        if isControl b then (p, some (.control b)) else p.sequenceIntermediate b
      | .sequenceIgnored => if isControl b then (p, some (.control b)) else p.sequenceIgnored b
      | .deviceEntry | .deviceParams | .deviceIntermediate => (p.goto (deviceHead state b), none)
      | .deviceText | .anyString => (if b = 0x9C then p.goto .ground else p, none)
      | .systemCommand => (if b = 0x07 then p.goto .ground else p, none)

end Parser

end FramedShell.Emulator
