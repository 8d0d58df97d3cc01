import FramedShell.Proofs.Encoding
import FramedShell.Rehearsal.Run

/-!
# Instructions read back by a terminal

What is written to a terminal is a sequence of bytes, and a terminal has to find the instructions in
them again. The parser of this library does: from its ground state it reads the bytes of an
instruction, is in its ground state again, and has yielded the commands that the instruction stands
for. This holds of texts and titles without control characters; any other could end a sequence early
or begin one.

Of a terminal only its *condition* is followed, which is what outlives a drawing: the screen that is
shown, line wrap, the visibility of the cursor, and the style that is printed in. Each of the two
screens has a style that it returns to.

## Main definitions

* `Parser.scan` — the parser after some bytes, and the commands in them;
* `Condition` — the condition of a terminal, with `Condition.perform` for commands and
  `Condition.obey` for instructions;
* `Instruction.IsClean` — texts and titles have no control characters.

## Main results

* `reads_encode` — the bytes of an instruction are read as the instruction;
* `reads_bytesOf` — so are those of several.
-/

namespace FramedShell

open Text.Utf8 (encode)

/-! ### Scanning -/

namespace Emulator.Parser

/-- **The parser after some bytes**, and the commands that they complete, oldest first. -/
def scan (p : Parser) : List UInt8 → Parser × List Command
  | [] => (p, [])
  | b :: rest => ((scan (p.next b).1 rest).1, (p.next b).2.toList ++ (scan (p.next b).1 rest).2)

theorem scan_append (p : Parser) (a b : List UInt8) :
    p.scan (a ++ b) = (((p.scan a).1.scan b).1, (p.scan a).2 ++ ((p.scan a).1.scan b).2) := by
  induction a generalizing p with
  | nil => rfl
  | cons x a ih => rw [List.cons_append, scan, scan, ih, List.append_assoc]

variable {p : Parser}

/-- The escape byte begins a sequence, also within another one. -/
theorem next_escape (h : p.state = .ground) : p.next 0x1B = (begin .escape, none) := by
  unfold next
  rw [h]
  rfl

/-- A fixed sequence is read from the escape byte on. -/
theorem scan_escape (h : p.state = .ground) (rest : List UInt8) :
    p.scan (0x1B :: rest) = (begin .escape).scan rest := by
  rw [scan, next_escape h]
  rfl

/-! ### Bytes that are no controls -/

section

variable {b : UInt8}

theorem not_lt_of_le {x : UInt8} (h : x.toNat ≤ b.toNat) : ¬ b < x := by
  rw [UInt8.lt_iff_toNat_lt]
  omega

theorem ne_of_lt {x : UInt8} (h : x.toNat < b.toNat) : b ≠ x := by
  rintro rfl
  exact Nat.lt_irrefl _ h

section

variable (hb : 32 ≤ b.toNat)

include hb

theorem isControl_of_le : isControl b = false := by
  -- the bytes that are controls in part are all below a space
  have h₁ : ¬ b < 0x18 := not_lt_of_le (Nat.le_trans (by decide) hb)
  have h₂ : b ≠ 0x19 := ne_of_lt (Nat.lt_of_lt_of_le (by decide) hb)
  have h₃ : ¬ b < 0x20 := not_lt_of_le hb
  simp [isControl, h₁, h₂, h₃]

/-- Outside of characters such a byte is read by the state that the parser is in. -/
theorem next_of_le :
    (p.state = .ground → p.next b = p.ground b) ∧
      (p.state = .sequenceEntry → p.next b = p.sequenceEntry b) ∧
      (p.state = .sequenceParams → p.next b = p.sequenceParams b) ∧
      (p.state = .systemCommand → p.next b = (p, none)) := by
  -- the bytes that are read alike in every state are controls
  have hcancel : ¬ (b = 0x18 ∨ b = 0x1A) := by
    rintro (rfl | rfl) <;> exact absurd hb (by decide)
  have hescape : b ≠ 0x1B := ne_of_lt (Nat.lt_of_lt_of_le (by decide) hb)
  have hbell : b ≠ 0x07 := ne_of_lt (Nat.lt_of_lt_of_le (by decide) hb)
  have hcontrol := isControl_of_le hb
  refine ⟨?_, ?_, ?_, ?_⟩ <;>
  · intro hp
    unfold next
    simp only [hp, if_neg hcancel, if_neg hescape, if_neg hbell, hcontrol, Bool.false_eq_true,
      if_false]

end

end

/-! ### Texts and titles -/

/-- The continuation bytes complete a character. -/
theorem scan_tail {q : Text.Utf8.Partial} {value : Nat} (h : q.Awaits value) {missing : Nat}
    (hmissing : q.missing = missing) (hp : p.state = .character q) :
    p.scan (Text.Utf8.tail value (missing + 1)) = (p.goto .ground, [.print (Char.ofNat value)]) := by
  -- one continuation byte after the other, of which the last completes the character
  induction missing generalizing p q with
  | zero =>
    -- the last group: the character is complete and printed
    have hnext : p.next (Text.Utf8.continuation value 0)
        = (p.goto .ground, some (.print (Char.ofNat value))) := by
      unfold next
      rw [hp]
      dsimp only
      unfold character
      rw [h.next_of_last hmissing]
    rw [Text.Utf8.tail, scan, hnext]
    rfl
  | succ missing ih =>
    -- another group: the parser waits for one byte less
    have hnext : p.next (Text.Utf8.continuation value (missing + 1))
        = (p.goto (.character ⟨Text.Utf8.above value (missing + 1), missing, 0x80, 0xBF⟩), none) := by
      unfold next
      rw [hp]
      dsimp only
      unfold character
      rw [h.next_of_more hmissing]
    rw [Text.Utf8.tail, scan, hnext]
    dsimp only
    -- the next continuation byte may be any, and the value is awaited as before
    rw [ih ⟨rfl, Nat.le_add_left _ _, ?_⟩ rfl rfl]
    · rfl
    · change Text.Utf8.above value missing % 64 + 128 ≤ 191
      omega

theorem le_of_isControl {c : Char} (h : Text.isControl c = false) : 32 ≤ c.toNat := by
  unfold Text.isControl at h
  simp only [Bool.or_eq_false_iff, decide_eq_false_iff_not] at h
  omega

/-- A character that is no control is printed. -/
theorem scan_char {c : Char} (hc : Text.isControl c = false) (hp : p.state = .ground) :
    ∃ q, p.scan (encode c) = (q, [.print c]) ∧ q.state = .ground := by
  have hcontrol := le_of_isControl hc
  by_cases hascii : c.toNat < 128
  · -- a character of one byte is printed at once
    obtain ⟨b, hencode, hb⟩ := Text.Utf8.encode_of_ascii hascii
    have hnext : p.next b = (p, some (.print c)) := by
      rw [(next_of_le (by omega)).1 hp, ground, if_neg (not_lt_of_le (by rw [hb]; exact hcontrol)),
        if_pos (UInt8.lt_iff_toNat_lt.2 (by rw [hb]; exact hascii)), hb, Char.ofNat_toNat]
    refine ⟨p, ?_, hp⟩
    rw [hencode, scan, hnext]
    rfl
  · -- the lead byte begins a character, and the bytes that are left complete it
    obtain ⟨b, q, hencode, hlead, hawaits⟩ := Text.Utf8.encode_of_lead (Nat.le_of_not_lt hascii)
    have hb := Text.Utf8.le_of_lead hlead
    have hnext : p.next b = (p.goto (.character q), none) := by
      rw [(next_of_le (by omega)).1 hp, ground,
        if_neg (not_lt_of_le (Nat.le_trans (by decide) hb)),
        if_neg (not_lt_of_le (x := 0x80) hb), hlead]
    refine ⟨(p.goto (.character q)).goto .ground, ?_, rfl⟩
    rw [hencode, scan, hnext]
    dsimp only
    rw [scan_tail hawaits rfl rfl, Char.ofNat_toNat]
    rfl

/-- **A text without control characters is printed.** -/
theorem scan_text {text : List Char} (htext : ∀ c ∈ text, Text.isControl c = false)
    (hp : p.state = .ground) :
    ∃ q, p.scan (text.flatMap encode) = (q, text.map .print) ∧ q.state = .ground := by
  induction text generalizing p with
  | nil => exact ⟨p, rfl, hp⟩
  | cons c rest ih =>
    -- the parser is back in its ground state after every character
    obtain ⟨q, hq, hground⟩ := scan_char (htext c List.mem_cons_self) hp
    obtain ⟨q', hq', hground'⟩ := ih (fun d hd => htext d (List.mem_cons_of_mem c hd)) hground
    refine ⟨q', ?_, hground'⟩
    rw [List.flatMap_cons, scan_append, hq, hq']
    rfl

/-- Bytes that are no controls are part of a title. -/
theorem scan_title {bytes : List UInt8} (hbytes : ∀ b ∈ bytes, 32 ≤ b.toNat)
    (hp : p.state = .systemCommand) : p.scan bytes = (p, []) := by
  induction bytes with
  | nil => rfl
  | cons b rest ih =>
    rw [scan, (next_of_le (hbytes b List.mem_cons_self)).2.2.2 hp]
    dsimp only
    rw [ih fun d hd => hbytes d (List.mem_cons_of_mem b hd)]
    rfl

/-! ### Numbers -/

/-- The bytes of the decimal digits of a number. -/
def digits (n : Nat) : List UInt8 := (Terminal.Instruction.decimal n).flatMap encode

theorem mem_digits {n : Nat} {b : UInt8} (h : b ∈ digits n) : 48 ≤ b.toNat ∧ b.toNat ≤ 57 := by
  obtain ⟨c, hc, hb⟩ := List.mem_flatMap.1 h
  -- a digit of a number is a character from 0 to 9, and these are single bytes
  have hrange : 48 ≤ c.toNat ∧ c.toNat ≤ 57 :=
    Char.isDigit_iff_toNat.1 (Nat.isDigit_of_mem_toDigits (by decide) (by decide) hc)
  obtain ⟨b', hencode, hb'⟩ := Text.Utf8.encode_of_ascii (show c.toNat < 128 by omega)
  rw [hencode, List.mem_singleton] at hb
  rw [hb, hb']
  exact hrange

/-- The value of a parameter after one more digit. -/
def shifted (value : Nat) (b : UInt8) : Nat := min (value * 10 + (b.toNat - 48)) largestValue

theorem foldl_digits : ∀ n < 256, (digits n).foldl shifted 0 = n := by
  decide +kernel

/-- The parser reads parameters: it has read some, or is about to. -/
def IsInParams (p : Parser) : Prop := p.state = .sequenceEntry ∨ p.state = .sequenceParams

theorem next_digit (hp : p.IsInParams) {b : UInt8} (hb : 48 ≤ b.toNat ∧ b.toNat ≤ 59) :
    p.next b = ((p.readParam b).goto .sequenceParams, none) := by
  have hlow : ¬ b < 0x30 := not_lt_of_le hb.1
  have hhigh : b < 0x3C := UInt8.lt_iff_toNat_lt.2 (Nat.lt_succ_of_le hb.2)
  have hnext := next_of_le (p := p) (show 32 ≤ b.toNat by omega)
  obtain hp | hp := hp
  · -- at the entry the byte begins the parameters
    rw [hnext.2.1 hp, sequenceEntry, if_neg hlow, if_pos hhigh]
  · rw [hnext.2.2.1 hp, sequenceParams, if_neg hlow, if_pos hhigh]
    -- the state stays what it was
    have hstate : (p.readParam b).state = .sequenceParams := by
      unfold readParam
      repeat' split
      all_goals exact hp
    rw [goto, ← hstate]

/-- Digits and separators are read to the end, whatever they say. -/
theorem scan_params {bytes : List UInt8} (hbytes : ∀ b ∈ bytes, 48 ≤ b.toNat ∧ b.toNat ≤ 59)
    (hp : p.IsInParams) :
    ∃ q, p.scan bytes = (q, []) ∧ q.IsInParams ∧ q.leader = p.leader := by
  induction bytes generalizing p with
  | nil => exact ⟨p, rfl, hp, rfl⟩
  | cons b rest ih =>
    -- a digit or a separator leads to the parameters again, and the leader stays
    have hnext := next_digit hp (hbytes b List.mem_cons_self)
    have hleader : (p.readParam b).leader = p.leader := by
      unfold readParam
      repeat' split
      all_goals rfl
    obtain ⟨q, hq, hin, hsame⟩ := ih (p := (p.readParam b).goto .sequenceParams)
      (fun d hd => hbytes d (List.mem_cons_of_mem b hd)) (.inr rfl)
    refine ⟨q, ?_, hin, hsame.trans hleader⟩
    rw [scan, hnext]
    dsimp only
    rw [hq]
    rfl

/-- **The digits of a parameter** are read as its value, as long as there is room for it. -/
theorem scan_digits {bytes : List UInt8} (hbytes : ∀ b ∈ bytes, 48 ≤ b.toNat ∧ b.toNat ≤ 57)
    (hp : p.state = .sequenceParams) (hroom : p.stored < capacity) :
    p.scan bytes = ({ p with value := bytes.foldl shifted p.value }, []) := by
  induction bytes generalizing p with
  | nil => rfl
  | cons b rest ih =>
    -- a digit is neither of the separators, so it is appended to the value
    have hb := hbytes b List.mem_cons_self
    have hsemicolon : b ≠ 0x3B := by
      rintro rfl
      exact absurd hb.2 (by decide)
    have hcolon : b ≠ 0x3A := by
      rintro rfl
      exact absurd hb.2 (by decide)
    have hread : (p.readParam b).goto .sequenceParams = { p with value := shifted p.value b } := by
      unfold readParam
      rw [if_neg (Nat.not_le.2 hroom), if_neg hsemicolon, if_neg hcolon, goto, ← hp]
      rfl
    rw [scan, next_digit (.inr hp) ⟨hb.1, by omega⟩, hread]
    dsimp only
    rw [ih (p := { p with value := shifted p.value b })
      (fun d hd => hbytes d (List.mem_cons_of_mem b hd)) hp hroom]
    rfl

/-- The digits of a byte, as a parameter. -/
theorem scan_digits_of_lt {n : Nat} (hn : n < 256) (hp : p.state = .sequenceParams)
    (hroom : p.stored < capacity) (hvalue : p.value = 0) :
    p.scan (digits n) = ({ p with value := n }, []) := by
  rw [scan_digits (fun b hb => mem_digits hb) hp hroom, hvalue, foldl_digits n hn]

/-- A semicolon ends a parameter. -/
theorem scan_semicolon (hp : p.state = .sequenceParams) (hroom : p.stored < capacity)
    (rest : List UInt8) :
    p.scan (0x3B :: rest)
      = ({ p with groups := p.groups ++ [p.opened ++ [p.value]], opened := [], value := 0 }).scan
          rest := by
  have hread : (p.readParam 0x3B).goto .sequenceParams
      = { p with groups := p.groups ++ [p.opened ++ [p.value]], opened := [], value := 0 } := by
    unfold readParam
    rw [if_neg (Nat.not_le.2 hroom), if_pos rfl, goto, ← hp]
  rw [scan, next_digit (.inr hp) (by decide), hread]
  rfl

/-- The final byte completes the sequence. -/
theorem next_final (hp : p.IsInParams) {b : UInt8} (hb : 64 ≤ b.toNat ∧ b.toNat < 127) :
    p.next b = (p.goto .ground, some (.sequence p.leader p.params b)) := by
  -- a final byte is none of the bytes that parameters, leaders and intermediates are made of
  have h₁ : ¬ b < 0x30 := not_lt_of_le (Nat.le_trans (by decide) hb.1)
  have h₂ : ¬ b < 0x3C := not_lt_of_le (Nat.le_trans (by decide) hb.1)
  have h₃ : ¬ b < 0x40 := not_lt_of_le (x := 0x40) hb.1
  have h₄ : b < 0x7F := UInt8.lt_iff_toNat_lt.2 hb.2
  have hnext := next_of_le (p := p) (show 32 ≤ b.toNat by omega)
  obtain hp | hp := hp
  · rw [hnext.2.1 hp, sequenceEntry, if_neg h₁, if_neg h₂, if_neg h₃, if_pos h₄, finish]
  · rw [hnext.2.2.1 hp, sequenceParams, if_neg h₁, if_neg h₂, if_neg h₃, if_pos h₄, finish]

end Emulator.Parser

/-! ### The condition of a terminal -/

namespace Terminal

open Emulator (Parser)

/-- **The condition of a terminal**: what outlives a drawing. A neutral terminal shows its main
screen and its cursor, wraps lines, and prints in the plain style. -/
structure Condition where
  /-- The alternate screen is shown. -/
  alternate : Bool := false
  wraps : Bool := true
  cursorShown : Bool := true
  pen : Style := .plain
  /-- The style that is returned to with the main screen. -/
  mainPen : Style := .plain
deriving DecidableEq

namespace Condition

/-- Show the alternate screen. The style of the main screen is remembered when it is left. -/
def enter (c : Condition) : Condition :=
  { c with alternate := true, mainPen := if c.alternate then c.mainPen else c.pen }

/-- Show the main screen, and return to its style. -/
def leave (c : Condition) : Condition := { c with alternate := false, pen := c.mainPen }

/-- Switch one of the private modes on. -/
def setMode (c : Condition) (mode : List Nat) : Condition :=
  if mode = [7] then { c with wraps := true }
  else if mode = [25] then { c with cursorShown := true }
  else if mode = [1049] then c.enter
  else c

/-- Switch one of the private modes off. -/
def resetMode (c : Condition) (mode : List Nat) : Condition :=
  if mode = [7] then { c with wraps := false }
  else if mode = [25] then { c with cursorShown := false }
  else if mode = [1049] then c.leave
  else c

/-- **The condition after a command.** Only those that a surface sends are told apart. -/
def perform (c : Condition) : Emulator.Command → Condition
  | .sequence none params final =>
    if final = 0x6D then { c with pen := Emulator.Pen.select params c.pen } else c
  | .sequence (some leader) params final =>
    if leader = 0x3F ∧ final = 0x68 then params.foldl setMode c
    else if leader = 0x3F ∧ final = 0x6C then params.foldl resetMode c
    else c
  | .print _ => c
  | .control _ => c
  | .escape _ _ => c

/-- The condition with other attributes to print in. -/
def withAttributes (c : Condition) (change : Attributes → Attributes) : Condition :=
  { c with pen := { c.pen with attributes := change c.pen.attributes } }

/-- **The condition after an instruction.** -/
def obey (c : Condition) : Instruction → Condition
  | .resetStyle => { c with pen := .plain }
  | .bold => c.withAttributes fun a => { a with bold := true }
  | .italic => c.withAttributes fun a => { a with italic := true }
  | .underline => c.withAttributes fun a => { a with underline := true }
  | .inverse => c.withAttributes fun a => { a with inverse := true }
  | .foreground color => { c with pen := { c.pen with foreground := color } }
  | .background color => { c with pen := { c.pen with background := color } }
  | .showCursor => { c with cursorShown := true }
  | .hideCursor => { c with cursorShown := false }
  | .enterAlternateScreen => c.enter
  | .leaveAlternateScreen => c.leave
  | .disableWrap => { c with wraps := false }
  | .enableWrap => { c with wraps := true }
  | .moveTo _ => c
  | .clearScreen => c
  | .title _ => c
  | .print _ => c

end Condition

/-- **No control character** is in the text of an instruction. -/
def Instruction.IsClean : Instruction → Prop
  | .title text => ∀ c ∈ text, Text.isControl c = false
  | .print text => ∀ c ∈ text, Text.isControl c = false
  | _ => True

/-- **Bytes are read as an instruction**: a parser in its ground state returns to it, and the
commands in the bytes do to a terminal what the instruction says. -/
def Reads (bytes : List UInt8) (change : Condition → Condition) : Prop :=
  ∀ p : Parser, p.state = .ground → ∃ q commands, p.scan bytes = (q, commands) ∧
    q.state = .ground ∧ ∀ c : Condition, commands.foldl .perform c = change c

theorem reads_nil : Reads [] id := fun p hp => ⟨p, [], rfl, hp, fun _ => rfl⟩

theorem reads_append {a b : List UInt8} {f g : Condition → Condition} (ha : Reads a f)
    (hb : Reads b g) : Reads (a ++ b) (g ∘ f) := by
  intro p hp
  obtain ⟨q, commands, hq, hground, hf⟩ := ha p hp
  obtain ⟨q', commands', hq', hground', hg⟩ := hb q hground
  refine ⟨q', commands ++ commands', ?_, hground', ?_⟩
  · -- what the first part leaves behind is where the second one begins
    rw [Parser.scan_append, hq, hq']
  · -- the commands are performed in the order of the parts
    intro c
    rw [List.foldl_append, hf, hg]
    rfl

/-- What comes after the escape byte and the bracket completes one command. -/
theorem reads_sequence {rest : List UInt8} {i : Instruction} (command : Emulator.Command)
    (hscan : ∃ q, (Parser.begin .sequenceEntry).scan rest = (q, [command]) ∧ q.state = .ground)
    (hobey : ∀ c : Condition, c.perform command = c.obey i) :
    Reads (0x1B :: 0x5B :: rest) (Condition.obey · i) := by
  intro p hp
  obtain ⟨q, hq, hground⟩ := hscan
  refine ⟨q, [command], ?_, hground, hobey⟩
  -- the escape byte and the bracket lead to the entry of a sequence
  rw [Parser.scan_escape hp, Parser.scan, show (Parser.begin .escape).next 0x5B
    = (Parser.begin .sequenceEntry, none) from rfl]
  dsimp only
  rw [hq]
  rfl

/-- A sequence without numbers of its own, with the command that it stands for. -/
theorem reads_fixed {i : Instruction} (rest : List UInt8) (command : Emulator.Command)
    (hbytes : i.encode.flatMap encode = 0x1B :: 0x5B :: rest)
    (hscan : ((Parser.begin .sequenceEntry).scan rest).2 = [command] ∧
      ((Parser.begin .sequenceEntry).scan rest).1.state = .ground)
    (hobey : ∀ c : Condition, c.perform command = c.obey i) :
    Reads (i.encode.flatMap encode) (Condition.obey · i) := by
  rw [hbytes]
  exact reads_sequence command ⟨_, Prod.ext rfl hscan.1, hscan.2⟩ hobey

/-- A title is read to its bell, and no command comes of it. -/
theorem reads_title {text : List Char} (htext : ∀ c ∈ text, Text.isControl c = false) :
    Reads ((Instruction.title text).encode.flatMap encode) (Condition.obey · (.title text)) := by
  have hbytes : (Instruction.title text).encode.flatMap encode
      = [0x1B, 0x5D] ++ ([0x30, 0x3B] ++ text.flatMap encode ++ [0x07]) := by
    rw [Instruction.encode, List.flatMap_append, List.flatMap_append]
    rfl
  -- no byte before the bell can end the title
  have hvisible : ∀ b ∈ [0x30, 0x3B] ++ text.flatMap encode, 32 ≤ b.toNat := by
    intro b hb
    obtain hb | hb := List.mem_append.1 hb
    · obtain rfl | hb := List.mem_cons.1 hb
      · decide
      · rw [List.mem_singleton.1 hb]
        decide
    · obtain ⟨c, hc, hb⟩ := List.mem_flatMap.1 hb
      exact Text.Utf8.le_of_mem_encode (by decide) (Parser.le_of_isControl (htext c hc)) hb
  intro p hp
  refine ⟨(Parser.begin .systemCommand).goto .ground, [], ?_, rfl, fun _ => rfl⟩
  -- the title is swallowed up to its bell, which returns to the ground state
  rw [hbytes, List.cons_append, Parser.scan_escape hp, List.singleton_append, Parser.scan,
    show (Parser.begin .escape).next 0x5D = (Parser.begin .systemCommand, none) from rfl]
  dsimp only
  rw [Parser.scan_append, Parser.scan_title hvisible rfl]
  rfl

/-! ### Sequences with numbers -/

theorem reads_moveTo (place : Position) :
    Reads ((Instruction.moveTo place).encode.flatMap encode) (Condition.obey · (.moveTo place)) := by
  have hbytes : (Instruction.moveTo place).encode.flatMap encode
      = 0x1B :: 0x5B :: ((Parser.digits (place.row.toNat + 1) ++ [0x3B]
          ++ Parser.digits (place.col.toNat + 1)) ++ [0x48]) := by
    rw [Instruction.encode, Instruction.sequence, List.flatMap_cons, List.flatMap_cons,
      List.flatMap_append, List.flatMap_append, List.flatMap_append]
    rfl
  rw [hbytes]
  -- where the cursor goes does not matter, so the numbers need not be read as what they are
  have hparams : ∀ b ∈ Parser.digits (place.row.toNat + 1) ++ [0x3B]
      ++ Parser.digits (place.col.toNat + 1), 48 ≤ b.toNat ∧ b.toNat ≤ 59 := by
    intro b hb
    rw [List.mem_append, List.mem_append, List.mem_singleton] at hb
    obtain (hb | rfl) | hb := hb
    · have := Parser.mem_digits hb
      omega
    · decide
    · have := Parser.mem_digits hb
      omega
  obtain ⟨q, hq, hin, hleader⟩ :=
    Parser.scan_params (p := Parser.begin .sequenceEntry) hparams (.inl rfl)
  refine reads_sequence (.sequence q.leader q.params 0x48) ⟨q.goto .ground, ?_, rfl⟩ ?_
  · -- the parser reads the numbers to their end, and the last byte completes the sequence
    rw [Parser.scan_append, hq]
    dsimp only
    rw [Parser.scan, Parser.next_final hin (by decide)]
    rfl
  · -- without a leader the sequence moves the cursor, which is not part of the condition
    intro c
    rw [hleader]
    rfl

theorem byte?_toNat (n : UInt8) : Emulator.Pen.byte? n.toNat = some n := by
  rw [Emulator.Pen.byte?, if_pos (Nat.le_of_lt_succ n.toNat_lt), UInt8.ofNat_toNat]

theorem rgb?_toNat (r g b : UInt8) :
    Emulator.Pen.rgb? r.toNat g.toNat b.toNat = some (.rgb r g b) := by
  rw [Emulator.Pen.rgb?, byte?_toNat, byte?_toNat, byte?_toNat]

theorem indexed?_toNat (n : UInt8) : Emulator.Pen.indexed? n.toNat = some (.indexed n) := by
  rw [Emulator.Pen.indexed?, byte?_toNat]
  rfl

/-- The parser once it has read which of the two colors is selected, and in which form it is given. -/
def colorHead (which form : Nat) : Parser := ⟨.sequenceParams, none, [[which], [form]], [], 0⟩

/-- A color of the palette is read. -/
theorem scan_indexed (which : Nat) (n : UInt8) :
    (colorHead which 5).scan (Parser.digits n.toNat ++ [0x6D])
      = ((⟨.ground, none, [[which], [5]], [], n.toNat⟩ : Parser),
          [.sequence none [[which], [5], [n.toNat]] 0x6D]) := by
  -- one number, and then the final byte
  rw [Parser.scan_append, Parser.scan_digits_of_lt n.toNat_lt rfl
    (by simp [colorHead, Parser.stored, Parser.capacity]) rfl]
  dsimp only
  rw [Parser.scan, Parser.next_final (.inr rfl) (by decide)]
  rfl

/-- A mixed color is read. -/
theorem scan_rgb (which : Nat) (r g b : UInt8) :
    (colorHead which 2).scan (Parser.digits r.toNat ++ (0x3B :: (Parser.digits g.toNat ++
        (0x3B :: (Parser.digits b.toNat ++ [0x6D])))))
      = ((⟨.ground, none, [[which], [2], [r.toNat], [g.toNat]], [], b.toNat⟩ : Parser),
          [.sequence none [[which], [2], [r.toNat], [g.toNat], [b.toNat]] 0x6D]) := by
  -- three numbers, a semicolon after each of the first two, and then the final byte
  rw [Parser.scan_append, Parser.scan_digits_of_lt r.toNat_lt rfl
    (by simp [colorHead, Parser.stored, Parser.capacity]) rfl]
  dsimp only
  rw [Parser.scan_semicolon rfl (by simp [colorHead, Parser.stored, Parser.capacity]),
    Parser.scan_append, Parser.scan_digits_of_lt g.toNat_lt rfl
      (by simp [colorHead, Parser.stored, Parser.capacity]) rfl]
  dsimp only
  rw [Parser.scan_semicolon rfl (by simp [colorHead, Parser.stored, Parser.capacity]),
    Parser.scan_append, Parser.scan_digits_of_lt b.toNat_lt rfl
      (by simp [colorHead, Parser.stored, Parser.capacity]) rfl]
  dsimp only
  rw [Parser.scan, Parser.next_final (.inr rfl) (by decide)]
  rfl

/-- The plane of a color selection: the digit that is written, its byte, and the number that it makes
with the digit after it. -/
def IsPlane (plane : Char) (code : UInt8) (which : Nat) : Prop :=
  plane = '3' ∧ code = 0x33 ∧ which = 38 ∨ plane = '4' ∧ code = 0x34 ∧ which = 48

section

variable {plane : Char} {code : UInt8} {which : Nat} (hplane : IsPlane plane code which)

include hplane

theorem scan_colorHead {digit : UInt8} {form : Nat}
    (hform : digit = 0x35 ∧ form = 5 ∨ digit = 0x32 ∧ form = 2) (rest : List UInt8) :
    (Parser.begin .sequenceEntry).scan ([code, 0x38, 0x3B, digit, 0x3B] ++ rest)
      = (colorHead which form).scan rest := by
  have hhead : (Parser.begin .sequenceEntry).scan [code, 0x38, 0x3B, digit, 0x3B]
      = (colorHead which form, []) := by
    -- two planes and two forms, each of them a fixed beginning
    obtain ⟨-, rfl, rfl⟩ | ⟨-, rfl, rfl⟩ := hplane <;>
      obtain ⟨rfl, rfl⟩ | ⟨rfl, rfl⟩ := hform <;> rfl
  rw [Parser.scan_append, hhead]
  rfl

theorem announcesColor_plane : Emulator.Pen.announcesColor which = true := by
  obtain ⟨-, -, rfl⟩ | ⟨-, -, rfl⟩ := hplane <;> rfl

/-- **The selection of a color** is read as the color. -/
theorem reads_color {i : Instruction} {color : Color}
    (hencode : i.encode = Instruction.colorSelection plane color)
    (hobey : ∀ c : Condition, c.obey i = { c with pen :=
      if which = 38 then { c.pen with foreground := color }
      else { c.pen with background := color } }) :
    Reads (i.encode.flatMap encode) (Condition.obey · i) := by
  -- the plane is written as one byte
  have hbyte : encode plane = [code] := by
    obtain ⟨rfl, rfl, -⟩ | ⟨rfl, rfl, -⟩ := hplane <;> rfl
  rw [hencode]
  cases color with
  | default =>
    -- no color: one more than the number that selects a color, and no further numbers
    have hbytes : (Instruction.colorSelection plane .default).flatMap encode
        = 0x1B :: 0x5B :: [code, 0x39, 0x6D] := by
      rw [Instruction.colorSelection, Instruction.sequence, List.flatMap_cons, List.flatMap_cons,
        List.flatMap_cons, hbyte]
      rfl
    rw [hbytes]
    refine reads_sequence (.sequence none [[which + 1]] 0x6D) ?_ fun c => ?_
    · -- the sequence is fixed, for either plane
      obtain ⟨-, rfl, rfl⟩ | ⟨-, rfl, rfl⟩ := hplane <;> exact ⟨_, rfl, rfl⟩
    · -- its number resets the color of the plane
      rw [hobey]
      obtain ⟨-, -, rfl⟩ | ⟨-, -, rfl⟩ := hplane <;> rfl
  | indexed n =>
    -- a color of the palette: the head with form 5, and the index
    have hbytes : (Instruction.colorSelection plane (.indexed n)).flatMap encode
        = 0x1B :: 0x5B :: ([code, 0x38, 0x3B, 0x35, 0x3B]
          ++ (Parser.digits n.toNat ++ [0x6D])) := by
      rw [Instruction.colorSelection, Instruction.sequence, List.flatMap_cons, List.flatMap_cons,
        List.flatMap_append, List.flatMap_append, List.flatMap_cons, hbyte, List.append_assoc]
      rfl
    rw [hbytes]
    -- the head is read first, and then the number
    refine reads_sequence _ ⟨_, (scan_colorHead hplane (.inl ⟨rfl, rfl⟩) _).trans
      (scan_indexed which n), rfl⟩ fun c => ?_
    -- the pen takes the color from the numbers, in the plane that was announced
    rw [hobey, Condition.perform, if_pos rfl, Emulator.Pen.select, announcesColor_plane hplane,
      if_pos rfl]
    dsimp only
    rw [indexed?_toNat]
    rfl
  | rgb r g b =>
    -- a mixed color: the head with form 2, and three numbers
    have hbytes : (Instruction.colorSelection plane (.rgb r g b)).flatMap encode
        = 0x1B :: 0x5B :: ([code, 0x38, 0x3B, 0x32, 0x3B] ++ (Parser.digits r.toNat
          ++ (0x3B :: (Parser.digits g.toNat ++ (0x3B :: (Parser.digits b.toNat ++ [0x6D])))))) := by
      simp only [Instruction.colorSelection, Instruction.sequence, List.flatMap_cons,
        List.flatMap_append, hbyte, List.append_assoc]
      rfl
    rw [hbytes]
    -- the head is read first, and then the three numbers
    refine reads_sequence _ ⟨_, (scan_colorHead hplane (.inr ⟨rfl, rfl⟩) _).trans
      (scan_rgb which r g b), rfl⟩ fun c => ?_
    -- each number is a byte, so that the pen takes the color that was sent
    rw [hobey, Condition.perform, if_pos rfl, Emulator.Pen.select, announcesColor_plane hplane,
      if_pos rfl]
    dsimp only
    rw [rgb?_toNat]
    rfl

end

/-! ### Every instruction -/

/-- **The bytes of an instruction are read as the instruction**, if its texts have no control
characters. -/
theorem reads_encode {i : Instruction} (hclean : i.IsClean) :
    Reads (i.encode.flatMap encode) (Condition.obey · i) := by
  cases i with
  | moveTo place => exact reads_moveTo place
  | resetStyle =>
    exact reads_fixed [0x30, 0x6D] (.sequence none [[0]] 0x6D) (by decide) (by decide) fun _ => rfl
  | bold =>
    exact reads_fixed [0x31, 0x6D] (.sequence none [[1]] 0x6D) (by decide) (by decide) fun _ => rfl
  | italic =>
    exact reads_fixed [0x33, 0x6D] (.sequence none [[3]] 0x6D) (by decide) (by decide) fun _ => rfl
  | underline =>
    exact reads_fixed [0x34, 0x6D] (.sequence none [[4]] 0x6D) (by decide) (by decide) fun _ => rfl
  | inverse =>
    exact reads_fixed [0x37, 0x6D] (.sequence none [[7]] 0x6D) (by decide) (by decide) fun _ => rfl
  | foreground color =>
    exact reads_color (.inl ⟨rfl, rfl, rfl⟩) rfl fun _ => rfl
  | background color =>
    exact reads_color (.inr ⟨rfl, rfl, rfl⟩) rfl fun _ => rfl
  | showCursor =>
    exact reads_fixed [0x3F, 0x32, 0x35, 0x68] (.sequence (some 0x3F) [[25]] 0x68) (by decide)
      (by decide) fun _ => rfl
  | hideCursor =>
    exact reads_fixed [0x3F, 0x32, 0x35, 0x6C] (.sequence (some 0x3F) [[25]] 0x6C) (by decide)
      (by decide) fun _ => rfl
  | clearScreen =>
    exact reads_fixed [0x32, 0x4A] (.sequence none [[2]] 0x4A) (by decide) (by decide) fun _ => rfl
  | enterAlternateScreen =>
    exact reads_fixed [0x3F, 0x31, 0x30, 0x34, 0x39, 0x68] (.sequence (some 0x3F) [[1049]] 0x68)
      (by decide) (by decide) fun _ => rfl
  | leaveAlternateScreen =>
    exact reads_fixed [0x3F, 0x31, 0x30, 0x34, 0x39, 0x6C] (.sequence (some 0x3F) [[1049]] 0x6C)
      (by decide) (by decide) fun _ => rfl
  | disableWrap =>
    exact reads_fixed [0x3F, 0x37, 0x6C] (.sequence (some 0x3F) [[7]] 0x6C) (by decide) (by decide)
      fun _ => rfl
  | enableWrap =>
    exact reads_fixed [0x3F, 0x37, 0x68] (.sequence (some 0x3F) [[7]] 0x68) (by decide) (by decide)
      fun _ => rfl
  | title text => exact reads_title hclean
  | print text =>
    intro p hp
    obtain ⟨q, hq, hground⟩ := Parser.scan_text hclean hp
    refine ⟨q, text.map .print, hq, hground, ?_⟩
    intro c
    rw [List.foldl_map]
    clear hq
    -- a printed character leaves the condition alone
    induction text with
    | nil => rfl
    | cons d rest ih => exact ih fun e he => hclean e (List.mem_cons_of_mem d he)

/-- The condition after several instructions. -/
def Condition.obeyAll (c : Condition) (instructions : List Instruction) : Condition :=
  instructions.foldl obey c

theorem Condition.obeyAll_append (c : Condition) (first rest : List Instruction) :
    c.obeyAll (first ++ rest) = (c.obeyAll first).obeyAll rest :=
  List.foldl_append

/-- **What is written is read as it was meant**, if its texts have no control characters. -/
theorem reads_bytesOf {instructions : List Instruction} (h : ∀ i ∈ instructions, i.IsClean) :
    Reads (Rehearsal.bytesOf instructions) (Condition.obeyAll · instructions) := by
  induction instructions with
  | nil => exact reads_nil
  | cons i rest ih =>
    unfold Rehearsal.bytesOf at ih ⊢
    rw [Instruction.encodeAll_cons, List.flatMap_append]
    exact reads_append (reads_encode (h i List.mem_cons_self))
      (ih fun j hj => h j (List.mem_cons_of_mem i hj))

end Terminal

end FramedShell
