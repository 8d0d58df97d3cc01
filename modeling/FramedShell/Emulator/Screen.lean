import FramedShell.Emulator.Page

/-!
# The emulated screen and its commands

A screen has a main page and an alternate page, one of which is shown, and the style in which the next
character is written. `Screen.perform` carries out one command of the terminal language; a command that
the emulator does not know changes nothing.

## Main definitions

* `Command` — what the parser hands to the screen;
* `Screen` — the pages, the pen and the visibility of the cursor;
* `Pen.select` — the style after a list of selections;
* `Screen.perform` — the meaning of a command.
-/

namespace FramedShell.Emulator

/-- **One command of the terminal language.** Parameters come in groups: a group holds a value and the
values below it. -/
inductive Command where
  /-- Print a character. -/
  | print (c : Char)
  /-- A control byte. -/
  | control (b : UInt8)
  /-- An escape sequence of one final byte; `leader` is the first byte collected before it. -/
  | escape (leader : Option UInt8) (final : UInt8)
  /-- A control sequence with its parameters. -/
  | sequence (leader : Option UInt8) (params : List (List Nat)) (final : UInt8)
deriving DecidableEq, Inhabited

/-! ### Selecting a style -/

namespace Pen

/-- A color component, if it is one. -/
def byte? (n : Nat) : Option UInt8 := if n ≤ 255 then some (UInt8.ofNat n) else none

/-- The color of three components, if each is one. -/
def rgb? (r g b : Nat) : Option Color :=
  match byte? r, byte? g, byte? b with
  | some r, some g, some b => some (.rgb r g b)
  | _, _, _ => none

/-- A color of the palette, if there is one of that number. -/
def indexed? (n : Nat) : Option Color := (byte? n).map .indexed

/-- The style with the attributes changed. -/
def mark (s : Style) (f : Attributes → Attributes) : Style := { s with attributes := f s.attributes }

/-- The style after one selection that stands alone; one that is not known changes nothing. -/
def one (n : Nat) (s : Style) : Style :=
  if n = 0 then {}
  else if n = 1 then mark s fun a => { a with bold := true }
  else if n = 3 then mark s fun a => { a with italic := true }
  else if n = 4 then mark s fun a => { a with underline := true }
  else if n = 7 then mark s fun a => { a with inverse := true }
  else if n = 22 then mark s fun a => { a with bold := false }
  else if n = 23 then mark s fun a => { a with italic := false }
  else if n = 24 then mark s fun a => { a with underline := false }
  else if n = 27 then mark s fun a => { a with inverse := false }
  else if 30 ≤ n ∧ n ≤ 37 then { s with foreground := .indexed (UInt8.ofNat (n - 30)) }
  else if n = 39 then { s with foreground := .default }
  else if 40 ≤ n ∧ n ≤ 47 then { s with background := .indexed (UInt8.ofNat (n - 40)) }
  else if n = 49 then { s with background := .default }
  else if 90 ≤ n ∧ n ≤ 97 then { s with foreground := .indexed (UInt8.ofNat (n - 82)) }
  else if 100 ≤ n ∧ n ≤ 107 then { s with background := .indexed (UInt8.ofNat (n - 92)) }
  else s

/-- The style with a color for the foreground (`38`) or the background (`48`). -/
def colored (which : Nat) (c : Color) (s : Style) : Style :=
  if which = 38 then { s with foreground := c } else { s with background := c }

/-- Whether a selection announces a color. -/
def announcesColor (n : Nat) : Bool := n == 38 || n == 48

/-- **The style after a list of selections.** A color that is announced and not given, or that does not
exist, ends the list there; what came before it stays. -/
def select : List (List Nat) → Style → Style
  | [], s => s
  | [n] :: rest, s =>
    if announcesColor n then
      match rest with
      | [2] :: [r] :: [g] :: [b] :: rest' =>
        match rgb? r g b with
        | some c => select rest' (colored n c s)
        | none => s
      | [5] :: [i] :: rest' =>
        match indexed? i with
        | some c => select rest' (colored n c s)
        | none => s
      | _ => s
    else select rest (one n s)
  | [n, 5, i] :: rest, s =>
    if announcesColor n then
      match indexed? i with
      | some c => select rest (colored n c s)
      | none => s
    else select rest s
  | [n, 2, r, g, b] :: rest, s =>
    if announcesColor n then
      match rgb? r g b with
      | some c => select rest (colored n c s)
      | none => s
    else select rest s
  | _ :: rest, s => select rest s

end Pen

/-! ### The screen -/

/-- **The screen**: two pages that share one pen. -/
structure Screen where
  main : Page
  alternate : Page
  onAlternate : Bool := false
  pen : Style := {}
  savedPen : Style := {}
  cursorHidden : Bool := false
deriving DecidableEq, Inhabited

namespace Screen

/-- A blank screen. -/
def blank (e : Extent) : Screen := { main := Page.blank e, alternate := Page.blank e }

/-- The page that is shown. -/
def page (s : Screen) : Page := if s.onAlternate then s.alternate else s.main

/-- The screen with the shown page changed. -/
def onPage (f : Page → Page) (s : Screen) : Screen :=
  if s.onAlternate then { s with alternate := f s.alternate } else { s with main := f s.main }

/-- Remember the cursor of the shown page, and the pen. -/
def save (s : Screen) : Screen := { s.onPage Page.save with savedPen := s.pen }

/-- Return to the remembered cursor and pen. -/
def restore (s : Screen) : Screen := { s.onPage Page.restore with pen := s.savedPen }

/-- Remember the cursor, and show a blank alternate page. -/
def enterAlternate (e : Extent) (s : Screen) : Screen :=
  { s.save with alternate := Page.blank e, onAlternate := true }

/-- Show the main page, and return to the remembered cursor. -/
def leaveAlternate (s : Screen) : Screen := restore { s with onAlternate := false }

/-! ### Parameters -/

/-- The first value of a parameter; a missing parameter is zero. -/
def param (params : List (List Nat)) (i : Nat) : Nat := ((params[i]?).bind List.head?).getD 0

/-- The first value of a parameter, where zero stands for a default. -/
def paramOr (params : List (List Nat)) (i default : Nat) : Nat :=
  if param params i = 0 then default else param params i

/-! ### Commands -/

/-- The meaning of a control byte. -/
def control (e : Extent) (b : UInt8) : Screen → Screen :=
  match b.toNat with
  | 0x08 => onPage (Page.leftwards 1)
  | 0x09 => onPage (Page.tab e)
  | 0x0A | 0x0B | 0x0C => onPage fun p => (p.lineFeed e).1
  | 0x0D => onPage fun p => { p with col := 0 }
  | _ => id

/-- The meaning of an escape sequence. -/
def escape (e : Extent) (final : UInt8) : Screen → Screen :=
  match final.toNat with
  | 0x37 => save
  | 0x38 => restore
  | 0x4D => onPage (Page.reverseLineFeed e)
  | 0x63 => fun _ => blank e
  | _ => id

/-- Switch one of the private modes on. -/
def setMode (e : Extent) (mode : List Nat) : Screen → Screen :=
  match mode with
  | [6] => onPage (Page.setOriginMode e true)
  | [25] => fun s => { s with cursorHidden := false }
  | [47] => fun s => { s with onAlternate := true }
  | [1049] => enterAlternate e
  | _ => id

/-- Switch one of the private modes off. -/
def resetMode (e : Extent) (mode : List Nat) : Screen → Screen :=
  match mode with
  | [6] => onPage (Page.setOriginMode e false)
  | [25] => fun s => { s with cursorHidden := true }
  | [47] => fun s => { s with onAlternate := false }
  | [1049] => leaveAlternate
  | _ => id

/-- The meaning of a control sequence without a leading byte. -/
def sequence (e : Extent) (params : List (List Nat)) (final : UInt8) (s : Screen) : Screen :=
  let n := paramOr params 0 1
  match Char.ofNat final.toNat with
  | '@' => s.onPage (Page.insertChars n)
  | 'A' => s.onPage (Page.up n)
  | 'B' => s.onPage (Page.down e n)
  | 'C' => s.onPage (Page.rightwards e n)
  | 'D' => s.onPage (Page.leftwards n)
  | 'G' => s.onPage (Page.toCol e (n - 1))
  | 'H' => s.onPage (Page.moveTo e (n - 1) (paramOr params 1 1 - 1))
  | 'J' => s.onPage (Page.eraseDisplay e s.pen (param params 0))
  | 'K' => s.onPage (Page.eraseLine e s.pen (param params 0))
  | 'L' => s.onPage (Page.insertLines e n)
  | 'M' => s.onPage (Page.deleteLines e n)
  | 'P' => s.onPage (Page.deleteChars n)
  | 'S' => s.onPage (Page.scrollUp e n)
  | 'T' => s.onPage (Page.scrollDown e n)
  | 'X' => s.onPage (Page.eraseChars e s.pen n)
  | 'd' => s.onPage (Page.toRow e (n - 1))
  | 'm' => { s with pen := Pen.select params s.pen }
  | 'r' => s.onPage (Page.setRegion e (n - 1) (paramOr params 1 e.rows - 1))
  | _ => s

/-- The meaning of a control sequence that begins with a question mark. -/
def privateSequence (e : Extent) (params : List (List Nat)) (final : UInt8) (s : Screen) : Screen :=
  match Char.ofNat final.toNat with
  | 'J' => s.onPage (Page.eraseDisplay e s.pen (param params 0))
  | 'K' => s.onPage (Page.eraseLine e s.pen (param params 0))
  | 'h' => params.foldl (fun s mode => setMode e mode s) s
  | 'l' => params.foldl (fun s mode => resetMode e mode s) s
  | _ => s

/-- **The meaning of a command.** -/
def perform (e : Extent) (c : Command) (s : Screen) : Screen :=
  match c with
  | .print c => s.onPage (Page.print e s.pen c)
  | .control b => control e b s
  | .escape none final => escape e final s
  | .escape (some _) _ => s
  | .sequence none params final => sequence e params final s
  | .sequence (some leader) params final =>
    if leader = 0x3F then privateSequence e params final s else s

/-- The screen with another extent, which was `e` before. -/
def resize (e new : Extent) (s : Screen) : Screen :=
  { s with main := s.main.resize e new, alternate := s.alternate.resize e new }

end Screen

end FramedShell.Emulator
