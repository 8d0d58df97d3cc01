import FramedShell.Keyboard.Key

/-!
# What the terminal reports

The terminal reports key presses with their modifiers, changes of its size, and events of the mouse and
the focus. `TerminalEvent.toKey` reduces an event to the key that the session sees.

A character with the control modifier stands for a control byte, if there is one for it. The alt
modifier is not passed on: the bare character is.
-/

namespace FramedShell

/-- **The modifiers of a key** that matter. -/
structure Modifiers where
  shift : Bool := false
  control : Bool := false
  alt : Bool := false
deriving DecidableEq, Inhabited

/-- The modifiers as a set of bits. -/
def Modifiers.bits (m : Modifiers) : Nat :=
  (if m.shift then 1 else 0) + (if m.control then 2 else 0) + (if m.alt then 4 else 0)

/-- **The key that was pressed.** -/
inductive KeyCode where
  | char (c : Char)
  | enter
  | tab
  | escape
  | backspace
  | up
  | down
  | left
  | right
  | home
  | pageEnd
  | pageUp
  | pageDown
  | delete
  | insert
  | backTab
  | function (n : Nat)
  /-- Any other key. -/
  | other
deriving DecidableEq, Inhabited

/-- **What happened to a key.** -/
inductive KeyAction where
  | press
  | autoRepeat
  | release
deriving DecidableEq, Inhabited

/-- **An event of the terminal.** -/
inductive TerminalEvent where
  | key (code : KeyCode) (modifiers : Modifiers) (action : KeyAction)
  | resize
  /-- An event of the mouse. -/
  | mouse (modifiers : Modifiers)
  /-- A change of the focus, or a pasted text. -/
  | other
deriving DecidableEq, Inhabited

namespace TerminalEvent

/-- The key of a character with the control modifier. Letters count without their case. -/
def controlKey (c : Char) : Key :=
  let c := c.toLower
  if c = 'c' then .named .ctrlC
  else if c = 'd' then .named .ctrlD
  else if 'a' ≤ c ∧ c ≤ 'z' then .control (UInt8.ofNat (c.toNat - 0x60))
  else if c = '@' ∨ c = ' ' then .control 0x00
  else if c = '[' then .control 0x1B
  else if c = '\\' then .control 0x1C
  else if c = ']' then .control 0x1D
  else if c = '^' then .control 0x1E
  else if c = '_' then .control 0x1F
  else .named .unknown

/-- The key of a character without the control modifier. -/
def plainKey (c : Char) : Key :=
  if c.toNat = 0x7F then .named .backspace
  else if c.toNat < 0x20 then .control (UInt8.ofNat c.toNat)
  else .printable c

/-- The key of a pressed key. -/
def pressed (code : KeyCode) (m : Modifiers) : Key :=
  match code with
  | .char c => if m.control then controlKey c else plainKey c
  | .enter => .control 0x0D
  | .tab => .control 0x09
  | .escape => .control 0x1B
  | .backspace => .named .backspace
  | .up => .named .arrowUp
  | .down => .named .arrowDown
  | .left => .named .arrowLeft
  | .right => .named .arrowRight
  | .home => .named .home
  | .pageEnd => .named .pageEnd
  | .pageUp => .named .pageUp
  | .pageDown => .named .pageDown
  | .delete => .named .delete
  | .insert | .backTab | .function _ | .other => .named .unknown

/-- **The key that the session sees.** Releasing a key counts for nothing. -/
def toKey : TerminalEvent → Key
  | .key code m action => if action = .release then .named .unknown else pressed code m
  | .resize => .named .resize
  | .mouse _ | .other => .named .unknown

/-- The modifiers of an event. -/
def modifiers : TerminalEvent → Modifiers
  | .key _ m _ => m
  | .mouse m => m
  | .resize | .other => {}

end TerminalEvent

end FramedShell
