import FramedShell.Cell
import FramedShell.Geometry
import FramedShell.Text.Utf8

/-!
# What a terminal is told

The output to a terminal is a list of instructions. Each is written as an escape sequence, except that a
text is written as it is.

## Main definitions

* `Instruction` — one instruction;
* `Instruction.encode` — the characters it is written with;
* `Instruction.size` — how many bytes they take.
-/

namespace FramedShell.Terminal

/-- **One instruction** to a terminal. -/
inductive Instruction where
  /-- Place the cursor on a cell. It is written counted from one. -/
  | moveTo (place : Position)
  /-- Return to the default colors and attributes. -/
  | resetStyle
  | bold
  | italic
  | underline
  | inverse
  | foreground (color : Color)
  | background (color : Color)
  | showCursor
  | hideCursor
  | clearScreen
  | enterAlternateScreen
  | leaveAlternateScreen
  | disableWrap
  | enableWrap
  | title (text : List Char)
  | print (text : List Char)
deriving DecidableEq, Inhabited

namespace Instruction

/-- The escape sequence with the given rest after its introducer. -/
def sequence (rest : List Char) : List Char := '\x1b' :: '[' :: rest

/-- The decimal digits of a number. -/
def decimal (n : Nat) : List Char := Nat.toDigits 10 n

/-- The selection of a color. `plane` is 3 for the foreground and 4 for the background. -/
def colorSelection (plane : Char) : Color → List Char
  | .default => sequence [plane, '9', 'm']
  | .indexed n => sequence ([plane, '8', ';', '5', ';'] ++ decimal n.toNat ++ ['m'])
  | .rgb r g b =>
    sequence ([plane, '8', ';', '2', ';'] ++ decimal r.toNat ++ [';'] ++ decimal g.toNat ++ [';'] ++
      decimal b.toNat ++ ['m'])

/-- **The characters of an instruction.** -/
def encode : Instruction → List Char
  | .moveTo place =>
    sequence (decimal (place.row.toNat + 1) ++ [';'] ++ decimal (place.col.toNat + 1) ++ ['H'])
  | .resetStyle => sequence ['0', 'm']
  | .bold => sequence ['1', 'm']
  | .italic => sequence ['3', 'm']
  | .underline => sequence ['4', 'm']
  | .inverse => sequence ['7', 'm']
  | .foreground color => colorSelection '3' color
  | .background color => colorSelection '4' color
  | .showCursor => sequence "?25h".toList
  | .hideCursor => sequence "?25l".toList
  | .clearScreen => sequence ['2', 'J']
  | .enterAlternateScreen => sequence "?1049h".toList
  | .leaveAlternateScreen => sequence "?1049l".toList
  | .disableWrap => sequence "?7l".toList
  | .enableWrap => sequence "?7h".toList
  | .title text => ['\x1b', ']', '0', ';'] ++ text ++ ['\x07']
  | .print text => text

/-- The number of bytes of an instruction. -/
def size (i : Instruction) : Nat := (i.encode.flatMap Text.Utf8.encode).length

/-- The characters of several instructions. -/
def encodeAll (instructions : List Instruction) : List Char := instructions.flatMap encode

@[simp] theorem encodeAll_nil : encodeAll [] = [] := rfl

@[simp] theorem encodeAll_cons (i : Instruction) (rest : List Instruction) :
    encodeAll (i :: rest) = i.encode ++ encodeAll rest := by
  simp [encodeAll]

@[simp] theorem encodeAll_append (a b : List Instruction) :
    encodeAll (a ++ b) = encodeAll a ++ encodeAll b := by
  simp [encodeAll]

/-- The instructions that set a style, from any style before. -/
def setStyle (s : Style) : List Instruction :=
  [.resetStyle] ++ (if s.attributes.bold then [.bold] else []) ++
    (if s.attributes.italic then [.italic] else []) ++
    (if s.attributes.underline then [.underline] else []) ++
    (if s.attributes.inverse then [.inverse] else []) ++
    [.foreground s.foreground, .background s.background]

end Instruction

end FramedShell.Terminal
