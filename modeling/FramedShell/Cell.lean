import FramedShell.Text.Width

/-!
# Styled character cells

The unit of exchange between the terminal emulator, the painter of the picture and the display. A cell
either draws a text — one character and the marks that combine with it — or is the right half of the
wide character before it, which takes a column and draws nothing.

## Main definitions

* `Color`, `Attributes`, `Style` — how a cell looks;
* `Cell` — what a cell shows;
* `Cell.width` — the columns that drawing a cell advances by;
* `Cell.ofText` — the cells of a text, a wide character followed by its right half.
-/

namespace FramedShell

/-- **A color**: the terminal's own, one of its palette, or mixed from red, green and blue. -/
inductive Color where
  | default
  | indexed (n : UInt8)
  | rgb (r g b : UInt8)
deriving DecidableEq, Inhabited

/-- **The attributes of a cell.** -/
structure Attributes where
  bold : Bool := false
  italic : Bool := false
  underline : Bool := false
  inverse : Bool := false
deriving DecidableEq, Inhabited

/-- The attributes as a set of bits: one for bold, four for italic, eight for underline and sixteen for
inverse. -/
def Attributes.bits (a : Attributes) : Nat :=
  (if a.bold then 1 else 0) + (if a.italic then 4 else 0) + (if a.underline then 8 else 0) +
    (if a.inverse then 16 else 0)

/-- **The style of a cell**: its colors and attributes. -/
structure Style where
  foreground : Color := .default
  background : Color := .default
  attributes : Attributes := {}
deriving DecidableEq, Inhabited

/-- The style of a terminal that was told nothing. -/
def Style.plain : Style := {}

/-- The style with two colors and no attribute. -/
def Style.colored (foreground background : Color) : Style := ⟨foreground, background, {}⟩

/-- **A cell of a grid.** -/
inductive Cell where
  /-- A cell that draws `text`. -/
  | drawn (text : List Char) (style : Style)
  /-- The right half of the wide character before it. -/
  | continuation (style : Style)
deriving DecidableEq, Inhabited

namespace Cell

/-- A space in the given style. -/
def space (style : Style) : Cell := .drawn [' '] style

/-- A space in the plain style. -/
def blank : Cell := space .plain

/-- The style of a cell. -/
def style : Cell → Style
  | .drawn _ s => s
  | .continuation s => s

/-- Whether the cell is the right half of a wide character. -/
def isContinuation : Cell → Bool
  | .drawn _ _ => false
  | .continuation _ => true

/-- **The columns of a cell**: none for a right half, else those of its text and at least one. -/
def width : Cell → Nat
  | .drawn text _ => max (Text.textWidth text) 1
  | .continuation _ => 0

@[simp] theorem style_space (s : Style) : (space s).style = s := rfl

@[simp] theorem width_continuation (s : Style) : (continuation s).width = 0 := rfl

@[simp] theorem width_space (s : Style) : (space s).width = 1 := by
  simp only [space, width]
  decide

@[simp] theorem width_blank : blank.width = 1 := width_space _

/-- The cells that draw one character: a wide one is followed by its right half. -/
def ofChar (style : Style) (c : Char) : List Cell :=
  if (Text.charWidth c).getD 1 = 2 then [.drawn [c] style, .continuation style] else [.drawn [c] style]

/-- **The cells of a text**, one character after the other. -/
def ofText (text : List Char) (style : Style) : List Cell := text.flatMap (ofChar style)

/-- A row of spaces. -/
def fill (style : Style) (cols : Nat) : List Cell := List.replicate cols (space style)

end Cell

end FramedShell
