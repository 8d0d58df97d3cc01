import FramedShell.Cell
import FramedShell.Geometry

/-!
# Drawing on a display

What the program draws is a list of *strokes*. A display carries strokes out one after the other and may
refuse any of them; the strokes after a refused one are not carried out. A stroke whose coordinates
would leave the range of coordinates stops the program in the same way.

## Main definitions

* `Stroke` — one call on a display, and `Stroke.beyond`, the place where a coordinate overflows;
* `Display` — what a type has to offer to be drawn on;
* `Display.drawAll` — carrying out a list of strokes.
-/

namespace FramedShell

/-- **The calls that a display can refuse.** -/
inductive DisplayCall where
  | size
  | putCells
  | setCursor
  | setCursorVisible
  | clear
  | flush
deriving DecidableEq, Inhabited

/-- The name of a call in messages. -/
def DisplayCall.name : DisplayCall → String
  | .size => "size"
  | .putCells => "put_cells"
  | .setCursor => "set_cursor"
  | .setCursorVisible => "set_cursor_visible"
  | .clear => "clear"
  | .flush => "flush"

/-- **Why drawing stopped.** -/
inductive DisplayFault where
  /-- The display refused a call. -/
  | refused (call : DisplayCall)
  /-- A coordinate left the range of coordinates. -/
  | overflow
deriving DecidableEq, Inhabited

/-- The text of a fault. -/
def DisplayFault.message : DisplayFault → String
  | .refused call => call.name ++ " refused"
  | .overflow => "attempt to add with overflow"

/-- **One stroke** of a drawing. -/
inductive Stroke where
  /-- Draw cells from left to right, starting at a position. -/
  | putCells (start : Position) (cells : List Cell)
  /-- Place the cursor. -/
  | setCursor (place : Position)
  /-- Show or hide the cursor. -/
  | setCursorVisible (visible : Bool)
  /-- Blank the whole display. -/
  | clear
  /-- Make everything drawn so far visible. -/
  | flush
  /-- A coordinate leaves the range here: nothing after this stroke is drawn. -/
  | beyond
deriving DecidableEq, Inhabited

namespace Stroke

/-- The stroke that draws `cells` at a row and a column, if both are coordinates. -/
def cells (row col : Nat) (cells : List Cell) : Stroke :=
  match Position.at? row col with
  | some start => .putCells start cells
  | none => .beyond

/-- The stroke that draws a text in one style. -/
def text (row col : Nat) (text : List Char) (style : Style) : Stroke :=
  Stroke.cells row col (Cell.ofText text style)

/-- The stroke that places the cursor at a row and a column, if both are coordinates. -/
def cursor (row col : Nat) : Stroke :=
  match Position.at? row col with
  | some place => .setCursor place
  | none => .beyond

/-- One stroke for each row from `first` up to and without `last`. A first row that is no coordinate is
an overflow even where no row follows. -/
def rows (first last : Nat) (stroke : Nat → List Stroke) : List Stroke :=
  if first < Coord.count then (List.range' first (last - first)).flatMap stroke else [.beyond]

end Stroke

/-- **A display**: it can be asked for its size and carries out strokes. Both answers come with the
display as it is afterwards. -/
class Display (δ : Type) where
  /-- The current size. -/
  size : δ → Except DisplayFault Size × δ
  /-- Carry out one stroke. -/
  draw : Stroke → δ → Except DisplayFault Unit × δ

namespace Display

/-- **Carry out strokes in order**, up to the first that fails. -/
def drawAll {δ : Type} [Display δ] : List Stroke → δ → Except DisplayFault Unit × δ
  | [], d => (.ok (), d)
  | s :: rest, d =>
    match draw s d with
    | (.ok (), d') => drawAll rest d'
    | (.error e, d') => (.error e, d')

section

variable {δ : Type} [Display δ]

@[simp] theorem drawAll_nil (d : δ) : drawAll [] d = (.ok (), d) := rfl

theorem drawAll_cons_ok {s : Stroke} {rest : List Stroke} {d d' : δ} (h : draw s d = (.ok (), d')) :
    drawAll (s :: rest) d = drawAll rest d' := by
  simp [drawAll, h]

theorem drawAll_cons_error {s : Stroke} {rest : List Stroke} {d d' : δ} {e : DisplayFault}
    (h : draw s d = (.error e, d')) : drawAll (s :: rest) d = (.error e, d') := by
  simp [drawAll, h]

/-- Strokes can be carried out in two parts. -/
theorem drawAll_append (s t : List Stroke) (d : δ) :
    drawAll (s ++ t) d =
      match drawAll s d with
      | (.ok (), d') => drawAll t d'
      | (.error e, d') => (.error e, d') := by
  induction s generalizing d with
  | nil => rfl
  | cons x rest ih =>
    simp only [List.cons_append, drawAll]
    split
    · exact ih _
    · rfl

end

end Display

end FramedShell
