import FramedShell.Content
import FramedShell.Emulator.Parser

/-!
# The terminal emulator

The emulator turns the bytes that a program writes to a terminal into a grid of cells. Its extent is not
part of what the bytes can change: `Emulator.feed` takes it from the emulator and leaves it alone, and
only `Emulator.resize` sets it.

## Main definitions

* `Emulator` — an extent, a parser and a screen;
* `Emulator.feed` — reading bytes, one after the other;
* `Emulator.resize` — giving the screen another extent;
* `Emulator.grid` — the cells, for showing them.
-/

namespace FramedShell

open Emulator in
/-- **A terminal emulator.** -/
structure Emulator where
  size : Size
  parser : Parser
  screen : Screen
deriving DecidableEq, Inhabited

namespace Emulator

/-- The extent of a size. -/
def extentOf (size : Size) : Extent := ⟨size.rows.toNat, size.cols.toNat⟩

/-- **A new emulator** of the given size, each dimension at least one. -/
def new (size : Size) : Emulator :=
  ⟨size.atLeastOne, {}, Screen.blank (extentOf size.atLeastOne)⟩

/-- The parser and the screen after one byte, on a screen of extent `e`. -/
def step (e : Extent) (s : Parser × Screen) (b : UInt8) : Parser × Screen :=
  match s.1.next b with
  | (parser, some command) => (parser, s.2.perform e command)
  | (parser, none) => (parser, s.2)

/-- **Read bytes.** -/
def feed (bytes : List UInt8) (t : Emulator) : Emulator :=
  match bytes.foldl (step (extentOf t.size)) (t.parser, t.screen) with
  | (parser, screen) => { t with parser := parser, screen := screen }

/-- **Give the screen another size**, each dimension at least one. -/
def resize (size : Size) (t : Emulator) : Emulator :=
  { t with
    size := size.atLeastOne
    screen := t.screen.resize (extentOf t.size) (extentOf size.atLeastOne) }

/-- The cells of a row, as many as the screen has columns. Rows beyond the screen are empty. -/
def row (t : Emulator) (r : Nat) : List Cell :=
  if r < t.size.rows.toNat then
    let cells := ((t.screen.page.line r).slots.take t.size.cols.toNat).map Slot.cell
    cells ++ List.replicate (t.size.cols.toNat - cells.length) Cell.blank
  else []

/-- The position of the cursor. Its column may equal the number of columns. -/
def cursor (t : Emulator) : Position :=
  ⟨UInt16.ofNat t.screen.page.row, UInt16.ofNat t.screen.page.col⟩

/-- **The grid of the emulator.** -/
def grid (t : Emulator) : Grid := ⟨t.row, t.cursor, !t.screen.cursorHidden⟩

@[simp] theorem size_feed (bytes : List UInt8) (t : Emulator) : (t.feed bytes).size = t.size := rfl

@[simp] theorem size_resize (size : Size) (t : Emulator) : (t.resize size).size = size.atLeastOne := rfl

/-- Bytes can be read in pieces. -/
theorem feed_append (a b : List UInt8) (t : Emulator) : t.feed (a ++ b) = (t.feed a).feed b := by
  simp [feed, List.foldl_append]

theorem length_row {t : Emulator} {r : Nat} (h : r < t.size.rows.toNat) :
    (t.row r).length = t.size.cols.toNat := by
  simp only [row, h, if_true, List.length_append, List.length_map, List.length_take,
    List.length_replicate]
  omega

end Emulator

end FramedShell
