import FramedShell.Display

/-!
# A canvas: the display kept in memory

A canvas keeps every cell that was drawn, the cursor, and how often something was drawn outside it. It
can be told beforehand which of its calls to refuse, so that a drawing can be followed to any of its
points of failure.

## Main definitions

* `Picture` — what can be seen of a canvas;
* `Canvas` — a picture with its size, its schedule of refusals and its count of flushes;
* `overlay` — a row with some cells written over it.
-/

namespace FramedShell

/-- **What can be seen of a canvas**: its cells, its cursor, and how many cells and cursor places fell
outside it. -/
structure Picture where
  rows : List (List Cell)
  cursor : Position
  cursorVisible : Bool
  outside : Nat
  clears : Nat
deriving DecidableEq, Inhabited

/-- **A display in memory.** `refusals call` holds the answers to the coming calls of that kind: `true`
refuses the call, and a call for which nothing is scheduled is carried out. -/
structure Canvas where
  size : Size
  picture : Picture
  flushes : Nat
  refusals : DisplayCall → List Bool

/-- The row with `cells` written over it from column `col` on. Cells beyond its end are lost. -/
def overlay (row : List Cell) (col : Nat) (cells : List Cell) : List Cell :=
  row.take col ++ cells.take (row.length - col) ++ row.drop (col + cells.length)

namespace Canvas

/-- Rows of blank cells. -/
def blankRows (size : Size) : List (List Cell) :=
  List.replicate size.rows.toNat (List.replicate size.cols.toNat Cell.blank)

/-- A blank canvas with a visible cursor in its corner. -/
def blank (size : Size) : Canvas :=
  ⟨size, ⟨blankRows size, ⟨0, 0⟩, true, 0, 0⟩, 0, fun _ => []⟩

/-- The cell at row `r` and column `c`. -/
def cell? (canvas : Canvas) (r c : Nat) : Option Cell :=
  (canvas.picture.rows[r]?).bind fun row => row[c]?

/-- The canvas with another size. Its cells become blank; nothing else changes. -/
def resize (canvas : Canvas) (size : Size) : Canvas :=
  { canvas with size := size, picture := { canvas.picture with rows := blankRows size } }

/-- Refuse the next call of the given kind. -/
def refuseNext (canvas : Canvas) (call : DisplayCall) : Canvas :=
  { canvas with
    refusals := fun c => if c = call then true :: (canvas.refusals c).tail else canvas.refusals c }

/-- The canvas after a call of the given kind took its answer from the schedule. -/
def consume (canvas : Canvas) (call : DisplayCall) : Canvas :=
  { canvas with
    refusals := fun c => if c = call then (canvas.refusals c).tail else canvas.refusals c }

/-- Whether the next call of the given kind is refused. -/
def refuses (canvas : Canvas) (call : DisplayCall) : Bool := (canvas.refusals call).head? == some true

/-- How many of `n` cells drawn from a position on fall outside the canvas. -/
def cellsOutside (size : Size) (start : Position) (n : Nat) : Nat :=
  if start.row < size.rows then n - (size.cols.toNat - start.col.toNat) else n

/-- The picture with cells drawn at a position. -/
def putCells (size : Size) (picture : Picture) (start : Position) (cells : List Cell) : Picture :=
  { picture with
    rows := picture.rows.modify start.row.toNat fun row => overlay row start.col.toNat cells
    outside := picture.outside + cellsOutside size start cells.length }

/-- The picture with the cursor placed at a position. -/
def setCursor (size : Size) (picture : Picture) (place : Position) : Picture :=
  { picture with
    cursor := place
    outside := picture.outside + if place.row < size.rows ∧ place.col < size.cols then 0 else 1 }

/-- The call that a stroke makes, and the canvas after it; `none` for a coordinate out of range. -/
def perform? (canvas : Canvas) : Stroke → Option (DisplayCall × Canvas)
  | .putCells start cells =>
    some (.putCells, { canvas with picture := putCells canvas.size canvas.picture start cells })
  | .setCursor place =>
    some (.setCursor, { canvas with picture := setCursor canvas.size canvas.picture place })
  | .setCursorVisible visible =>
    some (.setCursorVisible, { canvas with picture := { canvas.picture with cursorVisible := visible } })
  | .clear =>
    some (.clear, { canvas with
      picture := { canvas.picture with
        rows := blankRows canvas.size
        clears := canvas.picture.clears + 1 } })
  | .flush => some (.flush, { canvas with flushes := canvas.flushes + 1 })
  | .beyond => none

/-- Carry out one stroke. A refused call changes nothing but the schedule. -/
def draw (stroke : Stroke) (canvas : Canvas) : Except DisplayFault Unit × Canvas :=
  match canvas.perform? stroke with
  | none => (.error .overflow, canvas)
  | some (call, drawn) =>
    if canvas.refuses call then (.error (.refused call), canvas.consume call)
    else (.ok (), drawn.consume call)

instance : Display Canvas where
  size canvas :=
    (if canvas.refuses .size then .error (.refused .size) else .ok canvas.size, canvas.consume .size)
  draw := draw

end Canvas

end FramedShell
