import FramedShell.Display
import FramedShell.Layout
import FramedShell.Row

/-!
# Showing a grid in the viewport

The rows of a grid are fitted to the viewport and drawn into it, and the cursor is placed on the cell
that shows the grid's cursor. Grid and viewport may differ in size: missing rows are blank, and a cursor
beyond the viewport is shown at its edge.
-/

namespace FramedShell

/-- **A grid that can be shown**: its rows, its cursor, and whether the cursor is visible. A row beyond
the grid is empty. -/
structure Grid where
  row : Nat → List Cell
  cursor : Position
  cursorVisible : Bool

namespace Grid

/-- The strokes that show one row of the grid in a row of the viewport. -/
def rowStroke (g : Grid) (v : Rect) (row : Nat) : Stroke :=
  Stroke.cells (v.origin.row.toNat + row) v.origin.col.toNat (Row.fit (g.row row) v.size.cols.toNat)

/-- The strokes that place the cursor in the viewport. -/
def cursorStrokes (g : Grid) (v : Rect) : List Stroke :=
  [Stroke.cursor (v.origin.row.toNat + min g.cursor.row.toNat (v.size.rows.toNat - 1))
      (v.origin.col.toNat + min g.cursor.col.toNat (v.size.cols.toNat - 1)),
    .setCursorVisible g.cursorVisible]

/-- **The strokes that show a grid.** Without a viewport, or in one without cells, nothing is drawn. -/
def strokes (g : Grid) : Option Rect → List Stroke
  | none => []
  | some v =>
    if v.isEmpty then []
    else (List.range v.size.rows.toNat).map (g.rowStroke v) ++ g.cursorStrokes v

end Grid

end FramedShell
