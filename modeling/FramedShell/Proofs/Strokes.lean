import FramedShell.Content
import FramedShell.Painter
import FramedShell.Proofs.Canvas
import FramedShell.Proofs.Layout

/-!
# The strokes of the picture and of the grid

Neither the picture around the viewport nor a grid in it ever asks for a coordinate out of range,
whatever the measures, the display, the theme and the grid (`inRange_strokes`, `inRange_showing`).
What showing a grid does to the cells of a display is said cell by cell (`cellAt_showing`): the
cells of the viewport are those of the fitted rows, and all others stay.
-/

namespace FramedShell

/-! ### Strokes in range -/

namespace Stroke

/-- **No stroke asks for a coordinate out of range.** -/
def InRange (strokes : List Stroke) : Prop := Stroke.beyond ∉ strokes

theorem inRange_nil : InRange [] := List.not_mem_nil

theorem inRange_append {s t : List Stroke} (hs : InRange s) (ht : InRange t) :
    InRange (s ++ t) := by
  intro h
  obtain h | h := List.mem_append.1 h
  · exact hs h
  · exact ht h

theorem inRange_singleton {s : Stroke} (h : s ≠ .beyond) : InRange [s] := by
  intro hmem
  exact h (List.mem_singleton.1 hmem).symm

theorem cells_eq {row col : Nat} (hr : row < Coord.count) (hc : col < Coord.count)
    (cells : List Cell) :
    Stroke.cells row col cells = .putCells ⟨UInt16.ofNat row, UInt16.ofNat col⟩ cells := by
  simp only [Stroke.cells, Position.at?, Coord.ofNat?_eq_some hr, Coord.ofNat?_eq_some hc]

theorem cursor_eq {row col : Nat} (hr : row < Coord.count) (hc : col < Coord.count) :
    Stroke.cursor row col = .setCursor ⟨UInt16.ofNat row, UInt16.ofNat col⟩ := by
  simp only [Stroke.cursor, Position.at?, Coord.ofNat?_eq_some hr, Coord.ofNat?_eq_some hc]

theorem inRange_cells {row col : Nat} (hr : row < Coord.count) (hc : col < Coord.count)
    (cells : List Cell) : InRange [Stroke.cells row col cells] := by
  refine inRange_singleton ?_
  rw [cells_eq hr hc]
  -- a place in range gives a stroke that puts cells
  intro h
  cases h

theorem inRange_text {row col : Nat} (hr : row < Coord.count) (hc : col < Coord.count)
    (text : List Char) (style : Style) : InRange [Stroke.text row col text style] :=
  inRange_cells hr hc _

/-- A stroke that is drawn row by row is one of those of some row. -/
theorem exists_row_of_mem {first last : Nat} {stroke : Nat → List Stroke}
    (hfirst : first < Coord.count) {s : Stroke} (h : s ∈ Stroke.rows first last stroke) :
    ∃ row, first ≤ row ∧ row < last ∧ s ∈ stroke row := by
  unfold Stroke.rows at h
  rw [if_pos hfirst] at h
  obtain ⟨row, hrow, hstroke⟩ := List.mem_flatMap.1 h
  have := List.mem_range'_1.1 hrow
  exact ⟨row, this.1, by omega, hstroke⟩

/-- Strokes row by row are in range if those of each row are. -/
theorem inRange_rows {first last : Nat} {stroke : Nat → List Stroke} (hfirst : first < Coord.count)
    (h : ∀ row, first ≤ row → row < last → InRange (stroke row)) :
    InRange (Stroke.rows first last stroke) := by
  intro hmem
  obtain ⟨row, hle, hlt, hstroke⟩ := exists_row_of_mem hfirst hmem
  exact h row hle hlt hstroke

end Stroke

open Stroke

theorem Coord.toNat_lt_count (a : Coord) : a.toNat < Coord.count := a.toNat_lt

/-! ### The picture around the viewport -/

namespace Painter

variable {p : Painter} {m : Measures} {display : Size}

theorem inRange_clipped (display : Size) (row col : Nat) (text : List Char) (style : Style) :
    InRange (clipped display row col text style) := by
  have hr := Coord.toNat_lt_count display.rows
  have hc := Coord.toNat_lt_count display.cols
  unfold clipped
  split
  · -- nothing is written outside of the display
    exact inRange_nil
  · exact inRange_text (by omega) (by omega) _ _

theorem inRange_bands : InRange (p.bands display) := by
  -- the first row is zero, and the others are rows of the display
  refine inRange_rows (by decide) ?_
  intro row _ hrow
  have hr := Coord.toNat_lt_count display.rows
  exact inRange_cells (by omega) (by decide) _

theorem inRange_title {l : Layout} : InRange (p.title l) := by
  unfold title
  split
  · -- without a banner or a text there is no title
    exact inRange_nil
  · exact inRange_clipped _ _ _ _ _

section

variable {frame viewport : Rect} (h : Layout.Placed display frame viewport)

include h

theorem inRange_border : InRange (p.border frame) := by
  have hr := Coord.toNat_lt_count display.rows
  have hc := Coord.toNat_lt_count display.cols
  have hbottom := h.toNat_bottom
  have hright := h.toNat_right
  have hends := h.ends_pos
  obtain ⟨h₁, h₂, h₃, h₄, h₅, h₆, h₇, h₈⟩ := h
  unfold border
  rw [if_neg hends]
  refine inRange_append (inRange_append ?_ ?_) ?_
  · -- the upper edge, the rows between the edges, and the lower edge
    exact inRange_text (by omega) (by omega) _ _
  · refine inRange_rows (by omega) ?_
    intro row _ hrow
    exact inRange_append (inRange_text (by omega) (by omega) _ _)
      (inRange_text (by omega) (by omega) _ _)
  · exact inRange_text (by omega) (by omega) _ _

theorem inRange_shadow : InRange (p.shadow frame) := by
  have hr := Coord.toNat_lt_count display.rows
  have hc := Coord.toNat_lt_count display.cols
  have hbottom := h.toNat_bottom
  have hright := h.toNat_right
  obtain ⟨h₁, h₂, h₃, h₄, h₅, h₆, h₇, h₈⟩ := h
  refine inRange_append ?_ ?_
  · -- the shadow below the frame, and the one beside it
    exact inRange_text (by omega) (by omega) _ _
  · refine inRange_rows (by omega) ?_
    intro row _ hrow
    exact inRange_text (by omega) (by omega) _ _

theorem inRange_inside {l : Layout} (hl : l.viewport = some viewport) : InRange (inside l) := by
  have hr := Coord.toNat_lt_count display.rows
  have hc := Coord.toNat_lt_count display.cols
  obtain ⟨h₁, h₂, h₃, h₄, h₅, h₆, h₇, h₈⟩ := h
  unfold inside
  rw [hl]
  refine inRange_rows (by decide) ?_
  intro row _ hrow
  exact inRange_cells (by omega) (by omega) _

end

theorem inRange_controlBar (p : Painter) (m : Measures) (display : Size) :
    InRange (p.controlBar (Layout.of m display)) := by
  have hr := Coord.toNat_lt_count display.rows
  have hrows : (Layout.of m display).controlBar.size.rows.toNat = min 2 display.rows.toNat := by
    rw [Layout.controlBar_of]
    exact Layout.toNat_barRows
  have htop : (Layout.of m display).controlBar.origin.row.toNat
      = display.rows.toNat - min 2 display.rows.toNat := by
    rw [Layout.controlBar_of, Layout.barRect, Rect.of, Coord.toNat_minus, Layout.toNat_barRows]
  have hbar : ∀ row line, row < Coord.count →
      InRange (p.barRow (Layout.of m display) row line) := by
    intro row line hrow
    exact inRange_append (inRange_cells hrow (by decide) _) (inRange_clipped _ _ _ _ _)
  unfold controlBar
  dsimp only
  split
  · -- no row, one, or two of them
    exact inRange_nil
  · exact hbar _ _ (by omega)
  · exact inRange_append (hbar _ _ (by omega)) (hbar _ _ (by omega))
  · -- the bar has at most two rows
    rename_i hzero hone htwo
    rw [hrows] at hzero hone htwo
    have hsome : min 2 display.rows.toNat ≠ 0 := hzero
    have hmore : min 2 display.rows.toNat ≠ 1 := hone
    exact absurd (by omega) htwo

/-- **No stroke of a picture is out of range**, whatever the measures and the display. -/
theorem inRange_strokes (p : Painter) (m : Measures) (display : Size) :
    InRange (p.strokes (Layout.of m display)) := by
  have hclear : InRange [Stroke.clear] := inRange_singleton nofun
  have hframe :
      InRange (p.frame (Layout.of m display)) ∧ InRange (inside (Layout.of m display)) := by
    -- there are a frame and a viewport in it, or neither
    obtain ⟨frame, viewport, hf, hv, hplaced⟩ | ⟨hf, hv⟩ := Layout.placed_of m display
    · refine ⟨?_, inRange_inside hplaced hv⟩
      unfold Painter.frame
      rw [hf]
      refine inRange_append (inRange_border hplaced) ?_
      split
      · exact inRange_shadow hplaced
      · exact inRange_nil
    · -- without a frame neither is drawn
      unfold Painter.frame inside
      rw [hf, hv]
      exact ⟨inRange_nil, inRange_nil⟩
  unfold strokes
  split
  · exact hclear
  · -- the clearing, the six parts, and the advisory where the display is too small
    refine inRange_append (inRange_append (inRange_append (inRange_append (inRange_append
      (inRange_append hclear inRange_bands) inRange_title) hframe.1) hframe.2)
      (inRange_controlBar p m display)) ?_
    unfold tooSmall
    split
    · exact inRange_clipped _ _ _ _ _
    · exact inRange_nil

end Painter

/-! ### A grid in the viewport -/

namespace Grid

/-- **The strokes that show the grid** of an engine, if it has one, and make it visible. -/
def showing (grid : Option Grid) (viewport : Option Rect) : List Stroke :=
  match grid with
  | some g => g.strokes viewport ++ [.flush]
  | none => [.flush]

variable {display : Size} {viewport : Rect} (g : Grid)

section

variable (h : viewport.Within display)

include h

/-- The stroke of one row is that of the fitted row at its place in the viewport. -/
theorem rowStroke_eq {row : Nat} (hrow : row < viewport.size.rows.toNat) :
    g.rowStroke viewport row
      = .putCells ⟨UInt16.ofNat (viewport.origin.row.toNat + row),
          UInt16.ofNat viewport.origin.col.toNat⟩
          (Row.fit (g.row row) viewport.size.cols.toNat) := by
  have hr := Coord.toNat_lt_count display.rows
  have hlast := h.1
  exact cells_eq (by omega) (Coord.toNat_lt_count _) _

theorem cursorStrokes_eq :
    g.cursorStrokes viewport
      = [.setCursor
          ⟨UInt16.ofNat (viewport.origin.row.toNat
              + min g.cursor.row.toNat (viewport.size.rows.toNat - 1)),
            UInt16.ofNat (viewport.origin.col.toNat
              + min g.cursor.col.toNat (viewport.size.cols.toNat - 1))⟩,
          .setCursorVisible g.cursorVisible] := by
  have hr := Coord.toNat_lt_count display.rows
  have hc := Coord.toNat_lt_count display.cols
  obtain ⟨hrows, hcols⟩ := h
  unfold cursorStrokes
  rw [cursor_eq (by omega) (by omega)]

/-- No stroke that shows a grid in a viewport is out of range. -/
theorem inRange_rows_cursor :
    InRange ((List.range viewport.size.rows.toNat).map (g.rowStroke viewport)
      ++ g.cursorStrokes viewport) := by
  rw [cursorStrokes_eq g h]
  refine inRange_append ?_ (inRange_append (s := [_]) (inRange_singleton nofun)
    (inRange_singleton nofun))
  -- a row of a viewport is always put as cells
  intro hmem
  obtain ⟨row, hrow, hstroke⟩ := List.mem_map.1 hmem
  rw [rowStroke_eq g h (List.mem_range.1 hrow)] at hstroke
  cases hstroke

end

/-- In a viewport with cells a grid is shown row by row. -/
theorem strokes_eq (h : viewport.isEmpty = false) :
    g.strokes (some viewport)
      = (List.range viewport.size.rows.toNat).map (g.rowStroke viewport)
        ++ g.cursorStrokes viewport := by
  unfold strokes
  dsimp only
  rw [h]
  rfl

/-- **No stroke of a shown grid is out of range.** -/
theorem inRange_showing (grid : Option Grid) (m : Measures) (display : Size) :
    InRange (showing grid (Layout.of m display).viewport) := by
  have hflush : InRange [Stroke.flush] := inRange_singleton nofun
  cases grid with
  | none => exact hflush
  | some g =>
    refine inRange_append ?_ hflush
    cases hv : (Layout.of m display).viewport with
    -- a display without a viewport shows no grid
    | none => exact inRange_nil
    | some viewport =>
      obtain ⟨frame, -, hplaced⟩ := Layout.placed_of_viewport hv
      rw [strokes_eq g hplaced.isEmpty_viewport]
      exact inRange_rows_cursor g hplaced.within

/-- The cells once the first rows of the viewport were drawn. -/
theorem cellAt_rowStrokes (h : viewport.Within display) {rows : List (List Cell)}
    (hrows : Canvas.Shaped display rows) {k : Nat} (hk : k ≤ viewport.size.rows.toNat) (r c : Nat) :
    Canvas.cellAt
        (((List.range k).map (g.rowStroke viewport)).foldl (Canvas.strokedRows display) rows) r c
      = if (viewport.origin.row.toNat ≤ r ∧ r < viewport.origin.row.toNat + k) ∧
            viewport.origin.col.toNat ≤ c ∧
            c < viewport.origin.col.toNat + viewport.size.cols.toNat then
          (Row.fit (g.row (r - viewport.origin.row.toNat)) viewport.size.cols.toNat)[
            c - viewport.origin.col.toNat]?
        else Canvas.cellAt rows r c := by
  -- row by row: the one drawn last covers its own place only
  induction k with
  -- no row is drawn, and no cell is covered
  | zero =>
    rw [if_neg (by omega)]
    rfl
  | succ k ih =>
    have hplace : (UInt16.ofNat (viewport.origin.row.toNat + k)).toNat
        = viewport.origin.row.toNat + k := by
      have := Coord.toNat_lt_count display.rows
      have hlast := h.1
      exact Coord.toNat_ofNat_of_lt (by omega)
    have hdrawn := hrows.foldl ((List.range k).map (g.rowStroke viewport))
    obtain ⟨hlastRow, hlastCol⟩ := id h
    rw [List.range_succ, List.map_append, List.foldl_append, List.map_singleton,
      List.foldl_cons, List.foldl_nil, rowStroke_eq g h (by omega),
      hdrawn.cellAt_putCells (by simp only [hplace]; omega)
        (by simp only [UInt16.ofNat_toNat, Row.length_fit]; omega), ih (by omega)]
    simp only [hplace, UInt16.ofNat_toNat, Row.length_fit]
    by_cases hrow : r = viewport.origin.row.toNat + k
    · -- the row that was drawn last
      subst hrow
      by_cases hcol : viewport.origin.col.toNat ≤ c ∧
          c < viewport.origin.col.toNat + viewport.size.cols.toNat
      · -- a column that the viewport has
        rw [if_pos ⟨rfl, hcol⟩, if_pos ⟨by omega, hcol⟩, Nat.add_sub_cancel_left]
      · -- a column beside it
        rw [if_neg fun hin => hcol hin.2, if_neg (by omega), if_neg fun hin => hcol hin.2]
    · -- a row that was drawn before, or none
      rw [if_neg fun hin => hrow hin.1]
      by_cases hin : (viewport.origin.row.toNat ≤ r ∧ r < viewport.origin.row.toNat + k) ∧
          viewport.origin.col.toNat ≤ c ∧ c < viewport.origin.col.toNat + viewport.size.cols.toNat
      · rw [if_pos hin, if_pos (by omega)]
      · rw [if_neg hin, if_neg (by omega)]

/-! ### A display on which a grid was shown -/

/-- **The cells of a display on which a grid was shown**: the fitted rows in the viewport, and what
was there before around it. -/
theorem cellAt_showing {m : Measures} (grid : Option Grid) {rows : List (List Cell)}
    (hrows : Canvas.Shaped display rows) (r c : Nat) :
    Canvas.cellAt
        ((showing grid (Layout.of m display).viewport).foldl (Canvas.strokedRows display) rows) r c
      = match grid, (Layout.of m display).viewport with
        | some g, some v =>
          if v.Contains r c then
            (Row.fit (g.row (r - v.origin.row.toNat)) v.size.cols.toNat)[c - v.origin.col.toNat]?
          else Canvas.cellAt rows r c
        | _, _ => Canvas.cellAt rows r c := by
  unfold showing
  cases grid with
  | none => rfl
  | some g =>
    cases hv : (Layout.of m display).viewport with
    | none => rfl
    | some v =>
      obtain ⟨frame, -, hplaced⟩ := Layout.placed_of_viewport hv
      dsimp only
      rw [strokes_eq g hplaced.isEmpty_viewport, cursorStrokes_eq g hplaced.within,
        List.foldl_append, List.foldl_append]
      -- cursor and flush leave the cells alone
      exact cellAt_rowStrokes g hplaced.within hrows (Nat.le_refl _) r c

/-- The cursor once a grid was shown in a viewport with cells. -/
theorem cursor_strokes (h : viewport.Within display) (hcells : viewport.isEmpty = false)
    (picture : Picture) :
    let after := (g.strokes (some viewport)).foldl (Canvas.stroked display) picture
    after.cursor.row.toNat
        = viewport.origin.row.toNat + min g.cursor.row.toNat (viewport.size.rows.toNat - 1) ∧
      after.cursor.col.toNat
        = viewport.origin.col.toNat + min g.cursor.col.toNat (viewport.size.cols.toNat - 1) ∧
      after.cursorVisible = g.cursorVisible := by
  have hr := Coord.toNat_lt_count display.rows
  have hc := Coord.toNat_lt_count display.cols
  obtain ⟨hrows, hcols⟩ := id h
  rw [strokes_eq g hcells, cursorStrokes_eq g h, List.foldl_append]
  exact ⟨Coord.toNat_ofNat_of_lt (by omega), Coord.toNat_ofNat_of_lt (by omega), rfl⟩

/-- The cursor of a display on which a grid was shown in the viewport. -/
theorem cursor_showing {m : Measures} {v : Rect} (hv : (Layout.of m display).viewport = some v)
    (picture : Picture) :
    let after := (showing (some g) (some v)).foldl (Canvas.stroked display) picture
    after.cursor.row.toNat = v.origin.row.toNat + min g.cursor.row.toNat (v.size.rows.toNat - 1) ∧
      after.cursor.col.toNat = v.origin.col.toNat + min g.cursor.col.toNat (v.size.cols.toNat - 1) ∧
      after.cursorVisible = g.cursorVisible := by
  obtain ⟨frame, -, hplaced⟩ := Layout.placed_of_viewport hv
  unfold showing
  dsimp only
  rw [List.foldl_append]
  -- the flush leaves the cursor alone
  exact cursor_strokes g hplaced.within hplaced.isEmpty_viewport picture

end Grid

end FramedShell
