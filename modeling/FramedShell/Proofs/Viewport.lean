import FramedShell.Proofs.Strokes

/-!
# Showing a grid in any viewport

A grid is shown in a viewport row by row and then the cursor is placed. Here the viewport is any
rectangle within the display, not only the inside of a frame, and the grid is any at all: it may have
fewer rows than the viewport or more, and rows of any length.

What is drawn is known at every point at which the display may refuse a call. After `k` rows the
first `k` rows of the viewport show those of the grid and every other cell is as before
(`Grid.RowsShown`); the cursor moves only once all rows are drawn.

## Main definitions

* `Grid.RowsShown` — the first rows of a viewport show those of a grid, and nothing else changed;
* `Grid.Rendering` — what showing a grid does, for each way it can end.

## Main result

* `grid_rendered` — showing a grid is such a rendering, and nothing at all without a viewport.
-/

namespace FramedShell

open Canvas

namespace Grid

/-- **The first `k` rows of a viewport show the grid**: its rows fitted to the viewport. Every other
cell is as before. -/
structure RowsShown (g : Grid) (v : Rect) (k : Nat) (before after : Canvas) : Prop where
  shown : ∀ i < k, ∀ j < v.size.cols.toNat,
    after.cell? (v.origin.row.toNat + i) (v.origin.col.toNat + j)
      = (Row.fit (g.row i) v.size.cols.toNat)[j]?
  kept : ∀ r c, ¬ ((v.origin.row.toNat ≤ r ∧ r < v.origin.row.toNat + k) ∧
      v.origin.col.toNat ≤ c ∧ c < v.origin.col.toNat + v.size.cols.toNat) →
    after.cell? r c = before.cell? r c

/-- **What showing a grid in a viewport does to a canvas.** -/
structure Rendering (g : Grid) (v : Rect) (before : Canvas) (outcome : Except DisplayFault Unit)
    (after : Canvas) : Prop where
  in_range : outcome ≠ .error .overflow
  /-- No cell and no cursor is placed outside the display, wherever the drawing ends. -/
  outside_eq : after.picture.outside = before.picture.outside
  done : before.Obliging → outcome = .ok ()
  rows_of_ok : outcome = .ok () → g.RowsShown v v.size.rows.toNat before after
  /-- The cursor is where the grid's is shown, or at the edge of the viewport next to it. -/
  cursor_of_ok : outcome = .ok () →
    after.picture.cursor.row.toNat
        = v.origin.row.toNat + min g.cursor.row.toNat (v.size.rows.toNat - 1) ∧
      after.picture.cursor.col.toNat
        = v.origin.col.toNat + min g.cursor.col.toNat (v.size.cols.toNat - 1) ∧
      after.picture.cursorVisible = g.cursorVisible ∧
      v.Contains after.picture.cursor.row.toNat after.picture.cursor.col.toNat
  /-- A row that is refused is the first that is missing. -/
  of_refused : ∀ i < v.size.rows.toNat, before.RefusesFirst .putCells i →
    outcome = .error (.refused .putCells) ∧ g.RowsShown v i before after ∧
      after.picture.cursor = before.picture.cursor ∧
      after.picture.cursorVisible = before.picture.cursorVisible

variable (g : Grid) {v : Rect} {canvas : Canvas}

/-- A viewport with cells has rows and columns. -/
theorem size_pos_of_isEmpty (h : v.isEmpty = false) :
    0 < v.size.rows.toNat ∧ 0 < v.size.cols.toNat := by
  unfold Rect.isEmpty Size.isEmpty at h
  rw [Bool.or_eq_false_iff, beq_eq_false_iff_ne, beq_eq_false_iff_ne] at h
  have hpos : ∀ n : Coord, n ≠ 0 → 0 < n.toNat := by
    intro n hn
    refine Nat.pos_of_ne_zero fun hzero => hn ?_
    rw [← UInt16.toNat_inj, hzero]
    rfl
  exact ⟨hpos _ h.1, hpos _ h.2⟩

theorem isPutting_rows (h : v.Within canvas.size) {k : Nat} (hk : k ≤ v.size.rows.toNat) :
    IsPutting ((List.range k).map (g.rowStroke v)) := by
  intro stroke hstroke
  obtain ⟨row, hrow, rfl⟩ := List.mem_map.1 hstroke
  have hlt := List.mem_range.1 hrow
  exact ⟨_, _, rowStroke_eq g h (by omega)⟩

/-- What is drawn of the rows is a beginning of the viewport. -/
theorem rowsShown_of_drawn (h : v.Within canvas.size)
    (hshaped : Shaped canvas.size canvas.picture.rows) {k : Nat} (hk : k ≤ v.size.rows.toNat)
    {after : Canvas}
    (hrows : after.picture.rows = ((List.range k).map (g.rowStroke v)).foldl
      (strokedRows canvas.size) canvas.picture.rows) :
    g.RowsShown v k canvas after := by
  have hcell : ∀ r c, after.cell? r c = cellAt (((List.range k).map (g.rowStroke v)).foldl
      (strokedRows canvas.size) canvas.picture.rows) r c := by
    intro r c
    rw [cell?_eq_cellAt, hrows]
  refine ⟨?_, ?_⟩
  · -- a cell of the rows drawn so far
    intro i hi j hj
    rw [hcell, cellAt_rowStrokes g h hshaped hk,
      if_pos ⟨⟨Nat.le_add_right _ _, by omega⟩, Nat.le_add_right _ _, by omega⟩,
      Nat.add_sub_cancel_left, Nat.add_sub_cancel_left]
  · -- a cell that none of them reaches
    intro r c hout
    rw [hcell, cellAt_rowStrokes g h hshaped hk, if_neg hout]
    rfl

/-- The cursor and every cell that are drawn lie within the display. -/
theorem inside_strokes (h : v.Within canvas.size) (hcells : v.isEmpty = false) :
    Inside canvas.size (g.strokes (some v)) := by
  obtain ⟨hrows, hcols⟩ := id h
  have hr := Coord.toNat_lt_count canvas.size.rows
  have hc := Coord.toNat_lt_count canvas.size.cols
  obtain ⟨hrowsPos, hcolsPos⟩ := size_pos_of_isEmpty hcells
  rw [strokes_eq g hcells, cursorStrokes_eq g h]
  change Inside canvas.size (_ ++ ([_] ++ [_]))
  refine inside_append ?_ (inside_append (inside_singleton ?_) (inside_singleton rfl))
  · -- the rows: the viewport is within the display, so no place of a row wraps around, and a row that
    -- is fitted is as long as the viewport is wide
    intro stroke hstroke
    obtain ⟨row, hrow, rfl⟩ := List.mem_map.1 hstroke
    have hlt := List.mem_range.1 hrow
    have hplace : (UInt16.ofNat (v.origin.row.toNat + row)).toNat = v.origin.row.toNat + row :=
      Coord.toNat_ofNat_of_lt (by omega)
    rw [rowStroke_eq g h hlt]
    refine outsideOf_putCells ?_ ?_
    · rw [hplace]
      omega
    · rw [Row.length_fit, UInt16.ofNat_toNat]
      exact hcols
  · -- the cursor is held back at the last row and the last column of the viewport, which there are as
    -- it has cells
    refine outsideOf_setCursor ?_ ?_
    · rw [Coord.toNat_ofNat_of_lt (by omega)]
      omega
    · rw [Coord.toNat_ofNat_of_lt (by omega)]
      omega

/-- The rows of a viewport, divided at one of them. -/
theorem strokes_eq_append (h : v.Within canvas.size) (hcells : v.isEmpty = false) {i : Nat}
    (hi : i < v.size.rows.toNat) :
    ∃ start cells rest, g.strokes (some v)
      = (List.range i).map (g.rowStroke v) ++ .putCells start cells :: rest := by
  -- the row that is refused, with the rows above it and the rows below
  have hrange : List.range v.size.rows.toNat
      = List.range i ++ i :: List.range' (i + 1) (v.size.rows.toNat - i - 1) := by
    rw [List.range_eq_range', List.range_eq_range', ← List.range'_succ,
      show v.size.rows.toNat - i - 1 + 1 = v.size.rows.toNat - i by omega]
    have happend : List.range' 0 i ++ List.range' (0 + i) (v.size.rows.toNat - i)
        = List.range' 0 (i + (v.size.rows.toNat - i)) := List.range'_append_1
    rw [Nat.zero_add, show i + (v.size.rows.toNat - i) = v.size.rows.toNat by omega] at happend
    exact happend.symm
  rw [strokes_eq g hcells, hrange, List.map_append, List.map_cons, rowStroke_eq g h hi,
    List.append_assoc]
  exact ⟨_, _, _, rfl⟩

variable (hshaped : Shaped canvas.size canvas.picture.rows) (h : v.Within canvas.size)
  (hcells : v.isEmpty = false)

include hshaped h hcells

/-- A drawing that goes through shows all rows, and places the cursor in the viewport. -/
theorem rendered_of_ok {after : Canvas}
    (hpicture : after.picture = (g.strokes (some v)).foldl (stroked canvas.size) canvas.picture) :
    g.RowsShown v v.size.rows.toNat canvas after ∧
      after.picture.cursor.row.toNat
        = v.origin.row.toNat + min g.cursor.row.toNat (v.size.rows.toNat - 1) ∧
      after.picture.cursor.col.toNat
        = v.origin.col.toNat + min g.cursor.col.toNat (v.size.cols.toNat - 1) ∧
      after.picture.cursorVisible = g.cursorVisible ∧
      v.Contains after.picture.cursor.row.toNat after.picture.cursor.col.toNat := by
  obtain ⟨hrow, hcol, hvisible⟩ := cursor_strokes g h hcells canvas.picture
  rw [← hpicture] at hrow hcol hvisible
  obtain ⟨hrowsPos, hcolsPos⟩ := size_pos_of_isEmpty hcells
  refine ⟨rowsShown_of_drawn g h hshaped (Nat.le_refl _) ?_, hrow, hcol, hvisible, ?_⟩
  · -- placing the cursor leaves the cells alone
    rw [hpicture, rows_foldl_stroked, strokes_eq g hcells, cursorStrokes_eq g h, List.foldl_append]
    rfl
  · -- the cursor is held back at the edges, so it lies inside
    unfold Rect.Contains
    omega

/-- A row that is refused ends the drawing after the rows above it. -/
theorem rendered_of_refused {i : Nat} (hi : i < v.size.rows.toNat)
    (hrefused : canvas.RefusesFirst .putCells i) :
    ∃ after, Display.drawAll (g.strokes (some v)) canvas = (.error (.refused .putCells), after) ∧
      g.RowsShown v i canvas after ∧ after.picture.cursor = canvas.picture.cursor ∧
      after.picture.cursorVisible = canvas.picture.cursorVisible := by
  obtain ⟨start, cells, rest, hstrokes⟩ := strokes_eq_append g h hcells hi
  -- the strokes before the one that is refused put cells and do nothing else
  have hputting := isPutting_rows g h (k := i) (by omega)
  have hlength : ((List.range i).map (g.rowStroke v)).length = i := by
    rw [List.length_map, List.length_range]
  have hfirst : canvas.RefusesFirst .putCells ((List.range i).map (g.rowStroke v)).length := by
    rwa [hlength]
  obtain ⟨after, hdrawn, -, hpicture⟩ := drawAll_of_refusesFirst hputting hfirst
  obtain ⟨hcursor, hvisible⟩ := hputting.cursor canvas.size canvas.picture
  refine ⟨after, hstrokes ▸ hdrawn, rowsShown_of_drawn g h hshaped (by omega) ?_, ?_, ?_⟩
  · -- the cells are those of the rows above
    rw [hpicture, rows_foldl_stroked]
  · -- cells do not move the cursor
    rw [hpicture, hcursor]
  · -- nor do they hide or show it
    rw [hpicture, hvisible]

theorem rendering_drawAll :
    g.Rendering v canvas (Display.drawAll (g.strokes (some v)) canvas).1
      (Display.drawAll (g.strokes (some v)) canvas).2 := by
  -- both outcomes are read off the strokes: no place is out of range, and none lies outside
  have hrange : Stroke.InRange (g.strokes (some v)) := by
    rw [strokes_eq g hcells]
    exact inRange_rows_cursor g h
  have houtside := outside_drawAll (g.strokes (some v)) canvas
  rw [(inside_strokes g h hcells).sum_eq_zero, Nat.add_zero] at houtside
  refine
    { in_range := ?_, outside_eq := Nat.le_antisymm houtside.2.1 houtside.1, done := ?_,
      rows_of_ok := fun hok => (rendered_of_ok g hshaped h hcells (picture_of_ok hok)).1,
      cursor_of_ok := fun hok => (rendered_of_ok g hshaped h hcells (picture_of_ok hok)).2,
      of_refused := ?_ }
  · -- a drawing that goes through is no fault, and one that does not was refused by the display
    obtain ⟨d, hd, -⟩ | ⟨call, d, hd⟩ := drawAll_cases hrange canvas
    · rw [hd]
      nofun
    · rw [hd]
      nofun
  · -- a display that refuses nothing is drawn on to the end
    intro hobliging
    obtain ⟨d, hd, -⟩ := hobliging.drawAll hrange
    rw [hd]
  · -- the first row that is refused ends the drawing
    intro i hi hrefused
    obtain ⟨after, hdrawn, hshown⟩ := rendered_of_refused g hshaped h hcells hi hrefused
    rw [hdrawn]
    exact ⟨rfl, hshown⟩

end Grid

/-- **Showing a grid fills the viewport and touches nothing else**, whatever the grid and the cells
before. Without a viewport, or in one without cells, nothing at all is drawn. -/
theorem grid_rendered (g : Grid) (viewport : Option Rect) (canvas : Canvas)
    (hshaped : Shaped canvas.size canvas.picture.rows)
    (hwithin : ∀ v ∈ viewport, v.Within canvas.size) :
    ((∀ v ∈ viewport, v.isEmpty = true) →
        Display.drawAll (g.strokes viewport) canvas = (.ok (), canvas)) ∧
      ∀ v ∈ viewport, v.isEmpty = false →
        g.Rendering v canvas (Display.drawAll (g.strokes viewport) canvas).1
          (Display.drawAll (g.strokes viewport) canvas).2 := by
  refine ⟨?_, ?_⟩
  · -- no viewport, or one without cells: there are no strokes at all
    intro hempty
    cases viewport with
    | none => rfl
    | some v =>
      unfold Grid.strokes
      dsimp only
      rw [if_pos (hempty v rfl)]
      rfl
  · -- the viewport has cells, and lies within the display
    intro v hv hcells
    obtain rfl := Option.mem_def.1 hv
    exact Grid.rendering_drawAll g hshaped (hwithin v rfl) hcells

/-- A grid of one row that is too wide, on a display that refuses the second row of the viewport: the
wide character at the edge is a space, and the row below is as before. -/
theorem grid_rendered_refused :
    let g : Grid :=
      ⟨fun r => if r = 0 then Cell.ofText ['a', '日'] .plain else [], ⟨0, 3⟩, true⟩
    let canvas : Canvas := { Canvas.blank ⟨4, 6⟩ with
      refusals := fun call => if call = .putCells then [false, true] else [] }
    let result := Display.drawAll (g.strokes (some ⟨⟨1, 2⟩, ⟨2, 2⟩⟩)) canvas
    result.1 = .error (.refused .putCells) ∧
      result.2.cell? 1 2 = some (.drawn ['a'] .plain) ∧
      result.2.cell? 1 3 = some (.space .plain) ∧
      result.2.cell? 2 2 = some .blank ∧ result.2.picture.cursor = ⟨0, 0⟩ := by
  intro g canvas result
  -- the second call that puts cells is the one for the row below
  have hrendering := (grid_rendered g (some ⟨⟨1, 2⟩, ⟨2, 2⟩⟩) canvas (shaped_blankRows _)
    (by rintro v ⟨⟩; exact ⟨by decide, by decide⟩)).2 _ rfl rfl
  obtain ⟨hrefused, hshown, hcursor, -⟩ := hrendering.of_refused 1 (by decide) ⟨rfl, by decide⟩
  refine ⟨hrefused, ?_, ?_, ?_, hcursor⟩
  · -- the first row, of which the wide character does not fit
    exact (hshown.shown 0 (by decide) 0 (by decide)).trans (by decide +kernel)
  · exact (hshown.shown 0 (by decide) 1 (by decide)).trans (by decide +kernel)
  · -- the row that was refused is as it was
    exact (hshown.kept 2 2 (by decide)).trans (by decide)

end FramedShell
