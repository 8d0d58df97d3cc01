import FramedShell.Proofs.Strokes

/-!
# What a canvas shows

A canvas *shows* a grid if its cells are those of the fitted rows in the viewport and those of a
freshly painted picture everywhere else, and its cursor is the grid's, at the place that shows it.
This depends on the size of the canvas, the measures, the theme and the grid, and on nothing that
was drawn before.

Between painting and showing, the canvas is *framed*: around the viewport the picture is right, and
in the viewport there may be anything. Showing a grid on a framed canvas is all it takes
(`Framed.shows`).

## Main definitions

* `painted` — the canvas that a fresh painter has painted;
* `Framed`, `Shows` — what holds of a canvas before and after a grid is shown.
-/

namespace FramedShell

open Canvas

namespace Painter

/-- The painter of a new loop. -/
def fresh (m : Measures) (theme : Theme) : Painter :=
  ⟨theme, m.bannerHeight, m.frameHeight, false⟩

/-- Whether the last display was too small makes no difference to the strokes. -/
theorem strokes_degraded (p : Painter) (degraded : Bool) (l : Layout) :
    ({ p with degraded := degraded } : Painter).strokes l = p.strokes l := rfl

/-- Every picture begins on a cleared display. -/
theorem strokes_eq_clear (p : Painter) (l : Layout) : ∃ rest, p.strokes l = .clear :: rest := by
  unfold strokes
  split
  · -- a display without cells is cleared and no more
    exact ⟨_, rfl⟩
  · -- the parts of the picture come after the clearing
    simp only [List.append_assoc]
    exact ⟨_, rfl⟩

/-- The cells of a picture do not depend on what was there before. -/
theorem foldl_strokes_rows (p : Painter) (l : Layout) (size : Size) (rows : List (List Cell)) :
    (p.strokes l).foldl (strokedRows size) rows
      = (p.strokes l).foldl (strokedRows size) (blankRows size) := by
  obtain ⟨rest, hrest⟩ := p.strokes_eq_clear l
  rw [hrest]
  rfl

variable (p : Painter) (m : Measures)

/-- **Painting carries out the strokes of the picture**, or is refused on the way. -/
theorem paint_cases (canvas : Canvas) :
    ((p.paint (Layout.of m canvas.size) canvas).outcome = .ok () ∧
      (p.paint (Layout.of m canvas.size) canvas).display.size = canvas.size ∧
      (p.paint (Layout.of m canvas.size) canvas).display.picture
        = (p.strokes (Layout.of m canvas.size)).foldl (stroked canvas.size) canvas.picture) ∨
    ∃ call, (p.paint (Layout.of m canvas.size) canvas).outcome = .error (.refused call) := by
  unfold paint
  obtain ⟨d, hd, hsize, hpicture⟩ | ⟨call, d, hd⟩ :=
    drawAll_cases (inRange_strokes p m canvas.size) canvas
  · rw [hd]
    dsimp only
    split
    · -- a display without cells is not flushed
      exact .inl ⟨rfl, hsize, hpicture⟩
    · -- the flush is carried out, and changes no cell, or it is refused
      obtain ⟨d', hd', hsize', hpicture'⟩ | ⟨call, d', hd'⟩ :=
        draw_cases (show Stroke.flush ≠ .beyond from nofun) d
      · rw [hd']
        exact .inl ⟨rfl, hsize'.trans hsize, hpicture'.trans hpicture⟩
      · rw [hd']
        exact .inr ⟨call, rfl⟩
  · -- one of the strokes is refused
    rw [hd]
    exact .inr ⟨call, rfl⟩

/-- A canvas that refuses nothing is painted to the end. -/
theorem outcome_paint_of_obliging {canvas : Canvas} (h : canvas.Obliging) :
    (p.paint (Layout.of m canvas.size) canvas).outcome = .ok () := by
  obtain ⟨d, hd, hobliging⟩ := h.drawAll (inRange_strokes p m canvas.size)
  unfold paint
  rw [hd]
  dsimp only
  split
  · rfl
  · -- the flush is not refused either
    obtain ⟨d', hd', -⟩ := hobliging.draw (show Stroke.flush ≠ .beyond from nofun)
    rw [hd']

end Painter

variable (m : Measures) (theme : Theme)

/-- **The canvas that a fresh painter has painted** on a blank display. -/
def painted (size : Size) : Canvas :=
  ((Painter.fresh m theme).paint (Layout.of m size) (Canvas.blank size)).display

theorem rows_painted (size : Size) :
    (painted m theme size).picture.rows
      = ((Painter.fresh m theme).strokes (Layout.of m size)).foldl (strokedRows size)
          (blankRows size) := by
  have hok := (Painter.fresh m theme).outcome_paint_of_obliging m (obliging_blank size)
  obtain ⟨-, -, hpicture⟩ | ⟨call, hrefused⟩ :=
    (Painter.fresh m theme).paint_cases m (Canvas.blank size)
  · exact (congrArg Picture.rows hpicture).trans (rows_foldl_stroked _ _ _)
  · -- a blank display refuses nothing
    cases hok.symm.trans hrefused

/-- **A canvas is framed**: around the viewport it has the cells of the picture. Without a grid it
has them in the viewport too. -/
structure Framed (grid : Option Grid) (canvas : Canvas) : Prop where
  shaped : Shaped canvas.size canvas.picture.rows
  cell_eq : ∀ r c, (∀ v, grid.isSome = true → (Layout.of m canvas.size).viewport = some v →
      ¬ v.Contains r c) →
    canvas.cell? r c = (painted m theme canvas.size).cell? r c

/-- **A canvas shows a grid**, or the mere picture if there is none. -/
structure Shows (grid : Option Grid) (canvas : Canvas) : Prop where
  /-- The cells in the viewport are those of the fitted rows. -/
  viewport_eq : ∀ g v, grid = some g → (Layout.of m canvas.size).viewport = some v →
    ∀ r c, v.Contains r c → canvas.cell? r c
      = (Row.fit (g.row (r - v.origin.row.toNat)) v.size.cols.toNat)[c - v.origin.col.toNat]?
  /-- All other cells are those that a fresh painter paints. -/
  around_eq : ∀ r c, (∀ v, grid.isSome = true → (Layout.of m canvas.size).viewport = some v →
      ¬ v.Contains r c) →
    canvas.cell? r c = (painted m theme canvas.size).cell? r c
  /-- The cursor is where the grid's cursor is shown, and as visible. -/
  cursor_eq : ∀ g v, grid = some g → (Layout.of m canvas.size).viewport = some v →
    canvas.picture.cursor.row.toNat
        = v.origin.row.toNat + min g.cursor.row.toNat (v.size.rows.toNat - 1) ∧
      canvas.picture.cursor.col.toNat
        = v.origin.col.toNat + min g.cursor.col.toNat (v.size.cols.toNat - 1) ∧
      canvas.picture.cursorVisible = g.cursorVisible

variable {m theme}

/-- Painting frames a canvas, whatever it showed before. -/
theorem framed_of_painted {p : Painter}
    (hp : p = { Painter.fresh m theme with degraded := p.degraded })
    {canvas after : Canvas} (hsize : after.size = canvas.size)
    (hpicture : after.picture
      = (p.strokes (Layout.of m canvas.size)).foldl (stroked canvas.size) canvas.picture)
    (grid : Option Grid) : Framed m theme grid after := by
  -- a picture begins with clearing, so its cells are those of a fresh one
  have hrows : after.picture.rows = (painted m theme after.size).picture.rows := by
    calc after.picture.rows
        = (p.strokes (Layout.of m canvas.size)).foldl (strokedRows canvas.size)
            canvas.picture.rows := by rw [hpicture, rows_foldl_stroked]
      _ = (p.strokes (Layout.of m canvas.size)).foldl (strokedRows canvas.size)
            (blankRows canvas.size) := by rw [Painter.foldl_strokes_rows]
      _ = (painted m theme after.size).picture.rows := by
        rw [rows_painted, hsize, hp, Painter.strokes_degraded]
  refine ⟨?_, ?_⟩
  · -- the shape and all cells are those of the fresh picture
    rw [hrows, rows_painted]
    exact (shaped_blankRows after.size).foldl _
  · intro r c _
    rw [cell?_eq_cellAt, hrows]
    rfl

/-- What is framed can be seen in the picture. -/
theorem Framed.of_same {grid : Option Grid} {canvas after : Canvas} (h : Framed m theme grid canvas)
    (hsize : after.size = canvas.size) (hpicture : after.picture = canvas.picture) :
    Framed m theme grid after := by
  refine ⟨?_, ?_⟩
  · -- size and picture are all that the shape and the cells depend on
    rw [hsize, hpicture]
    exact h.shaped
  · unfold cell?
    rw [hsize, hpicture]
    exact h.cell_eq

theorem Shows.of_same {grid : Option Grid} {canvas after : Canvas} (h : Shows m theme grid canvas)
    (hsize : after.size = canvas.size) (hpicture : after.picture = canvas.picture) :
    Shows m theme grid after := by
  refine ⟨?_, ?_, ?_⟩
  · unfold cell?
    rw [hsize, hpicture]
    exact h.viewport_eq
  · unfold cell?
    rw [hsize, hpicture]
    exact h.around_eq
  · rw [hsize, hpicture]
    exact h.cursor_eq

/-- What is framed depends on the grid only in whether there is one. -/
theorem Framed.of_isSome {grid grid' : Option Grid} {canvas : Canvas}
    (h : Framed m theme grid canvas) (heq : grid'.isSome = grid.isSome) :
    Framed m theme grid' canvas := by
  refine ⟨h.shaped, ?_⟩
  rw [heq]
  exact h.cell_eq

/-- **Showing the grid on a framed canvas** leaves it framed, and shows the grid. -/
theorem Framed.shows {grid : Option Grid} {canvas after : Canvas} (h : Framed m theme grid canvas)
    (hsize : after.size = canvas.size)
    (hpicture : after.picture = (Grid.showing grid (Layout.of m canvas.size).viewport).foldl
      (stroked canvas.size) canvas.picture) :
    Framed m theme grid after ∧ Shows m theme grid after := by
  have hcell : ∀ r c, after.cell? r c
      = cellAt ((Grid.showing grid (Layout.of m canvas.size).viewport).foldl
          (strokedRows canvas.size) canvas.picture.rows) r c := by
    intro r c
    rw [cell?_eq_cellAt, hpicture, rows_foldl_stroked]
  -- around the viewport nothing has changed
  have haround : ∀ r c, (∀ v, grid.isSome = true → (Layout.of m canvas.size).viewport = some v →
      ¬ v.Contains r c) → after.cell? r c = (painted m theme canvas.size).cell? r c := by
    intro r c hout
    rw [← h.cell_eq r c hout, hcell, Grid.cellAt_showing grid h.shaped]
    cases grid with
    | none => rfl
    | some g =>
      cases hv : (Layout.of m canvas.size).viewport with
      | none => rfl
      | some v => exact if_neg (hout v rfl hv)
  -- the canvas keeps its size, so the layout is the same before and after
  refine ⟨⟨?_, ?_⟩, ?_, ?_, ?_⟩
  · rw [hsize, hpicture, rows_foldl_stroked]
    exact h.shaped.foldl _
  · rw [hsize]
    exact haround
  · intro g v hg hv r c hin
    rw [hsize] at hv
    rw [hcell, Grid.cellAt_showing grid h.shaped, hg, hv]
    exact if_pos hin
  · rw [hsize]
    exact haround
  · intro g v hg hv
    rw [hsize] at hv
    rw [hpicture, hg, hv]
    exact Grid.cursor_showing g hv canvas.picture

end FramedShell
