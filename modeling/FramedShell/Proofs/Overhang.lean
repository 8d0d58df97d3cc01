import FramedShell.Proofs.Painting

/-!
# What a painted picture draws outside the display

Every part of the picture but one stays inside the display, because of where its layout puts it or
because its text is cut there. The exception is the title. It is cut by columns, and a control
character or a combining mark counts as no column; but it is drawn in a cell of its own. So a title
with more of these *marks* than columns to spare is drawn beyond the right edge, by exactly as many
cells (`Scene.overhang`).

## Main definitions

* `Text.marks` — the characters of a text that take a cell and no column;
* `Scene.overhang` — the cells of the title beyond the right edge.

## Main result

* `outside_painted` — painting draws as many cells outside the display as the title overhangs it.
-/

namespace FramedShell

open Canvas

namespace Text

/-- **The marks of a text**: its control characters and the characters of width zero. -/
def marks : List Char → Nat
  | [] => 0
  | c :: rest => (if (charWidth c).getD 0 = 0 then 1 else 0) + marks rest

theorem marks_take_le (text : List Char) (n : Nat) : marks (text.take n) ≤ marks text := by
  -- each character that is kept is counted in both
  induction text generalizing n with
  | nil => rw [List.take_nil]
  | cons c rest ih =>
    cases n with
    | zero => exact Nat.zero_le _
    | succ n => exact Nat.add_le_add_left (ih n) _

/-- What is kept of a text takes no more columns than there are. -/
theorem columns_fitting_le (text : List Char) (room : Nat) : columns (fitting text room) ≤ room := by
  have hprefix := Painter.prefix_takeColumns text room
  rw [← Painter.takeColumns_eq_fitting, List.prefix_iff_eq_take.1 hprefix]
  exact (Painter.columns_take_le_iff text hprefix.length_le).2 (Nat.le_refl _)

end Text

/-- **A text is drawn in as many cells as it has columns and marks.** -/
theorem Cell.length_ofText (text : List Char) (style : Style) :
    (Cell.ofText text style).length = Text.columns text + Text.marks text := by
  induction text with
  | nil => rfl
  | cons c rest ih =>
    have hchar : (Cell.ofChar style c).length
        = (Text.charWidth c).getD 0 + if (Text.charWidth c).getD 0 = 0 then 1 else 0 := by
      unfold Cell.ofChar
      -- a control character is drawn in one cell and has no column
      cases hwidth : Text.charWidth c with
      | none => rfl
      | some width =>
        have hle := Text.charWidth_le_two hwidth
        -- a character takes no column, one or two
        obtain rfl | rfl | rfl : width = 0 ∨ width = 1 ∨ width = 2 := by omega
        · rfl
        · rfl
        · rfl
    unfold Cell.ofText at ih ⊢
    rw [List.flatMap_cons, List.length_append, hchar, ih, Text.columns, Text.marks]
    omega

/-- **How far the title overhangs the display**: the cells of what is kept of it, less the columns
that it may take. -/
def Scene.overhang (theme : Theme) (l : Layout) : Nat :=
  if l.banner.size.rows ≠ 0 ∧ 2 < l.display.cols.toNat then
    let room := l.display.cols.toNat - 2
    let kept := Text.fitting theme.title.toList room
    Text.columns kept + Text.marks kept - room
  else 0

/-- A title without marks does not overhang. -/
theorem Scene.overhang_of_unmarked {theme : Theme} (h : Text.marks theme.title.toList = 0)
    (l : Layout) : overhang theme l = 0 := by
  unfold overhang
  split
  · -- all that is kept are columns, and these fit
    have hcolumns := Text.columns_fitting_le theme.title.toList (l.display.cols.toNat - 2)
    have hmarks : Text.marks (Text.fitting theme.title.toList (l.display.cols.toNat - 2))
        ≤ Text.marks theme.title.toList := Text.marks_take_le _ _
    dsimp only
    omega
  · -- on such a display there is no title
    rfl

/-! ### Strokes inside the display -/

section

variable {size : Size} {row col : Nat}

theorem outsideOf_cells (hr : row < size.rows.toNat) (hc : col < Coord.count) (cells : List Cell) :
    outsideOf size (Stroke.cells row col cells) = cells.length - (size.cols.toNat - col) := by
  have hcount := Coord.toNat_lt_count size.rows
  -- the stroke is at a place, so that only its cells past the right edge are outside
  rw [Stroke.cells_eq (by omega) hc]
  change cellsOutside size _ cells.length = _
  unfold cellsOutside
  rw [Coord.toNat_ofNat_of_lt hc, if_pos]
  rw [UInt16.lt_iff_toNat_lt, Coord.toNat_ofNat_of_lt (by omega)]
  exact hr

theorem inside_cells {cells : List Cell} (hr : row < size.rows.toNat)
    (hc : col + cells.length ≤ size.cols.toNat) : Inside size [Stroke.cells row col cells] := by
  have hcount := Coord.toNat_lt_count size.cols
  refine inside_singleton ?_
  rw [outsideOf_cells hr (by omega)]
  omega

/-- A text of characters that are not wide, in columns of the display. -/
theorem inside_text {text : List Char} (htext : ∀ ch ∈ text, Text.charWidth ch = some 1)
    (style : Style) (hr : row < size.rows.toNat) (hc : col + text.length ≤ size.cols.toNat) :
    Inside size [Stroke.text row col text style] := by
  refine inside_cells hr ?_
  rw [Cell.ofText_of_narrow htext, List.length_map]
  exact hc

theorem inside_rows {first last : Nat} {stroke : Nat → List Stroke} (hfirst : first < Coord.count)
    (h : ∀ row, first ≤ row → row < last → Inside size (stroke row)) :
    Inside size (Stroke.rows first last stroke) := by
  intro s hs
  obtain ⟨row, hle, hlt, hstroke⟩ := Stroke.exists_row_of_mem hfirst hs
  exact h row hle hlt s hstroke

end

/-! ### The parts of the picture -/

namespace Painter

variable {p : Painter} {m : Measures} {display : Size}

theorem inside_bands : Inside display (p.bands display) := by
  refine inside_rows (by decide) ?_
  intro row _ hrow
  refine inside_cells hrow ?_
  rw [Cell.fill, List.length_replicate, Nat.zero_add]

/-- A text of characters that are not wide is cut at the right edge. -/
theorem inside_clipped {text : List Char} (htext : ∀ ch ∈ text, Text.charWidth ch = some 1)
    (row col : Nat) (style : Style) : Inside display (clipped display row col text style) := by
  unfold clipped
  split
  · -- a place outside of the display gets no text
    exact inside_nil
  · -- one column for each character, and no more characters than columns
    rw [takeColumns_of_narrow htext]
    refine inside_text (fun ch hch => htext ch (List.mem_of_mem_take hch)) style (by omega) ?_
    rw [List.length_take]
    omega

/-- One glyph of the frame or of its shadow. -/
theorem inside_glyph {row col : Nat} {ch : Char}
    (hch : ch ∈ ['┌', '┐', '└', '┘', '─', '│', '▀', '▒']) (style : Style)
    (hr : row < display.rows.toNat) (hc : col < display.cols.toNat) :
    Inside display [Stroke.text row col [ch] style] := by
  refine inside_text ?_ style hr hc
  intro other hother
  rw [List.mem_singleton.1 hother]
  exact charWidth_of_mem_frame ch hch

section

variable {frame viewport : Rect} (h : Layout.Placed display frame viewport)

include h

theorem inside_border : Inside display (p.border frame) := by
  have hbottom := h.toNat_bottom
  have hright := h.toNat_right
  have hends := h.ends_pos
  obtain ⟨h₁, h₂, h₃, h₄, h₅, h₆, h₇, h₈⟩ := h
  have hedge : ∀ row left right, row < display.rows.toNat →
      left ∈ ['┌', '┐', '└', '┘', '─', '│', '▀', '▒'] →
      right ∈ ['┌', '┐', '└', '┘', '─', '│', '▀', '▒'] →
      Inside display [Stroke.text row frame.origin.col.toNat
        (edge left right (frame.size.cols.toNat - 2)) p.borderStyle] := by
    intro row left right hrow hl hr
    refine inside_text (charWidth_of_mem_edge hl hr _) _ hrow ?_
    -- the corners are the two columns besides the inner ones
    simp only [edge, List.length_append, List.length_singleton, List.length_replicate]
    omega
  unfold border
  rw [if_neg hends]
  -- the upper edge, the two sides row by row, and the lower edge
  refine inside_append (inside_append ?_ ?_) ?_
  · exact hedge _ _ _ (by omega) (by decide) (by decide)
  · have hcount := Coord.toNat_lt_count display.rows
    refine inside_rows (by omega) ?_
    intro row _ hrow
    exact inside_append (inside_glyph (by decide) _ (by omega) (by omega))
      (inside_glyph (by decide) _ (by omega) (by omega))
  · exact hedge _ _ _ (by omega) (by decide) (by decide)

/-- The shadow is drawn where there is room for it. -/
theorem inside_shadow {l : Layout} (hdisplay : l.display = display)
    (hshadow : hasShadow l frame = true) : Inside display (p.shadow frame) := by
  have hspace := (hasShadow_iff h hdisplay).1 hshadow
  have hbottom := h.toNat_bottom
  have hright := h.toNat_right
  have hcount := Coord.toNat_lt_count display.rows
  obtain ⟨h₁, h₂, h₃, h₄, h₅, h₆, h₇, h₈⟩ := h
  refine inside_append ?_ ?_
  · -- the lower edge of the shadow is as long as the frame without its corners
    refine inside_text ?_ _ (by omega) ?_
    · intro ch hch
      rw [List.eq_of_mem_replicate hch]
      exact charWidth_of_mem_frame _ (by decide)
    · rw [List.length_replicate]
      omega
  · -- its right edge is one column, from the second row of the frame on
    refine inside_rows (by omega) ?_
    intro row _ hrow
    exact inside_glyph (by decide) _ (by omega) (by omega)

theorem inside_blank {l : Layout} (hl : l.viewport = some viewport) :
    Inside display (inside l) := by
  obtain ⟨h₁, h₂, h₃, h₄, h₅, h₆, h₇, h₈⟩ := h
  unfold inside
  rw [hl]
  refine inside_rows (by decide) ?_
  intro row _ hrow
  refine inside_cells (by omega) ?_
  rw [Cell.fill, List.length_replicate]
  omega

end

theorem inside_frame : Inside display (p.frame (Layout.of m display)) := by
  unfold Painter.frame
  obtain ⟨frame, viewport, hf, -, hplaced⟩ | ⟨hf, -⟩ := Layout.placed_of m display
  · -- a display with room has a frame, and perhaps its shadow
    rw [hf]
    dsimp only
    refine inside_append (inside_border hplaced) ?_
    split
    · rename_i hshadow
      exact inside_shadow hplaced Layout.display_of hshadow
    · exact inside_nil
  · -- without room there is nothing to draw
    rw [hf]
    exact inside_nil

theorem inside_viewport : Inside display (inside (Layout.of m display)) := by
  obtain ⟨frame, viewport, -, hv, hplaced⟩ | ⟨-, hv⟩ := Layout.placed_of m display
  · exact inside_blank hplaced hv
  · unfold inside
    rw [hv]
    exact inside_nil

theorem inside_barRow {row : Nat} {line : List Char}
    (hline : line ∈ [barTop, barBottom, advisory]) (hrow : row < display.rows.toNat) :
    Inside display (p.barRow (Layout.of m display) row line) := by
  unfold barRow
  rw [Layout.display_of, Layout.controlBar_of]
  change Inside display ([_] ++ _)
  -- the ground of the row is as wide as the display, and the line is cut to it
  refine inside_append (inside_cells hrow ?_)
    (inside_clipped (charWidth_of_mem_line line hline) _ _ _)
  rw [Cell.fill, List.length_replicate, Nat.zero_add]
  exact Nat.le_refl _

theorem inside_controlBar : Inside display (p.controlBar (Layout.of m display)) := by
  have hrows : (Layout.barRect display).size.rows.toNat = min 2 display.rows.toNat :=
    Layout.toNat_barRows
  have htop : (Layout.barRect display).origin.row.toNat
      = display.rows.toNat - min 2 display.rows.toNat := by
    rw [Layout.barRect, Rect.of, Coord.toNat_minus, Layout.toNat_barRows]
  have hupper : barTop ∈ [barTop, barBottom, advisory] := by simp
  have hlower : barBottom ∈ [barTop, barBottom, advisory] := by simp
  unfold controlBar
  rw [Layout.controlBar_of, htop, hrows]
  -- the bar has as many rows as the display, up to two
  obtain hzero | hone | htwo :
      display.rows.toNat = 0 ∨ display.rows.toNat = 1 ∨ 2 ≤ display.rows.toNat := by omega
  · rw [hzero]
    exact inside_nil
  · rw [hone]
    exact inside_barRow hlower (by omega)
  · rw [Nat.min_eq_left htwo]
    exact inside_append (inside_barRow hupper (by omega)) (inside_barRow hlower (by omega))

theorem inside_tooSmall : Inside display (tooSmall (Layout.of m display)) := by
  unfold tooSmall
  split
  · rw [Layout.display_of]
    exact inside_clipped (charWidth_of_mem_line advisory (by simp)) _ _ _
  · exact inside_nil

/-- **The title** draws as many cells outside the display as it overhangs it. -/
theorem sum_outsideOf_title :
    ((p.title (Layout.of m display)).map (outsideOf display)).sum
      = Scene.overhang p.theme (Layout.of m display) := by
  have hbanner : (Layout.of m display).banner.size.rows.toNat
      = min m.bannerHeight.toNat display.rows.toNat := by
    rw [Layout.banner_of]
    exact Layout.toNat_bannerRows
  have hzero : (Layout.of m display).banner.size.rows = 0 ↔
      (Layout.of m display).banner.size.rows.toNat = 0 := by
    rw [← UInt16.toNat_inj]
    rfl
  have hcols : (Layout.of m display).banner.size.cols = display.cols := by
    rw [Layout.banner_of]
    rfl
  unfold title Scene.overhang
  rw [Layout.display_of]
  split
  · rename_i hnone
    rw [Bool.or_eq_true, Rect.isEmpty, Size.isEmpty, Bool.or_eq_true, beq_iff_eq, beq_iff_eq,
      String.isEmpty_iff] at hnone
    -- the title is missing as the banner has no rows, no columns, or nothing is to be written
    obtain (hrows | hnarrow) | hempty := hnone
    · rw [if_neg fun h => h.1 hrows]
      rfl
    · rw [if_neg]
      · rfl
      · rintro ⟨-, hwide⟩
        rw [← hcols, hnarrow] at hwide
        exact absurd hwide (by decide)
    · -- a title without characters does not overhang
      rw [hempty]
      split
      · exact (Nat.zero_sub _).symm
      · rfl
  · rename_i hsome
    rw [Bool.or_eq_true, Rect.isEmpty, Size.isEmpty, Bool.or_eq_true, beq_iff_eq, beq_iff_eq,
      not_or, not_or, hzero] at hsome
    -- the middle row of a banner with rows is a row of the display
    have hrow : (Layout.of m display).banner.size.rows.toNat / 2 < display.rows.toNat := by omega
    unfold clipped
    by_cases hwide : 2 < display.cols.toNat
    · -- one stroke from the third column on, of as many cells as there are columns and marks in it
      rw [if_neg (by omega), if_pos ⟨fun h => hsome.1.1 (hzero.1 h), hwide⟩, List.map_singleton,
        List.sum_singleton, Stroke.text, outsideOf_cells hrow (by decide), Cell.length_ofText,
        takeColumns_eq_fitting]
    · -- the display ends before the third column
      rw [if_pos (by omega), if_neg fun h => hwide h.2]
      rfl

/-- **What a picture draws outside the display** is what its title does. -/
theorem sum_outsideOf_strokes :
    ((p.strokes (Layout.of m display)).map (outsideOf display)).sum
      = Scene.overhang p.theme (Layout.of m display) := by
  unfold strokes
  rw [Layout.display_of]
  split
  · -- a display without cells is cleared only, and has no room for a title
    rename_i hempty
    unfold Scene.overhang
    rw [if_neg]
    · rfl
    · rw [Layout.display_of, Layout.banner_of]
      rintro ⟨hrows, hcols⟩
      unfold Size.isEmpty at hempty
      rw [Bool.or_eq_true, beq_iff_eq, beq_iff_eq] at hempty
      obtain hnone | hnone := hempty
      · refine hrows ?_
        rw [← UInt16.toNat_inj]
        change (Layout.bannerRows m display).toNat = 0
        rw [Layout.toNat_bannerRows, hnone]
        exact Nat.min_zero _
      · rw [hnone] at hcols
        exact absurd hcols (by decide)
  · -- of the seven parts only the title may have cells outside
    simp only [List.map_append, List.sum_append]
    rw [sum_outsideOf_title, inside_bands.sum_eq_zero, inside_frame.sum_eq_zero,
      inside_viewport.sum_eq_zero, inside_controlBar.sum_eq_zero, inside_tooSmall.sum_eq_zero]
    change 0 + 0 + Scene.overhang p.theme (Layout.of m display) + 0 + 0 + 0 + 0 = _
    omega

/-- The flush at the end of a picture shows nothing more. -/
theorem picture_paint (l : Layout) (canvas : Canvas) :
    (p.paint l canvas).display.picture = (Display.drawAll (p.strokes l) canvas).2.picture := by
  unfold paint
  cases Display.drawAll (p.strokes l) canvas with
  | mk outcome drawn =>
    cases outcome with
    -- a stroke was refused, and there is no flush
    | error fault => rfl
    | ok =>
      dsimp only
      split
      · -- a display without cells is not flushed
        rfl
      · cases hflush : Display.draw .flush drawn with
        | mk outcome flushed =>
          cases outcome with
          | error fault => exact (draw_of_error hflush).2
          | ok => exact (draw_of_ok hflush).2

end Painter

/-- **Painting draws outside the display what the title overhangs it by**, and nothing else: the other
parts of the picture lie within the display, whatever the measures and the theme. No coordinate is
out of range. A title of characters that all take a column stays inside. -/
theorem outside_painted (p : Painter) (m : Measures) (canvas : Canvas) :
    let l := Layout.of m canvas.size
    let after := p.paint l canvas
    after.outcome ≠ .error .overflow ∧
      canvas.picture.outside ≤ after.display.picture.outside ∧
      after.display.picture.outside ≤ canvas.picture.outside + Scene.overhang p.theme l ∧
      (after.outcome = .ok () →
        after.display.picture.outside = canvas.picture.outside + Scene.overhang p.theme l) ∧
      (Text.marks p.theme.title.toList = 0 →
        after.display.picture.outside = canvas.picture.outside) := by
  intro l after
  have hdrawn := outside_drawAll (p.strokes l) canvas
  rw [Painter.sum_outsideOf_strokes, ← Painter.picture_paint l canvas] at hdrawn
  refine ⟨?_, hdrawn.1, hdrawn.2.1, ?_, ?_⟩
  · -- painting goes through or is refused by the display, and neither is an overflow
    obtain ⟨hok, -⟩ | ⟨call, hrefused⟩ := p.paint_cases m canvas
    · rw [hok]
      nofun
    · rw [hrefused]
      nofun
  · -- all strokes were drawn, so that the bound is reached
    intro hok
    obtain ⟨-, -, hpicture⟩ | ⟨call, hrefused⟩ := p.paint_cases m canvas
    · rw [hpicture, outside_foldl_stroked, Painter.sum_outsideOf_strokes]
    · cases hok.symm.trans hrefused
  · intro hunmarked
    have hle := hdrawn.2.1
    rw [Scene.overhang_of_unmarked hunmarked, Nat.add_zero] at hle
    exact Nat.le_antisymm hle hdrawn.1

/-- The customary title stays inside a display of the customary size. -/
theorem outside_painted_customary :
    ((Painter.fresh {} {}).paint (Layout.of {} (Canvas.blank ⟨24, 80⟩).size)
      (Canvas.blank ⟨24, 80⟩)).display.picture.outside = 0 := by
  have hmarks : Text.marks (Painter.fresh {} {}).theme.title.toList = 0 := by decide +kernel
  have hpainted :=
    (outside_painted (Painter.fresh {} {}) {} (Canvas.blank ⟨24, 80⟩)).2.2.2.2 hmarks
  rw [hpainted]
  rfl

/-- **A title with marks is drawn beyond the right edge**: of two letters with a mark each, one mark
is, where there is room for three columns. -/
theorem outside_painted_marked :
    ((Painter.fresh {} { title := "te\u0301te\u0301" }).paint (Layout.of {} ⟨4, 5⟩)
      (Canvas.blank ⟨4, 5⟩)).display.picture.outside = 1 := by
  decide +kernel

end FramedShell
