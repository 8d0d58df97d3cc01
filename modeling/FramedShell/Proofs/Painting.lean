import FramedShell.Proofs.Layers
import FramedShell.Proofs.Picture

/-!
# What the painted picture shows

The picture around the viewport, cell by cell. `pictured` says it without any stroke: at every cell
of the display the first part that covers it is seen, from the advisory of a display that is too
small down to the color of the row. Painting draws the parts in the opposite order, each over those
before it, so the layer of the whole is the layers of the parts one above the other.

## Main definitions

* `Scene.advisory`, `Scene.bar`, `Scene.inside`, `Scene.border`, `Scene.shadow`, `Scene.title` — what
  each part of the picture shows, and where;
* `pictured` — what the picture shows at a cell.

## Main results

* `paints_strokes` — the strokes of the picture paint these parts above each other;
* `picture_painted` — every cell of a painted display is the pictured one, whatever was there before.
-/

namespace FramedShell

open Canvas

/-! ### The parts of the picture -/

/-- A cell on the outermost rows and columns of a rectangle. -/
def Rect.OnEdge (rect : Rect) (r c : Nat) : Prop :=
  rect.Contains r c ∧
    (r = rect.origin.row.toNat ∨ r + 1 = rect.origin.row.toNat + rect.size.rows.toNat ∨
      c = rect.origin.col.toNat ∨ c + 1 = rect.origin.col.toNat + rect.size.cols.toNat)

instance (rect : Rect) (r c : Nat) : Decidable (rect.OnEdge r c) :=
  inferInstanceAs (Decidable (_ ∧ _))

/-- The glyph of a border at a cell on the edge: corners, horizontal lines, and vertical ones. -/
def Rect.glyph (rect : Rect) (r c : Nat) : Char :=
  let isLeft := c = rect.origin.col.toNat
  let isRight := c + 1 = rect.origin.col.toNat + rect.size.cols.toNat
  if r = rect.origin.row.toNat then if isLeft then '┌' else if isRight then '┐' else '─'
  else if r + 1 = rect.origin.row.toNat + rect.size.rows.toNat then
    if isLeft then '└' else if isRight then '┘' else '─'
  else '│'

namespace Scene

/-- The color of a row that nothing else covers. The heights are added up without a limit. -/
def rowColor (m : Measures) (theme : Theme) (r : Nat) : Color :=
  if r < m.bannerHeight.toNat then theme.banner.color
  else if r < m.bannerHeight.toNat + m.frameHeight.toNat then theme.band.color
  else theme.background.color

/-- **The advisory** in the first row of a display without room for the frame. -/
def advisory (l : Layout) : Layer := fun r c =>
  if l.viewport = none ∧ r = 0 then ("Too small".toList[c]?).map fun ch => .drawn [ch] .plain
  else none

/-- The line of the control bar in a row. The last row of the display has the lower one. -/
def barLine (display : Size) (r : Nat) : List Char :=
  if r + 1 = display.rows.toNat then Painter.barBottom else Painter.barTop

/-- **The control bar**: its lines on spaces. -/
def bar (theme : Theme) (l : Layout) : Layer := fun r c =>
  if l.controlBar.Contains r c then
    some (.drawn [(barLine l.display r)[c]?.getD ' ']
      (.colored theme.barForeground.color theme.barBackground.color))
  else none

/-- **The inside of the frame** is blank. -/
def inside (l : Layout) : Layer := fun r c =>
  if ∃ v ∈ l.viewport, v.Contains r c then some .blank else none

/-- **The border of the frame.** -/
def border (theme : Theme) (l : Layout) : Layer := fun r c =>
  l.frame.bind fun frame =>
    if frame.OnEdge r c then
      some (.drawn [frame.glyph r c] (.colored theme.border.color theme.band.color))
    else none

/-- **The shadow of the frame**, where there is room below it and right of it: half blocks in the row
below, from one column right of its left edge on, and shades in the column right of it, from one row
below its upper edge on. -/
def shadow (m : Measures) (theme : Theme) (l : Layout) : Layer := fun r c =>
  l.frame.bind fun frame =>
    let bottom := frame.origin.row.toNat + frame.size.rows.toNat
    let right := frame.origin.col.toNat + frame.size.cols.toNat
    let style := Style.colored theme.shadow.color (rowColor m theme r)
    if bottom < l.display.rows.toNat - 2 ∧ right < l.display.cols.toNat then
      if r = bottom ∧ frame.origin.col.toNat + 1 ≤ c ∧ c + 1 < right then some (.drawn ['▀'] style)
      else if c = right ∧ frame.origin.row.toNat + 1 ≤ r ∧ r < bottom then some (.drawn ['▒'] style)
      else none
    else none

/-- **The title**, from the third column of the middle row of the banner on: the longest beginning of
it that fits the display. -/
def title (theme : Theme) (l : Layout) : Layer := fun r c =>
  if l.banner.size.rows ≠ 0 ∧ r = l.banner.size.rows.toNat / 2 ∧ 2 ≤ c then
    (Cell.ofText (Text.fitting theme.title.toList (l.display.cols.toNat - 2))
      ⟨theme.border.color, theme.banner.color, ⟨true, false, false, false⟩⟩)[c - 2]?
  else none

end Scene

/-- **What the picture shows at a cell**: the first of its parts that covers it, else the color of the
row. -/
def pictured (m : Measures) (theme : Theme) (display : Size) (r c : Nat) : Cell :=
  let l := Layout.of m display
  ((Scene.advisory l).above <| (Scene.bar theme l).above <| (Scene.inside l).above <|
      (Scene.border theme l).above <| (Scene.shadow m theme l).above (Scene.title theme l)) r c
    |>.getD (.space (.colored .default (Scene.rowColor m theme r)))

/-! ### What the strokes of each part paint -/

namespace Painter

variable {m : Measures} {theme : Theme} {display : Size}

theorem rowColor_fresh {r : Nat} (hr : r < 65535) :
    (fresh m theme).rowColor r = Scene.rowColor m theme r := by
  -- the program stops the sum at the largest coordinate, beyond which there is no row
  have hsum : r < (m.bannerHeight.plus m.frameHeight).toNat
      ↔ r < m.bannerHeight.toNat + m.frameHeight.toNat := by
    rw [Coord.toNat_plus]
    omega
  unfold rowColor Scene.rowColor
  simp only [fresh, hsum]

theorem getElem?_fill (style : Style) (cols c : Nat) :
    (Cell.fill style cols)[c]? = if c < cols then some (.space style) else none :=
  List.getElem?_replicate

/-- Spaces in the columns of a row. -/
theorem paints_fill {row col : Nat} (hr : row < Coord.count) (hc : col < Coord.count)
    (style : Style) (cols : Nat) :
    Paints display [Stroke.cells row col (Cell.fill style cols)] fun r c =>
      if r = row then if col ≤ c ∧ c < col + cols then some (.space style) else none else none := by
  refine (paints_cells hr hc _).congr fun r c _ => ?_
  rw [getElem?_fill]
  by_cases hin : r = row ∧ col ≤ c
  · rw [if_pos hin, if_pos hin.1]
    -- a column at or after the first, before or after the last space
    by_cases hend : c < col + cols
    · rw [if_pos (by omega), if_pos ⟨hin.2, hend⟩]
    · rw [if_neg (by omega), if_neg (by omega)]
  · -- another row, or a column before the first
    rw [if_neg hin]
    by_cases hrow : r = row
    · rw [if_pos hrow, if_neg (by omega)]
    · rw [if_neg hrow]

/-- **The rows in their colors** cover the display. -/
theorem paints_bands : Paints display ((fresh m theme).bands display) fun r _ =>
    some (.space (.colored .default (Scene.rowColor m theme r))) := by
  have hr := Coord.toNat_le display.rows
  -- each row is one stroke, over the whole width of the display
  have hband : ∀ row, 0 ≤ row → row < display.rows.toNat →
      Paints display [Stroke.cells row 0
          (Cell.fill (.colored .default ((fresh m theme).rowColor row)) display.cols.toNat)]
        fun r _ => if r = row then some (.space (.colored .default (Scene.rowColor m theme r)))
          else none := by
    intro row _ hrow
    refine (paints_fill (by unfold Coord.count; omega) (by decide) _ _).congr fun r c hin => ?_
    have hc : c < display.cols.toNat := hin.2
    by_cases heq : r = row
    · subst heq
      rw [if_pos rfl, if_pos rfl, if_pos (by omega), rowColor_fresh (by omega)]
    · rw [if_neg heq, if_neg heq]
  -- the rows together are the display
  exact (paints_rows (by decide) hband).congr fun r c hin => if_pos ⟨Nat.zero_le r, hin.1⟩

theorem paints_title :
    Paints display ((fresh m theme).title (Layout.of m display))
      (Scene.title theme (Layout.of m display)) := by
  unfold title Scene.title
  rw [Layout.display_of, Layout.banner_of]
  split
  · -- without a banner or a title there is nothing to show
    rename_i hnone
    refine paints_nil.congr fun r c hin => ?_
    -- a display with cells has columns, so only the rows of the banner can be missing
    have hcols : display.cols ≠ 0 := by
      intro hzero
      have hc := hin.2
      rw [hzero] at hc
      exact absurd hc (Nat.not_lt_zero c)
    rw [Bool.or_eq_true] at hnone
    obtain hbanner | htitle := hnone
    · have hrows : Layout.bannerRows m display = 0 := by
        simpa [Layout.bannerRect, Rect.of, Rect.isEmpty, Size.isEmpty, hcols] using hbanner
      -- there is no banner
      rw [if_neg fun h => h.1 hrows]
    · -- there is no title
      have hempty : theme.title = "" := String.isEmpty_iff.1 htitle
      rw [hempty]
      exact (ite_self _).symm
  · -- there are both, and the title is cut where the display ends
    rename_i hsome
    refine (paints_clipped _ _ _ _).congr fun r c _ => ?_
    have hrows : Layout.bannerRows m display ≠ 0 := by
      intro hzero
      refine hsome ?_
      rw [Bool.or_eq_true]
      left
      simp [Layout.bannerRect, Rect.of, Rect.isEmpty, Size.isEmpty, hzero]
    simp only [Layout.bannerRect, Rect.of, ne_eq, hrows, not_false_eq_true, true_and]
    rfl

/-! #### The frame -/

/-- The glyphs of border and shadow take one column each. -/
theorem charWidth_of_mem_frame :
    ∀ ch ∈ ['┌', '┐', '└', '┘', '─', '│', '▀', '▒'], Text.charWidth ch = some 1 := by
  have hall : ['┌', '┐', '└', '┘', '─', '│', '▀', '▒'].all
      (fun ch => decide (Text.charWidth ch = some 1)) = true := by decide +kernel
  exact fun ch hch => of_decide_eq_true (List.all_eq_true.1 hall ch hch)

/-- One glyph of the frame. -/
theorem paints_glyph {row col : Nat} (hr : row < Coord.count) (hc : col < Coord.count) {ch : Char}
    (hch : ch ∈ ['┌', '┐', '└', '┘', '─', '│', '▀', '▒']) (style : Style) :
    Paints display [Stroke.text row col [ch] style] fun r c =>
      if r = row then if c = col then some (.drawn [ch] style) else none else none := by
  refine (paints_text hr hc ?_ style).congr fun r c _ => ?_
  · intro other hmem
    rw [List.mem_singleton.1 hmem]
    exact charWidth_of_mem_frame ch hch
  · unfold textLayer
    by_cases hrow : r = row
    · rw [if_pos hrow]
      by_cases hcol : c = col
      · rw [if_pos ⟨hrow, by omega⟩, if_pos hcol, hcol, Nat.sub_self]
        rfl
      · rw [if_neg hcol]
        -- the text has one character, so nothing is shown in the columns after it
        split
        · rw [List.getElem?_eq_none]
          · rfl
          · rw [List.length_singleton]
            omega
        · rfl
    · rw [if_neg fun h => hrow h.1, if_neg hrow]

theorem getElem?_edge (left right : Char) (inner c : Nat) :
    (edge left right inner)[c]?
      = if c < inner + 2 then
          some (if c = 0 then left else if c = inner + 1 then right else '─')
        else none := by
  unfold edge
  -- the left corner, the line, and the right corner
  cases c with
  | zero => rfl
  | succ c =>
    rw [List.append_assoc, List.singleton_append, List.getElem?_cons_succ, List.getElem?_append,
      List.length_replicate, if_neg (Nat.succ_ne_zero c)]
    by_cases hinner : c < inner
    · rw [if_pos hinner, List.getElem?_replicate, if_pos hinner, if_pos (by omega),
        if_neg (by omega)]
    · rw [if_neg hinner]
      -- the corner stands right after the line
      by_cases hlast : c = inner
      · subst hlast
        rw [Nat.sub_self, if_pos (by omega), if_pos rfl]
        rfl
      · rw [if_neg (by omega), List.getElem?_eq_none]
        rw [List.length_singleton]
        omega

/-- The characters of a horizontal edge take one column each. -/
theorem charWidth_of_mem_edge {left right : Char} (hl : left ∈ ['┌', '┐', '└', '┘', '─', '│', '▀', '▒'])
    (hright : right ∈ ['┌', '┐', '└', '┘', '─', '│', '▀', '▒']) (inner : Nat) :
    ∀ ch ∈ edge left right inner, Text.charWidth ch = some 1 := by
  intro ch hmem
  refine charWidth_of_mem_frame ch ?_
  unfold edge at hmem
  rw [List.mem_append, List.mem_append, List.mem_singleton, List.mem_singleton] at hmem
  obtain (rfl | hmem) | rfl := hmem
  · exact hl
  · rw [List.eq_of_mem_replicate hmem]
    decide
  · exact hright

/-- A horizontal edge of the frame. -/
theorem paints_edge {row col : Nat} (hr : row < Coord.count) (hc : col < Coord.count)
    {left right : Char} (hl : left ∈ ['┌', '┐', '└', '┘', '─', '│', '▀', '▒'])
    (hright : right ∈ ['┌', '┐', '└', '┘', '─', '│', '▀', '▒']) (inner : Nat) (style : Style) :
    Paints display [Stroke.text row col (edge left right inner) style] fun r c =>
      if r = row ∧ col ≤ c ∧ c < col + inner + 2 then
        some (.drawn [if c = col then left else if c = col + inner + 1 then right else '─'] style)
      else none := by
  refine (paints_text hr hc (charWidth_of_mem_edge hl hright inner) style).congr fun r c _ => ?_
  unfold textLayer
  rw [getElem?_edge]
  -- a column of the edge, read from its first one on
  by_cases hin : r = row ∧ col ≤ c ∧ c < col + inner + 2
  · rw [if_pos hin, if_pos ⟨hin.1, hin.2.1⟩, if_pos (by omega), Option.map_some]
    have hfirst : c - col = 0 ↔ c = col := by omega
    have hlast : c - col = inner + 1 ↔ c = col + inner + 1 := by omega
    simp only [hfirst, hlast]
  · rw [if_neg hin]
    -- a column before the edge or after it
    split
    · rw [if_neg (by omega)]
      rfl
    · rfl

/-- The part of the shadow below the frame. -/
theorem paints_below {row col : Nat} (hr : row < Coord.count) (hc : col < Coord.count)
    (count : Nat) (style : Style) :
    Paints display [Stroke.text row col (List.replicate count '▀') style] fun r c =>
      if r = row ∧ col ≤ c ∧ c < col + count then some (.drawn ['▀'] style) else none := by
  refine (paints_text hr hc ?_ style).congr fun r c _ => ?_
  · intro ch hmem
    rw [List.eq_of_mem_replicate hmem]
    exact charWidth_of_mem_frame _ (by decide)
  · unfold textLayer
    by_cases hin : r = row ∧ col ≤ c
    · rw [if_pos hin, List.getElem?_replicate]
      by_cases hend : c < col + count
      · rw [if_pos (by omega), if_pos ⟨hin.1, hin.2, hend⟩]
        rfl
      · rw [if_neg (by omega), if_neg fun h => hend h.2.2]
        rfl
    · rw [if_neg hin, if_neg fun h => hin ⟨h.1, h.2.1⟩]

section

variable {frame viewport : Rect} (h : Layout.Placed display frame viewport)

include h

/-- The vertical edges of the frame, between its corners. -/
theorem paints_sides (style : Style) :
    Paints display
      (Stroke.rows (frame.origin.row.toNat + 1) (frame.bottom.toNat - 1) fun row =>
        [Stroke.text row frame.origin.col.toNat ['│'] style,
          Stroke.text row (frame.right.toNat - 1) ['│'] style])
      fun r c =>
        if frame.origin.row.toNat + 1 ≤ r ∧ r < frame.bottom.toNat - 1 then
          if c = frame.origin.col.toNat ∨ c = frame.right.toNat - 1 then
            some (.drawn ['│'] style)
          else none
        else none := by
  have hr := Coord.toNat_lt_count display.rows
  have hc := Coord.toNat_lt_count display.cols
  have hbottom := h.toNat_bottom
  have hright := h.toNat_right
  obtain ⟨h₁, h₂, h₃, h₄, h₅, h₆, h₇, h₈⟩ := h
  -- one row after the other, each with its two glyphs
  refine paints_rows (by omega) fun row hfirst hlast => ?_
  refine (paints_append (paints_glyph (by omega) (by omega) (by decide) style)
    (paints_glyph (by omega) (by omega) (by decide) style)).congr fun r c _ => ?_
  unfold Layer.above
  dsimp only
  by_cases hrow : r = row
  · simp only [if_pos hrow]
    -- of the two glyphs the right one is drawn last
    by_cases hcol : c = frame.right.toNat - 1
    · rw [if_pos hcol, Option.some_or, if_pos (Or.inr hcol)]
    · rw [if_neg hcol, Option.none_or]
      simp only [hcol, or_false]
  · simp only [if_neg hrow, Option.or_none]

theorem paints_border {l : Layout} (hl : l.frame = some frame) :
    Paints display ((fresh m theme).border frame) (Scene.border theme l) := by
  have hr := Coord.toNat_lt_count display.rows
  have hc := Coord.toNat_lt_count display.cols
  have hbottom := h.toNat_bottom
  have hright := h.toNat_right
  have hsides := paints_sides h (fresh m theme).borderStyle
  have hends := h.ends_pos
  obtain ⟨h₁, h₂, h₃, h₄, h₅, h₆, h₇, h₈⟩ := h
  unfold border
  -- a frame has two rows and two columns at least, so that it has a border
  rw [if_neg hends]
  refine (paints_append (paints_append
    (paints_edge (by omega) (by omega) (by decide) (by decide) _ _) hsides)
    (paints_edge (by omega) (by omega) (by decide) (by decide) _ _)).congr fun r c _ => ?_
  have hwidth : frame.origin.col.toNat + (frame.size.cols.toNat - 2) + 2
      = frame.origin.col.toNat + frame.size.cols.toNat := by omega
  have hlast : c = frame.origin.col.toNat + (frame.size.cols.toNat - 2) + 1
      ↔ c + 1 = frame.origin.col.toNat + frame.size.cols.toNat := by omega
  unfold Layer.above Scene.border Rect.glyph
  rw [hl, Option.bind_some, hbottom, hright]
  simp only [hwidth, hlast]
  -- the glyphs of the first and last row are the same on both sides
  generalize (if c = frame.origin.col.toNat then '┌'
    else if c + 1 = frame.origin.col.toNat + frame.size.cols.toNat then '┐' else '─') = upper
  generalize (if c = frame.origin.col.toNat then '└'
    else if c + 1 = frame.origin.col.toNat + frame.size.cols.toNat then '┘' else '─') = lower
  by_cases hcols : frame.origin.col.toNat ≤ c ∧ c < frame.origin.col.toNat + frame.size.cols.toNat
  · -- the last row is drawn last
    by_cases hlastRow : r + 1 = frame.origin.row.toNat + frame.size.rows.toNat
    · have hedge : frame.OnEdge r c := ⟨⟨by omega, hcols⟩, .inr (.inl hlastRow)⟩
      rw [if_pos (by omega), Option.some_or, if_pos hedge, if_neg (by omega), if_pos hlastRow]
      rfl
    · -- another row, which the lower edge leaves alone
      rw [if_neg (by omega), Option.none_or, if_neg hlastRow]
      by_cases hfirstRow : r = frame.origin.row.toNat
      · have hedge : frame.OnEdge r c := ⟨⟨by omega, hcols⟩, .inl hfirstRow⟩
        rw [if_neg (by omega), Option.none_or, if_pos (by omega), if_pos hedge, if_pos hfirstRow]
        rfl
      · -- a row between the first and the last shows the sides only
        simp only [hfirstRow, false_and, ↓reduceIte, Option.or_none]
        by_cases hedge : frame.OnEdge r c
        · obtain ⟨⟨hrows, -⟩, hside⟩ := id hedge
          rw [if_pos (by omega), if_pos (by omega), if_pos hedge]
          rfl
        · -- a cell inside of the frame
          rw [if_neg hedge]
          split
          · rename_i hrows
            rw [if_neg]
            intro hside
            exact hedge ⟨⟨by omega, hcols⟩, .inr (.inr (by omega))⟩
          · rfl
  · -- beside the frame
    have hedge : ¬ frame.OnEdge r c := fun h => hcols h.1.2
    simp only [hcols, hedge, and_false, ↓reduceIte, Option.none_or, Option.or_none]
    split
    · rw [if_neg (by omega)]
    · rfl

theorem hasShadow_iff {l : Layout} (hdisplay : l.display = display) :
    hasShadow l frame = true ↔
      frame.origin.row.toNat + frame.size.rows.toNat < display.rows.toNat - 2 ∧
        frame.origin.col.toNat + frame.size.cols.toNat < display.cols.toNat := by
  rw [hasShadow, Bool.and_eq_true, decide_eq_true_eq, decide_eq_true_eq, UInt16.lt_iff_toNat_lt,
    UInt16.lt_iff_toNat_lt, hdisplay, h.toNat_bottom, h.toNat_right, Coord.toNat_minus,
    Layout.toNat_barHeight]

theorem paints_shadow {l : Layout} (hl : l.frame = some frame) (hdisplay : l.display = display) :
    Paints display (if hasShadow l frame then (fresh m theme).shadow frame else [])
      (Scene.shadow m theme l) := by
  have hroom := hasShadow_iff h hdisplay
  have hbottom := h.toNat_bottom
  have hright := h.toNat_right
  have hr := Coord.toNat_le display.rows
  have hc := Coord.toNat_le display.cols
  obtain ⟨h₁, h₂, h₃, h₄, h₅, h₆, h₇, h₈⟩ := h
  unfold Scene.shadow
  rw [hl, hdisplay]
  simp only [Option.bind_some]
  by_cases hshadow : hasShadow l frame = true
  · -- the sides: one shade in each row, on the color of that row
    have hspace := hroom.1 hshadow
    rw [if_pos hshadow]
    have hside : ∀ row, frame.origin.row.toNat + 1 ≤ row → row < frame.bottom.toNat →
        Paints display [Stroke.text row frame.right.toNat ['▒'] ((fresh m theme).shadowStyle row)]
          fun r c => if r = row then if c = frame.right.toNat then
              some (.drawn ['▒'] (.colored theme.shadow.color (Scene.rowColor m theme r)))
            else none else none := by
      intro row _ hrow
      refine (paints_glyph (by unfold Coord.count; omega) (by unfold Coord.count; omega)
        (by decide) _).congr fun r c _ => ?_
      by_cases heq : r = row
      · subst heq
        rw [shadowStyle, rowColor_fresh (by omega)]
        rfl
      · rw [if_neg heq, if_neg heq]
    -- the row below the frame is on the display, so its color is that of the picture
    have hbelow : (fresh m theme).rowColor frame.bottom.toNat
        = Scene.rowColor m theme frame.bottom.toNat := rowColor_fresh (by omega)
    unfold shadow
    refine (paints_append (paints_below (by unfold Coord.count; omega)
      (by unfold Coord.count; omega) _ _)
      (paints_rows (by unfold Coord.count; omega) hside)).congr fun r c _ => ?_
    unfold Layer.above
    dsimp only
    rw [if_pos hspace, shadowStyle, hbelow, hright, hbottom]
    -- the row below the frame: half blocks, and no shade
    by_cases hrow : r = frame.origin.row.toNat + frame.size.rows.toNat
    · rw [if_neg (by omega), Option.none_or, ← hrow]
      by_cases hcol : frame.origin.col.toNat + 1 ≤ c
          ∧ c + 1 < frame.origin.col.toNat + frame.size.cols.toNat
      · rw [if_pos ⟨rfl, hcol.1, by omega⟩, if_pos ⟨rfl, hcol⟩]
        rfl
      · rw [if_neg (by omega), if_neg fun h => hcol h.2, if_neg (by omega)]
    · -- the rows beside the frame: shades, and no half block
      simp only [hrow, false_and, ↓reduceIte, Option.or_none]
      by_cases hin : frame.origin.row.toNat + 1 ≤ r
          ∧ r < frame.origin.row.toNat + frame.size.rows.toNat
      · simp only [hin, and_self, and_true, ↓reduceIte]
      · simp only [hin, and_false, ↓reduceIte]
  · -- no room: nothing is drawn, and the picture has no shadow
    rw [if_neg hshadow]
    refine paints_nil.congr fun r c _ => ?_
    rw [if_neg fun h => hshadow (hroom.2 h)]

end

/-- **The frame with border and shadow.** Neither covers a cell of the other. -/
theorem paints_frame : Paints display ((fresh m theme).frame (Layout.of m display))
    ((Scene.border theme (Layout.of m display)).above
      (Scene.shadow m theme (Layout.of m display))) := by
  obtain ⟨frame, viewport, hf, -, hplaced⟩ | ⟨hf, -⟩ := Layout.placed_of m display
  · unfold Painter.frame
    simp only [hf]
    refine (paints_append (paints_border hplaced hf)
      (paints_shadow hplaced hf Layout.display_of)).congr fun r c _ => ?_
    unfold Layer.above Scene.border Scene.shadow
    simp only [hf, Option.bind_some]
    by_cases hedge : frame.OnEdge r c
    · -- a cell of the frame is above the row of the shadow and left of its column
      obtain ⟨⟨hrows, hcols⟩, -⟩ := id hedge
      simp only [show ¬ r = frame.origin.row.toNat + frame.size.rows.toNat by omega,
        show ¬ c = frame.origin.col.toNat + frame.size.cols.toNat by omega, false_and, ↓reduceIte,
        ite_self, Option.none_or, Option.or_none]
    · -- elsewhere the border covers nothing
      simp only [hedge, ↓reduceIte, Option.none_or, Option.or_none]
  · -- there is no frame
    unfold Painter.frame
    simp only [hf]
    refine paints_nil.congr fun r c _ => ?_
    unfold Layer.above Scene.border Scene.shadow
    rw [hf]
    rfl

/-- **The inside of the frame** is blank. -/
theorem paints_inside :
    Paints display (Painter.inside (Layout.of m display)) (Scene.inside (Layout.of m display)) := by
  have hr := Coord.toNat_lt_count display.rows
  have hc := Coord.toNat_lt_count display.cols
  unfold Painter.inside Scene.inside
  obtain ⟨frame, viewport, -, hv, hplaced⟩ | ⟨-, hv⟩ := Layout.placed_of m display
  · -- each row of the viewport is filled with blanks
    obtain ⟨h₁, h₂, h₃, h₄, h₅, h₆, h₇, h₈⟩ := hplaced
    rw [hv]
    refine (paints_rows_from (by decide) fun row _ hrow =>
      paints_fill (by omega) (by omega) _ _).congr fun r c _ => ?_
    have hin : (∃ v ∈ some viewport, v.Contains r c) ↔ viewport.Contains r c :=
      ⟨fun ⟨_, hv, hin⟩ => Option.some.inj hv ▸ hin, fun hin => ⟨viewport, rfl, hin⟩⟩
    simp only [hin]
    unfold Rect.Contains
    rw [Nat.add_zero, ← ite_and]
    rfl
  · -- there is no viewport
    rw [hv]
    exact paints_nil.congr fun r c _ => (if_neg fun ⟨_, hv, _⟩ => nomatch hv).symm

/-! #### Control bar and advisory -/

theorem charWidth_of_mem_line :
    ∀ line ∈ [barTop, barBottom, advisory], ∀ ch ∈ line, Text.charWidth ch = some 1 := by
  have hall : [barTop, barBottom, advisory].all
      (·.all fun ch => decide (Text.charWidth ch = some 1)) = true := by decide +kernel
  exact fun line hline ch hch =>
    of_decide_eq_true (List.all_eq_true.1 (List.all_eq_true.1 hall line hline) ch hch)

/-- **A row of the control bar**: its line on spaces. -/
theorem paints_barRow {row : Nat} (hrow : row < Coord.count) {letters : List Char}
    (hletters : letters ∈ [barTop, barBottom, advisory]) :
    Paints display ((fresh m theme).barRow (Layout.of m display) row letters) fun r c =>
      if r = row then
        some (.drawn [letters[c]?.getD ' ']
          (.colored theme.barForeground.color theme.barBackground.color))
      else none := by
  -- the row is filled with spaces first, and the text is put over them
  have hspaces : Paints display [Stroke.cells row 0
      (Cell.fill (fresh m theme).barStyle (Layout.of m display).controlBar.size.cols.toNat)] _ :=
    paints_fill hrow (by decide) _ _
  have htext : Paints display (clipped display row 0 letters (fresh m theme).barStyle) _ :=
    paints_clipped_of_narrow _ _ _ _ (charWidth_of_mem_line letters hletters)
  unfold barRow
  rw [Layout.display_of]
  refine (paints_append hspaces htext).congr fun r c hin => ?_
  have hc : c < 0 + (Layout.of m display).controlBar.size.cols.toNat := by
    rw [Layout.controlBar_of, Nat.zero_add]
    exact hin.2
  unfold Layer.above textLayer
  dsimp only
  -- where the line has no character, the space is seen
  by_cases heq : r = row
  · rw [if_pos ⟨heq, Nat.zero_le c⟩, if_pos heq, if_pos ⟨Nat.zero_le c, hc⟩, if_pos heq,
      Nat.sub_zero]
    cases letters[c]? with
    | none => rfl
    | some ch => rfl
  · rw [if_neg fun h => heq h.1, if_neg heq, if_neg heq]
    rfl

theorem paints_controlBar : Paints display ((fresh m theme).controlBar (Layout.of m display))
    (Scene.bar theme (Layout.of m display)) := by
  have hr := Coord.toNat_lt_count display.rows
  have hrows : (Layout.barRect display).size.rows.toNat = min 2 display.rows.toNat :=
    Layout.toNat_barRows
  have htop : (Layout.barRect display).origin.row.toNat
      = display.rows.toNat - min 2 display.rows.toNat := by
    rw [Layout.barRect, Rect.of, Coord.toNat_minus, Layout.toNat_barRows]
  have hleft : (Layout.barRect display).origin.col.toNat = 0 := rfl
  have hcols : (Layout.barRect display).size.cols.toNat = display.cols.toNat := rfl
  -- the control bar covers the last rows of the display, two at most, in all columns
  have hbar : ∀ r c, (Layout.barRect display).Contains r c ↔
      display.rows.toNat - min 2 display.rows.toNat ≤ r ∧ r < display.rows.toNat ∧
        c < display.cols.toNat := by
    intro r c
    unfold Rect.Contains
    rw [htop, hrows, hleft, hcols]
    omega
  have hlower : barBottom ∈ [barTop, barBottom, advisory] := by simp
  have hupper : barTop ∈ [barTop, barBottom, advisory] := by simp
  unfold Painter.controlBar Scene.bar
  rw [Layout.controlBar_of, Layout.display_of, hrows, htop]
  -- the bar has as many lines as the display has room for
  have hcases : display.rows.toNat = 0 ∨ display.rows.toNat = 1 ∨ 2 ≤ display.rows.toNat := by omega
  obtain hzero | hone | htwo := hcases
  · -- a display without rows
    have hmin : min 2 display.rows.toNat = 0 := by omega
    rw [hmin]
    refine paints_nil.congr fun r c hin => ?_
    rw [if_neg]
    intro hcontains
    have := (hbar r c).1 hcontains
    omega
  · -- one row has the lower line only
    have hmin : min 2 display.rows.toNat = 1 := by omega
    rw [hmin]
    refine (paints_barRow (by omega) hlower).congr fun r c hin => ?_
    have hrow : r = display.rows.toNat - 1 := by
      have := hin.1
      omega
    have hlast : r + 1 = display.rows.toNat := by omega
    have hcontains := (hbar r c).2 ⟨by omega, hin⟩
    unfold Scene.barLine
    rw [if_pos hrow, if_pos hcontains, if_pos hlast]
  · -- two rows have both lines, the lower one in the last row
    have hmin : min 2 display.rows.toNat = 2 := by omega
    rw [hmin]
    refine (paints_append (paints_barRow (by omega) hupper)
      (paints_barRow (by omega) hlower)).congr fun r c hin => ?_
    unfold Layer.above Scene.barLine
    dsimp only
    by_cases hlast : r + 1 = display.rows.toNat
    · have hcontains := (hbar r c).2 ⟨by omega, hin⟩
      rw [if_pos (show r = display.rows.toNat - 2 + 1 by omega), if_pos hcontains, if_pos hlast]
      rfl
    · rw [if_neg (show ¬ r = display.rows.toNat - 2 + 1 by omega), if_neg hlast, Option.none_or]
      -- the row before the last one
      by_cases hupper : r = display.rows.toNat - 2
      · have hcontains := (hbar r c).2 ⟨by omega, hin⟩
        rw [if_pos hupper, if_pos hcontains]
      · -- a row above the bar
        rw [if_neg hupper, if_neg]
        intro hcontains
        have := (hbar r c).1 hcontains
        omega

theorem paints_tooSmall :
    Paints display (tooSmall (Layout.of m display)) (Scene.advisory (Layout.of m display)) := by
  unfold tooSmall Layout.isTooSmall Scene.advisory
  rw [Layout.display_of]
  cases (Layout.of m display).viewport with
  -- without a viewport the advisory is written, as far as the display reaches
  | none =>
    refine (paints_clipped_of_narrow 0 0 advisory .plain
      (charWidth_of_mem_line advisory (by simp))).congr fun r c _ => ?_
    unfold textLayer
    simp only [Nat.zero_le, and_true, true_and]
    rfl
  | some v => exact paints_nil.congr fun r c _ => (if_neg fun h => nomatch h.1).symm

/-! ### The whole picture -/

/-- A cleared display is blank. -/
theorem paints_clear : Paints display [.clear] fun _ _ => some .blank := by
  intro rows _ r c hin
  rw [List.foldl_cons, List.foldl_nil]
  unfold cellAt strokedRows blankRows
  rw [List.getElem?_replicate, if_pos hin.1, Option.bind_some, List.getElem?_replicate,
    if_pos hin.2]
  rfl

/-- **The strokes of the picture paint it**, cell by cell. -/
theorem paints_strokes : Paints display ((fresh m theme).strokes (Layout.of m display)) fun r c =>
    some (pictured m theme display r c) := by
  unfold strokes
  rw [Layout.display_of]
  split
  · -- a display without cells has nothing to show
    rename_i hempty
    intro rows _ r c hin
    unfold Size.isEmpty at hempty
    rw [Bool.or_eq_true, beq_iff_eq, beq_iff_eq] at hempty
    obtain hrows | hcols := hempty
    · have := hin.1
      rw [hrows] at this
      exact absurd this (Nat.not_lt_zero r)
    · have := hin.2
      rw [hcols] at this
      exact absurd this (Nat.not_lt_zero c)
  · -- the parts in the order in which they are drawn, so that the last one is on top; the first one
    -- covers the display
    refine (paints_append (paints_append (paints_append (paints_append (paints_append
      (paints_append paints_clear paints_bands) paints_title) paints_frame) paints_inside)
      paints_controlBar) paints_tooSmall).congr fun r c _ => ?_
    unfold pictured
    simp only [Layer.above, Option.or_assoc, Option.some_or, ← Option.or_some]

end Painter

/-- **A painted display shows the picture**, whatever it showed before and whether or not the last
display was too small. A display that refuses nothing is painted to the end. -/
theorem picture_painted (m : Measures) (theme : Theme) (degraded : Bool) (canvas : Canvas) :
    let painter := { Painter.fresh m theme with degraded := degraded }
    let after := painter.paint (Layout.of m canvas.size) canvas
    (canvas.Obliging → after.outcome = .ok ()) ∧
      (after.outcome = .ok () → ∀ r c, canvas.size.Contains r c →
        after.display.cell? r c = some (pictured m theme canvas.size r c)) := by
  intro painter after
  refine ⟨painter.outcome_paint_of_obliging m, ?_⟩
  -- a painting that goes through has drawn all strokes of the picture
  intro hok r c hin
  obtain ⟨-, -, hpicture⟩ | ⟨call, hrefused⟩ := painter.paint_cases m canvas
  · have hrows : after.display.picture.rows
        = ((Painter.fresh m theme).strokes (Layout.of m canvas.size)).foldl
            (strokedRows canvas.size) (blankRows canvas.size) := by
      calc after.display.picture.rows
          = (painter.strokes (Layout.of m canvas.size)).foldl (strokedRows canvas.size)
              canvas.picture.rows := (congrArg Picture.rows hpicture).trans (rows_foldl_stroked _ _ _)
        _ = (painter.strokes (Layout.of m canvas.size)).foldl (strokedRows canvas.size)
              (blankRows canvas.size) := painter.foldl_strokes_rows _ _ _
        _ = _ := by rw [Painter.strokes_degraded]
    -- the picture begins with a cleared display, so the cells before do not matter
    rw [cell?_eq_cellAt, hrows, Painter.paints_strokes _ (shaped_blankRows canvas.size) r c hin]
    rfl
  · -- a painting that was refused did not go through
    cases hok.symm.trans hrefused

/-- The picture on a display of the customary size: the corner of the frame, its inside, the shadow
and the title. -/
theorem picture_painted_customary :
    let after := ((Painter.fresh {} {}).paint (Layout.of {} ⟨24, 80⟩) (Canvas.blank ⟨24, 80⟩)).display
    after.cell? 6 2 = some (.drawn ['┌'] (.colored (.rgb 255 105 180) (.rgb 28 70 120))) ∧
      after.cell? 7 3 = some .blank ∧
      after.cell? 18 3 = some (.drawn ['▀'] (.colored (.rgb 60 60 90) (.rgb 20 40 60))) ∧
      after.cell? 3 2 = some (.drawn ['s']
        ⟨.rgb 255 105 180, .rgb 35 45 60, ⟨true, false, false, false⟩⟩) := by
  have hpainted := picture_painted {} {} false (Canvas.blank ⟨24, 80⟩)
  have hcells := hpainted.2 (hpainted.1 (obliging_blank _))
  refine ⟨?_, ?_, ?_, ?_⟩
  · exact (hcells 6 2 (by decide)).trans (by decide +kernel)
  · exact (hcells 7 3 (by decide)).trans (by decide +kernel)
  · exact (hcells 18 3 (by decide)).trans (by decide +kernel)
  · exact (hcells 3 2 (by decide)).trans (by decide +kernel)

end FramedShell
