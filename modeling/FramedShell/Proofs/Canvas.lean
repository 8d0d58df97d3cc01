import FramedShell.Display.Canvas
import Mathlib.Algebra.Ring.Nat

/-!
# Drawing on a canvas

A canvas that refuses nothing carries strokes out one after the other, so that what it shows after a
drawing is a fold of the strokes over what it showed before. Cells and cursor are followed apart:
the cells after a drawing depend on the cells before it only (`rows_foldl_stroked`), and after a
`clear` not even on these.

## Main definitions

* `Canvas.stroked` — the picture after one stroke that is carried out;
* `Canvas.strokedRows` — its cells;
* `Canvas.Shaped` — rows of cells that fill a size;
* `Canvas.cellAt` — the cell at a row and a column;
* `Canvas.outsideOf`, `Canvas.Inside` — what of a stroke falls outside a display.
-/

namespace FramedShell

/-! ### A row with cells written over it -/

@[simp] theorem length_overlay (row : List Cell) (col : Nat) (cells : List Cell) :
    (overlay row col cells).length = row.length := by
  simp only [overlay, List.length_append, List.length_take, List.length_drop]
  omega

/-- Cells written over a row are seen from their column on, as far as the row goes. -/
theorem getElem?_overlay (row : List Cell) (col : Nat) (cells : List Cell) (c : Nat) :
    (overlay row col cells)[c]?
      = if c < row.length ∧ col ≤ c ∧ c < col + cells.length then cells[c - col]? else row[c]? := by
  by_cases hc : c < row.length
  · unfold overlay
    by_cases hbefore : c < col
    · -- before the written cells
      rw [if_neg (by omega), List.append_assoc, List.getElem?_append_left (by simp; omega),
        List.getElem?_take_of_lt hbefore]
    · by_cases hwithin : c < col + cells.length
      · -- within them
        have hlen : (row.take col).length = col := by simp; omega
        rw [if_pos ⟨hc, by omega, hwithin⟩, List.append_assoc,
          List.getElem?_append_right (by omega), hlen,
          List.getElem?_append_left (by simp; omega), List.getElem?_take_of_lt (by omega)]
      · -- after them
        have hlen :
            (row.take col ++ cells.take (row.length - col)).length = col + cells.length := by
          simp
          omega
        rw [if_neg (by omega), List.getElem?_append_right (by omega), hlen, List.getElem?_drop]
        congr 1
        omega
  · -- beyond the row nothing is written
    rw [if_neg (by omega), List.getElem?_eq_none (by simp; omega), List.getElem?_eq_none (by omega)]

namespace Canvas

/-! ### Carrying out strokes -/

/-- **The picture after a stroke** that is carried out. -/
def stroked (size : Size) (p : Picture) : Stroke → Picture
  | .putCells start cells => putCells size p start cells
  | .setCursor place => setCursor size p place
  | .setCursorVisible visible => { p with cursorVisible := visible }
  | .clear => { p with rows := blankRows size, clears := p.clears + 1 }
  | .flush => p
  | .beyond => p

/-- A stroke in range is carried out, or refused. -/
theorem draw_cases {stroke : Stroke} (h : stroke ≠ .beyond) (canvas : Canvas) :
    (∃ d, Display.draw stroke canvas = (.ok (), d) ∧ d.size = canvas.size ∧
      d.picture = stroked canvas.size canvas.picture stroke) ∨
    ∃ call d, Display.draw stroke canvas = (.error (.refused call), d) := by
  change (∃ d, draw stroke canvas = (.ok (), d) ∧ _) ∨ ∃ call d, draw stroke canvas = _
  cases stroke with
  | beyond => exact absurd rfl h
  | _ =>
    simp only [draw, perform?]
    -- the stroke is refused by the schedule, or carried out on the picture
    split
    · exact .inr ⟨_, _, rfl⟩
    · exact .inl ⟨_, rfl, rfl, rfl⟩

/-- **A drawing in range is carried out as a whole, or refused on the way.** -/
theorem drawAll_cases {strokes : List Stroke} (h : Stroke.beyond ∉ strokes) (canvas : Canvas) :
    (∃ d, Display.drawAll strokes canvas = (.ok (), d) ∧ d.size = canvas.size ∧
      d.picture = strokes.foldl (stroked canvas.size) canvas.picture) ∨
    ∃ call d, Display.drawAll strokes canvas = (.error (.refused call), d) := by
  -- the first stroke that is refused ends the drawing
  induction strokes generalizing canvas with
  | nil => exact .inl ⟨canvas, rfl, rfl, rfl⟩
  | cons stroke rest ih =>
    rw [List.mem_cons, not_or] at h
    obtain ⟨d, hd, hsize, hpicture⟩ | ⟨call, d, hd⟩ := draw_cases (Ne.symm h.1) canvas
    · -- the stroke is carried out, and the others follow on the picture that it made
      rw [Display.drawAll_cons_ok hd, List.foldl_cons, ← hpicture, ← hsize]
      exact ih h.2 d
    · -- the stroke is refused, and none of the others is drawn
      exact .inr ⟨call, d, Display.drawAll_cons_error hd⟩

/-- A stroke that stops a drawing leaves nothing on the canvas. -/
theorem draw_of_error {stroke : Stroke} {canvas d : Canvas} {fault : DisplayFault}
    (h : Display.draw stroke canvas = (.error fault, d)) :
    d.size = canvas.size ∧ d.picture = canvas.picture := by
  change draw stroke canvas = _ at h
  unfold draw at h
  split at h
  · -- the stroke is out of range
    cases h
    exact ⟨rfl, rfl⟩
  · -- the stroke is refused, or it is carried out and does not stop the drawing
    split at h
    · cases h
      exact ⟨rfl, rfl⟩
    · cases h

theorem draw_of_ok {stroke : Stroke} {canvas d : Canvas}
    (h : Display.draw stroke canvas = (.ok (), d)) :
    d.size = canvas.size ∧ d.picture = stroked canvas.size canvas.picture stroke := by
  have hne : stroke ≠ .beyond := by
    rintro rfl
    cases h
  obtain ⟨d', hd', hdrawn⟩ | ⟨call, d', hd'⟩ := draw_cases hne canvas
  · cases h.symm.trans hd'
    exact hdrawn
  · -- a stroke that is refused is not answered so
    cases h.symm.trans hd'

/-- **What was drawn of a drawing** is a beginning of it, and all of it if nothing was refused. -/
theorem exists_drawn (strokes : List Stroke) (canvas : Canvas) :
    ∃ drawn rest, drawn ++ rest = strokes ∧
      (Display.drawAll strokes canvas).2.size = canvas.size ∧
      (Display.drawAll strokes canvas).2.picture = drawn.foldl (stroked canvas.size) canvas.picture ∧
      ((Display.drawAll strokes canvas).1 = .ok () → rest = []) := by
  induction strokes generalizing canvas with
  | nil => exact ⟨[], [], rfl, rfl, rfl, fun _ => rfl⟩
  | cons stroke rest ih =>
    cases hd : Display.draw stroke canvas with
    | mk outcome d =>
      cases outcome with
      -- the drawing ends before this stroke
      | error fault =>
        obtain ⟨hsize, hpicture⟩ := draw_of_error hd
        rw [Display.drawAll_cons_error hd]
        exact ⟨[], stroke :: rest, rfl, hsize, hpicture, nofun⟩
      -- the stroke is one of those that were drawn
      | ok =>
        obtain ⟨hsize, hpicture⟩ := draw_of_ok hd
        obtain ⟨drawn, others, happend, hsize', hpicture', hall⟩ := ih d
        rw [Display.drawAll_cons_ok hd]
        refine ⟨stroke :: drawn, others, congrArg (stroke :: ·) happend, hsize'.trans hsize, ?_, hall⟩
        rw [hpicture', hsize, hpicture]
        rfl

/-- A drawing that goes through is drawn as a whole. -/
theorem picture_of_ok {strokes : List Stroke} {canvas : Canvas}
    (h : (Display.drawAll strokes canvas).1 = .ok ()) :
    (Display.drawAll strokes canvas).2.picture
      = strokes.foldl (stroked canvas.size) canvas.picture := by
  obtain ⟨drawn, rest, happend, -, hpicture, hall⟩ := exists_drawn strokes canvas
  rw [hall h, List.append_nil] at happend
  rw [hpicture, happend]

/-- Asking for the size is answered, or refused; it changes nothing that can be seen. -/
theorem size_cases (canvas : Canvas) :
    (∃ d, Display.size canvas = (.ok canvas.size, d) ∧ d.size = canvas.size ∧
      d.picture = canvas.picture) ∨
    ∃ call d, Display.size canvas = (.error (.refused call), d) := by
  -- the answer depends on the head of the schedule, and only the schedule is changed by it
  by_cases h : canvas.refuses .size = true
  · refine .inr ⟨.size, canvas.consume .size, ?_⟩
    change ((if canvas.refuses .size then _ else _ : Except DisplayFault Size), _) = _
    rw [if_pos h]
  · refine .inl ⟨canvas.consume .size, ?_, rfl, rfl⟩
    change ((if canvas.refuses .size then _ else _ : Except DisplayFault Size), _) = _
    rw [if_neg h]

/-- **A canvas refuses nothing** of what is to come. -/
def Obliging (canvas : Canvas) : Prop := ∀ call, true ∉ canvas.refusals call

theorem obliging_blank (size : Size) : (blank size).Obliging := fun _ => List.not_mem_nil

theorem Obliging.refuses {canvas : Canvas} (h : canvas.Obliging) (call : DisplayCall) :
    canvas.refuses call = false := by
  unfold Canvas.refuses
  cases hr : canvas.refusals call with
  -- an empty schedule refuses nothing
  | nil => rfl
  | cons refuse rest =>
    -- the call at the head of the schedule is not refused
    have hnot : refuse ≠ true := by
      rintro rfl
      exact h call (hr ▸ List.mem_cons_self)
    rw [eq_false_of_ne_true hnot]
    rfl

theorem Obliging.consume {canvas : Canvas} (h : canvas.Obliging) (call : DisplayCall) :
    (canvas.consume call).Obliging := by
  intro other hmem
  unfold Canvas.consume at hmem
  dsimp only at hmem
  -- the schedule of the call loses its head, and the others stay as they are
  split at hmem
  · exact h other (List.mem_of_mem_tail hmem)
  · exact h other hmem

/-- A canvas that refuses nothing carries every stroke out. -/
theorem Obliging.draw {canvas : Canvas} (h : canvas.Obliging) {stroke : Stroke}
    (hs : stroke ≠ .beyond) : ∃ d, Display.draw stroke canvas = (.ok (), d) ∧ d.Obliging := by
  change ∃ d, Canvas.draw stroke canvas = (.ok (), d) ∧ d.Obliging
  cases stroke with
  | beyond => exact absurd rfl hs
  | _ =>
    simp only [Canvas.draw, perform?, h.refuses, Bool.false_eq_true, if_false]
    -- a stroke leaves the schedule to `consume`
    exact ⟨_, rfl, fun other hmem => h.consume _ other hmem⟩

theorem Obliging.drawAll {canvas : Canvas} (h : canvas.Obliging) {strokes : List Stroke}
    (hs : Stroke.beyond ∉ strokes) :
    ∃ d, Display.drawAll strokes canvas = (.ok (), d) ∧ d.Obliging := by
  induction strokes generalizing canvas with
  | nil => exact ⟨canvas, rfl, h⟩
  | cons stroke rest ih =>
    rw [List.mem_cons, not_or] at hs
    obtain ⟨d, hd, hobliging⟩ := h.draw (Ne.symm hs.1)
    rw [Display.drawAll_cons_ok hd]
    exact ih hobliging hs.2

/-! ### Putting cells until one call is refused -/

/-- The first call of a kind that is refused is call number `i`, counted from zero. -/
def RefusesFirst (canvas : Canvas) (call : DisplayCall) (i : Nat) : Prop :=
  (canvas.refusals call)[i]? = some true ∧ true ∉ (canvas.refusals call).take i

/-- Strokes that only put cells. -/
def IsPutting (strokes : List Stroke) : Prop := ∀ s ∈ strokes, ∃ start cells, s = .putCells start cells

theorem IsPutting.cursor {strokes : List Stroke} (h : IsPutting strokes) (size : Size) (p : Picture) :
    (strokes.foldl (stroked size) p).cursor = p.cursor ∧
      (strokes.foldl (stroked size) p).cursorVisible = p.cursorVisible := by
  induction strokes generalizing p with
  | nil => exact ⟨rfl, rfl⟩
  -- cells are put without touching the cursor
  | cons stroke rest ih =>
    obtain ⟨start, cells, rfl⟩ := h stroke List.mem_cons_self
    exact ih (fun s hs => h s (List.mem_cons_of_mem _ hs)) (putCells size p start cells)

/-- A refused call leaves what was drawn before it, and stops the drawing. -/
theorem drawAll_of_refusesFirst {first : List Stroke} (hfirst : IsPutting first) {start : Position}
    {cells : List Cell} {rest : List Stroke} {canvas : Canvas}
    (h : canvas.RefusesFirst .putCells first.length) :
    ∃ d, Display.drawAll (first ++ .putCells start cells :: rest) canvas
        = (.error (.refused .putCells), d) ∧
      d.size = canvas.size ∧ d.picture = first.foldl (stroked canvas.size) canvas.picture := by
  induction first generalizing canvas with
  -- the first call is the one that is refused
  | nil =>
    obtain ⟨hrefused, -⟩ := h
    have hrefuses : canvas.refuses .putCells = true := by
      rw [Canvas.refuses, List.head?_eq_getElem?]
      exact beq_iff_eq.2 hrefused
    have hdraw : Display.draw (.putCells start cells) canvas
        = (.error (.refused .putCells), canvas.consume .putCells) := by
      change draw _ canvas = _
      simp only [draw, perform?, hrefuses, if_true]
    exact ⟨_, Display.drawAll_cons_error hdraw, rfl, rfl⟩
  | cons stroke others ih =>
    obtain ⟨place, put, rfl⟩ := hfirst stroke List.mem_cons_self
    obtain ⟨hrefused, hbefore⟩ := h
    -- the schedule has an entry for each call up to the one that is refused
    cases hschedule : canvas.refusals .putCells with
    | nil =>
      rw [hschedule] at hrefused
      cases hrefused
    | cons answer answers =>
      rw [hschedule, List.length_cons, List.getElem?_cons_succ] at hrefused
      rw [hschedule, List.length_cons, List.take_succ_cons, List.mem_cons, not_or] at hbefore
      -- the call before the refused one is allowed, and takes its entry off the schedule
      have hallows : canvas.refuses .putCells = false := by
        rw [Canvas.refuses, hschedule, List.head?_cons, eq_false_of_ne_true (Ne.symm hbefore.1)]
        rfl
      obtain ⟨d, hd, htail⟩ : ∃ d, Display.draw (.putCells place put) canvas = (.ok (), d) ∧
          d.refusals .putCells = answers := by
        change ∃ d, draw _ canvas = (.ok (), d) ∧ _
        simp only [draw, perform?, hallows, Bool.false_eq_true, if_false]
        refine ⟨_, rfl, ?_⟩
        rw [Canvas.consume]
        exact congrArg List.tail hschedule
      obtain ⟨hsize, hpicture⟩ := draw_of_ok hd
      have hothers : d.RefusesFirst .putCells others.length := by
        unfold RefusesFirst
        rw [htail]
        exact ⟨hrefused, hbefore.2⟩
      rw [List.cons_append, Display.drawAll_cons_ok hd]
      obtain ⟨d', hd', hsize', hpicture'⟩ :=
        ih (fun s hs => hfirst s (List.mem_cons_of_mem _ hs)) hothers
      refine ⟨d', hd', hsize'.trans hsize, ?_⟩
      rw [hpicture', hsize, hpicture]
      rfl

/-! ### The cells of a picture -/

/-- **The cells after a stroke** that is carried out. -/
def strokedRows (size : Size) (rows : List (List Cell)) : Stroke → List (List Cell)
  | .putCells start cells =>
    rows.modify start.row.toNat fun row => overlay row start.col.toNat cells
  | .clear => blankRows size
  | .setCursor _ => rows
  | .setCursorVisible _ => rows
  | .flush => rows
  | .beyond => rows

theorem rows_stroked (size : Size) (p : Picture) (stroke : Stroke) :
    (stroked size p stroke).rows = strokedRows size p.rows stroke := by
  cases stroke <;> rfl

/-- The cells after a drawing depend on the cells before it only. -/
theorem rows_foldl_stroked (size : Size) (strokes : List Stroke) (p : Picture) :
    (strokes.foldl (stroked size) p).rows = strokes.foldl (strokedRows size) p.rows := by
  induction strokes generalizing p with
  | nil => rfl
  | cons stroke rest ih => rw [List.foldl_cons, List.foldl_cons, ih, rows_stroked]

/-- The cell at a row and a column. -/
def cellAt (rows : List (List Cell)) (r c : Nat) : Option Cell := (rows[r]?).bind fun row => row[c]?

theorem cell?_eq_cellAt (canvas : Canvas) (r c : Nat) :
    canvas.cell? r c = cellAt canvas.picture.rows r c := rfl

/-- **Rows of cells that fill a size.** -/
structure Shaped (size : Size) (rows : List (List Cell)) : Prop where
  length_eq : rows.length = size.rows.toNat
  length_row : ∀ row ∈ rows, row.length = size.cols.toNat

theorem shaped_blankRows (size : Size) : Shaped size (blankRows size) := by
  refine ⟨List.length_replicate, ?_⟩
  intro row hrow
  rw [List.eq_of_mem_replicate hrow]
  exact List.length_replicate

/-- A stroke keeps the shape. -/
theorem Shaped.stroked {size : Size} {rows : List (List Cell)} (h : Shaped size rows)
    (stroke : Stroke) : Shaped size (strokedRows size rows stroke) := by
  cases stroke with
  | putCells start cells =>
    refine ⟨(List.length_modify _ _ _).trans h.length_eq, ?_⟩
    intro row hrow
    -- a row of the new cells is an old one, perhaps with cells written over it
    obtain ⟨i, hi⟩ := List.mem_iff_getElem?.1 hrow
    rw [strokedRows, List.getElem?_modify] at hi
    obtain ⟨row', hrow', rfl⟩ := Option.map_eq_some_iff.1 hi
    have hlen := h.length_row row' (List.mem_iff_getElem?.2 ⟨i, hrow'⟩)
    -- writing over a row keeps its length
    split
    · rw [length_overlay]
      exact hlen
    · exact hlen
  | clear => exact shaped_blankRows size
  | _ => exact h

theorem Shaped.foldl {size : Size} {rows : List (List Cell)} (h : Shaped size rows)
    (strokes : List Stroke) : Shaped size (strokes.foldl (strokedRows size) rows) := by
  induction strokes generalizing rows with
  | nil => exact h
  | cons stroke rest ih => exact ih (h.stroked stroke)

/-- **The cells after cells were put**: these from their position on, and the others as before. -/
theorem Shaped.cellAt_putCells {size : Size} {rows : List (List Cell)} (h : Shaped size rows)
    {start : Position} {cells : List Cell} (hrow : start.row.toNat < size.rows.toNat)
    (hcols : start.col.toNat + cells.length ≤ size.cols.toNat) (r c : Nat) :
    cellAt (strokedRows size rows (.putCells start cells)) r c
      = if r = start.row.toNat ∧ start.col.toNat ≤ c ∧ c < start.col.toNat + cells.length then
          cells[c - start.col.toNat]?
        else cellAt rows r c := by
  unfold cellAt strokedRows
  rw [List.getElem?_modify]
  cases hr : rows[r]? with
  | none =>
    -- the row of the cells is a row of the picture
    have hne : r ≠ start.row.toNat := by
      rintro rfl
      have := List.getElem?_eq_none_iff.1 hr
      have := h.length_eq
      omega
    rw [if_neg fun hin => hne hin.1]
    rfl
  | some row =>
    have hlen := h.length_row row (List.mem_iff_getElem?.2 ⟨r, hr⟩)
    by_cases heq : start.row.toNat = r
    · -- the row that was written over
      subst heq
      simp only [Option.map_eq_map, Option.map_some, Option.bind_some, if_true, true_and]
      rw [getElem?_overlay, hlen]
      -- a column of the new cells, or another one of the row
      by_cases hin : start.col.toNat ≤ c ∧ c < start.col.toNat + cells.length
      · rw [if_pos ⟨by omega, hin⟩, if_pos hin]
      · rw [if_neg fun h' => hin h'.2, if_neg hin]
    · -- a row that no cells were put in
      rw [if_neg fun hin => heq hin.1.symm]
      simp only [Option.map_eq_map, Option.map_some, Option.bind_some, if_neg heq]

/-! ### What falls outside -/

/-- How many cells or cursor places of a stroke fall outside a display. -/
def outsideOf (size : Size) : Stroke → Nat
  | .putCells start cells => cellsOutside size start cells.length
  | .setCursor place => if place.row < size.rows ∧ place.col < size.cols then 0 else 1
  | .setCursorVisible _ => 0
  | .clear => 0
  | .flush => 0
  | .beyond => 0

theorem outsideOf_putCells {size : Size} {start : Position} {cells : List Cell}
    (hrow : start.row.toNat < size.rows.toNat)
    (hcols : start.col.toNat + cells.length ≤ size.cols.toNat) :
    outsideOf size (.putCells start cells) = 0 := by
  change cellsOutside size start cells.length = 0
  unfold cellsOutside
  -- the row is on the display, and the cells end within it
  rw [if_pos (UInt16.lt_iff_toNat_lt.2 hrow)]
  omega

theorem outsideOf_setCursor {size : Size} {place : Position}
    (hrow : place.row.toNat < size.rows.toNat) (hcol : place.col.toNat < size.cols.toNat) :
    outsideOf size (.setCursor place) = 0 :=
  if_pos ⟨UInt16.lt_iff_toNat_lt.2 hrow, UInt16.lt_iff_toNat_lt.2 hcol⟩

theorem outside_stroked (size : Size) (p : Picture) (stroke : Stroke) :
    (stroked size p stroke).outside = p.outside + outsideOf size stroke := by
  cases stroke <;> rfl

theorem outside_foldl_stroked (size : Size) (strokes : List Stroke) (p : Picture) :
    (strokes.foldl (stroked size) p).outside
      = p.outside + (strokes.map (outsideOf size)).sum := by
  -- what falls outside is counted stroke by stroke
  induction strokes generalizing p with
  | nil => rfl
  | cons stroke rest ih =>
    rw [List.foldl_cons, ih, outside_stroked, List.map_cons, List.sum_cons, Nat.add_assoc]

/-- **What falls outside** in a drawing is counted stroke by stroke, up to the one that is refused. -/
theorem outside_drawAll (strokes : List Stroke) (canvas : Canvas) :
    canvas.picture.outside ≤ (Display.drawAll strokes canvas).2.picture.outside ∧
      (Display.drawAll strokes canvas).2.picture.outside
        ≤ canvas.picture.outside + (strokes.map (outsideOf canvas.size)).sum ∧
      ((Display.drawAll strokes canvas).1 = .ok () →
        (Display.drawAll strokes canvas).2.picture.outside
          = canvas.picture.outside + (strokes.map (outsideOf canvas.size)).sum) := by
  obtain ⟨drawn, rest, happend, -, hpicture, hall⟩ := exists_drawn strokes canvas
  have hdrawn : (Display.drawAll strokes canvas).2.picture.outside
      = canvas.picture.outside + (drawn.map (outsideOf canvas.size)).sum := by
    rw [hpicture, outside_foldl_stroked]
  have hsum : (strokes.map (outsideOf canvas.size)).sum
      = (drawn.map (outsideOf canvas.size)).sum + (rest.map (outsideOf canvas.size)).sum := by
    rw [← happend, List.map_append, List.sum_append]
  refine ⟨by omega, by omega, ?_⟩
  intro hok
  rw [hall hok, List.map_nil, List.sum_nil] at hsum
  omega

/-- **Strokes that stay inside a display.** -/
def Inside (size : Size) (strokes : List Stroke) : Prop := ∀ s ∈ strokes, outsideOf size s = 0

section

variable {size : Size} {strokes later : List Stroke}

theorem inside_nil : Inside size [] := fun _ h => absurd h List.not_mem_nil

theorem inside_append (h : Inside size strokes) (hlater : Inside size later) :
    Inside size (strokes ++ later) := by
  intro s hs
  obtain hs | hs := List.mem_append.1 hs
  · exact h s hs
  · exact hlater s hs

theorem inside_singleton {s : Stroke} (h : outsideOf size s = 0) : Inside size [s] := by
  intro other hother
  rw [List.mem_singleton.1 hother]
  exact h

theorem Inside.sum_eq_zero (h : Inside size strokes) : (strokes.map (outsideOf size)).sum = 0 := by
  rw [List.sum_eq_zero_iff_forall_eq_nat]
  intro n hn
  obtain ⟨s, hs, rfl⟩ := List.mem_map.1 hn
  exact h s hs

end

end Canvas

end FramedShell
