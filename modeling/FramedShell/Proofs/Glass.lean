import FramedShell.Terminal.Surface
import Mathlib.Tactic.ByContra

/-!
# What a row of cells leaves on a terminal

A terminal without line wrap is modelled by its *glass*: printing a text fills as many columns as
the text is wide, from the cursor on, and the cursor advances by them. The cells of a row are drawn
with one placement of the cursor, so every later column depends on the widths before it.

A slice of cells is *well-formed* if every wide character is followed by its right half. Cell `i` of
a slice then belongs to column `i` of it, and a character fits if its last column does (`Fits`).
What is drawn is less: the columns are counted once with a wide character and once more with its
right half, so a row ends too early by one column for every right half before (`Reached`).
`putCells_draws` says that exactly the cells that are reached are drawn, and when these are all that
fit.

## Main definitions

* `Glass`, `Glass.obey` — a terminal without line wrap, and what an instruction does to it;
* `WellFormed` — slices in which wide characters have their right halves;
* `Draws` — a picture of some cells of a slice, and of nothing else.
-/

namespace FramedShell.Terminal

/-! ### The glass -/

/-- **What a column shows**: a part of a text, in a style. -/
structure Mark where
  text : List Char
  style : Style
  /-- Which of the columns of the text it is, counted from zero. -/
  part : Nat
deriving DecidableEq

/-- **The glass of a terminal** without line wrap. Which of its screens a terminal shows is left
out: the glass is the one that is drawn on. -/
structure Glass where
  /-- What is shown in a row and a column. -/
  marks : Nat → Nat → Mark
  /-- The row of the cursor. -/
  row : Nat
  /-- The column of the cursor. -/
  col : Nat
  /-- The style that is printed in. -/
  pen : Style

namespace Glass

/-- **Print a text**: it fills as many columns as it is wide, and the cursor advances by them. -/
def print (text : List Char) (g : Glass) : Glass :=
  { g with
    marks := fun r c =>
      if r = g.row ∧ g.col ≤ c ∧ c < g.col + Text.textWidth text then ⟨text, g.pen, c - g.col⟩
      else g.marks r c
    col := g.col + Text.textWidth text }

/-- The glass with other attributes to print in. -/
def withAttributes (g : Glass) (change : Attributes → Attributes) : Glass :=
  { g with pen := { g.pen with attributes := change g.pen.attributes } }

/-- **The glass after an instruction.** -/
def obey (g : Glass) : Instruction → Glass
  | .moveTo place => { g with row := place.row.toNat, col := place.col.toNat }
  | .resetStyle => { g with pen := .plain }
  | .bold => g.withAttributes fun a => { a with bold := true }
  | .italic => g.withAttributes fun a => { a with italic := true }
  | .underline => g.withAttributes fun a => { a with underline := true }
  | .inverse => g.withAttributes fun a => { a with inverse := true }
  | .foreground color => { g with pen := { g.pen with foreground := color } }
  | .background color => { g with pen := { g.pen with background := color } }
  | .clearScreen => { g with marks := fun _ _ => ⟨[' '], .plain, 0⟩ }
  | .print text => g.print text
  | .showCursor => g
  | .hideCursor => g
  | .enterAlternateScreen => g
  | .leaveAlternateScreen => g
  | .disableWrap => g
  | .enableWrap => g
  | .title _ => g

/-- The glass after several instructions. -/
def obeyAll (g : Glass) (instructions : List Instruction) : Glass := instructions.foldl obey g

@[simp] theorem obeyAll_cons (g : Glass) (i : Instruction) (rest : List Instruction) :
    g.obeyAll (i :: rest) = (g.obey i).obeyAll rest := rfl

@[simp] theorem obeyAll_append (g : Glass) (first rest : List Instruction) :
    g.obeyAll (first ++ rest) = (g.obeyAll first).obeyAll rest :=
  List.foldl_append

/-- **Setting a style** makes it the style that is printed in. -/
theorem obeyAll_setStyle (g : Glass) (style : Style) :
    g.obeyAll (Instruction.setStyle style) = { g with pen := style } := by
  obtain ⟨foreground, background, ⟨bold, italic, underline, inverse⟩⟩ := style
  -- the colors are set in any case, and each of the attributes where the style has it
  cases bold <;> cases italic <;> cases underline <;> cases inverse <;> rfl

/-- A style that is set unless it is known to be set. -/
theorem obeyAll_style {g : Glass} {current : Option Style} (style : Style)
    (hpen : ∀ s, current = some s → g.pen = s) :
    g.obeyAll (if current = some style then [] else Instruction.setStyle style)
      = { g with pen := style } := by
  split
  · -- the style is in force already
    rename_i h
    rw [← hpen style h]
    rfl
  · exact obeyAll_setStyle g style

section

variable (g : Glass) (text : List Char)

theorem marks_print_of_lt {k : Nat} (hk : k < Text.textWidth text) :
    (g.print text).marks g.row (g.col + k) = ⟨text, g.pen, k⟩ := by
  unfold print
  dsimp only
  rw [if_pos ⟨rfl, Nat.le_add_right _ _, Nat.add_lt_add_left hk _⟩, Nat.add_sub_cancel_left]

theorem marks_print_of_other {r c : Nat}
    (h : r = g.row → ∀ k < Text.textWidth text, c ≠ g.col + k) :
    (g.print text).marks r c = g.marks r c := by
  unfold print
  refine if_neg ?_
  -- a column that the text fills is one of those that are excluded
  rintro ⟨hr, hle, hlt⟩
  exact h hr (c - g.col) (by omega) (by omega)

end

end Glass

/-! ### Slices of cells -/

/-- **A well-formed slice**: every cell is one column wide, or it is two columns wide and followed
by its right half. -/
inductive WellFormed : List Cell → Prop where
  | nil : WellFormed []
  | narrow {text : List Char} {style : Style} {rest : List Cell}
      (hwidth : Text.textWidth text = 1) (hrest : WellFormed rest) :
      WellFormed (.drawn text style :: rest)
  | wide {text : List Char} {style half : Style} {rest : List Cell}
      (hwidth : Text.textWidth text = 2) (hrest : WellFormed rest) :
      WellFormed (.drawn text style :: .continuation half :: rest)

/-- **What a cell of a slice shows**: its text, or the right half of the character before it. -/
def markAt? (cells : List Cell) (i : Nat) : Option Mark :=
  match cells[i]? with
  | none => none
  | some (.drawn text style) => some ⟨text, style, 0⟩
  | some (.continuation _) =>
    match cells[i - 1]? with
    | none => none
    | some (.drawn text style) => some ⟨text, style, 1⟩
    | some (.continuation _) => none

/-- **Where the character of a cell ends**: the first column after it, counted from the first cell.
-/
def glyphEnd (cells : List Cell) (i : Nat) : Nat :=
  match cells[i]? with
  | none => i + 1
  | some (.drawn text style) => i + (Cell.drawn text style).width
  | some (.continuation _) => i + 1

/-- The right halves before a cell of a slice. -/
def halvesBefore (cells : List Cell) (i : Nat) : Nat := (cells.take i).countP Cell.isContinuation

/-- **The character of a cell fits** in `cols` columns, drawn from column `col` on. -/
def Fits (cols col : Nat) (cells : List Cell) (i : Nat) : Prop := col + glyphEnd cells i ≤ cols

/-- **A cell is reached**: its character fits, also with every right half before it counted twice.
-/
def Reached (cols col : Nat) (cells : List Cell) (i : Nat) : Prop :=
  col + (glyphEnd cells i + halvesBefore cells i) ≤ cols

theorem Reached.fits {cols col i : Nat} {cells : List Cell} (h : Reached cols col cells i) :
    Fits cols col cells i := by
  unfold Reached at h
  unfold Fits
  omega

/-- **The picture of some cells of a slice**: those that `drawn` selects are shown in a row from a
column on, and nothing else has changed. -/
structure Draws (drawn : Nat → Prop) (row col : Nat) (cells : List Cell) (before after : Glass) :
    Prop where
  shown : ∀ i mark, markAt? cells i = some mark → drawn i → after.marks row (col + i) = mark
  kept : ∀ r c, (r = row → ∀ i < cells.length, c = col + i → ¬ drawn i) →
    after.marks r c = before.marks r c

/-! ### A slice by its first character -/

section

variable {first rest : List Cell}

theorem glyphEnd_append (i : Nat) :
    glyphEnd (first ++ rest) (first.length + i) = first.length + glyphEnd rest i := by
  -- a cell of the rest has the same place in both, moved by the length of the first part
  unfold glyphEnd
  rw [List.getElem?_append_right (Nat.le_add_right _ _), Nat.add_sub_cancel_left]
  split <;> omega

theorem halvesBefore_append (i : Nat) : halvesBefore (first ++ rest) (first.length + i)
    = first.countP Cell.isContinuation + halvesBefore rest i := by
  unfold halvesBefore
  rw [List.take_length_add_append, List.countP_append]

/-- A well-formed slice does not begin with a right half. -/
theorem WellFormed.head_ne {half : Style} (h : WellFormed rest) :
    rest[0]? ≠ some (.continuation half) := by
  cases h with
  -- the slice is empty, or begins with a drawn cell
  | nil => exact nofun
  | narrow => exact nofun
  | wide => exact nofun

theorem markAt?_append (h : WellFormed rest) (i : Nat) :
    markAt? (first ++ rest) (first.length + i) = markAt? rest i := by
  unfold markAt?
  rw [List.getElem?_append_right (Nat.le_add_right _ _), Nat.add_sub_cancel_left]
  cases hcell : rest[i]? with
  | none => rfl
  | some cell =>
    cases cell with
    | drawn text style => rfl
    | continuation half =>
      -- the cell before a right half is in the same slice
      have hi : i ≠ 0 := by
        rintro rfl
        exact h.head_ne hcell
      rw [List.getElem?_append_right (by omega),
        show first.length + i - 1 - first.length = i - 1 by omega]

theorem reached_append {cols col i : Nat} : Reached cols col (first ++ rest) (first.length + i)
    ↔ Reached cols (col + first.length + first.countP Cell.isContinuation) rest i := by
  unfold Reached
  rw [glyphEnd_append, halvesBefore_append]
  omega

end

/-- Only the cells of a slice show something. -/
theorem lt_of_markAt? {cells : List Cell} {i : Nat} {mark : Mark}
    (h : markAt? cells i = some mark) : i < cells.length := by
  -- past the end there is no cell that could show something
  refine Nat.lt_of_not_le fun hle => ?_
  unfold markAt? at h
  rw [List.getElem?_eq_none hle] at h
  cases h

/-- **The cells of one character**: as many as it has columns, all ending with it, the right half
without another one before. -/
structure IsCharacter (first : List Cell) (text : List Char) (style : Style) : Prop where
  length_eq : first.length = Text.textWidth text
  marks_eq : ∀ rest, ∀ k < first.length, markAt? (first ++ rest) k = some ⟨text, style, k⟩
  ends_eq : ∀ rest, ∀ k < first.length,
    glyphEnd (first ++ rest) k + halvesBefore (first ++ rest) k = first.length

section

variable {text : List Char} {style half : Style}

theorem isCharacter_narrow (h : Text.textWidth text = 1) :
    IsCharacter [.drawn text style] text style where
  length_eq := h.symm
  marks_eq rest k hk := by
    -- the only column
    obtain rfl : k = 0 := Nat.lt_one_iff.1 hk
    rfl
  ends_eq rest k hk := by
    obtain rfl : k = 0 := Nat.lt_one_iff.1 hk
    change 0 + max (Text.textWidth text) 1 + 0 = 1
    omega

theorem isCharacter_wide (h : Text.textWidth text = 2) :
    IsCharacter [.drawn text style, .continuation half] text style where
  length_eq := h.symm
  marks_eq rest k hk := by
    -- the first column shows the text, and the second one its right half
    obtain rfl | rfl : k = 0 ∨ k = 1 := Nat.le_one_iff_eq_zero_or_eq_one.1 (Nat.le_of_lt_succ hk)
    · rfl
    · rfl
  ends_eq rest k hk := by
    obtain rfl | rfl : k = 0 ∨ k = 1 := Nat.le_one_iff_eq_zero_or_eq_one.1 (Nat.le_of_lt_succ hk)
    · change 0 + max (Text.textWidth text) 1 + 0 = 2
      omega
    · rfl

end

/-! ### Drawing the first character -/

section

variable {first rest : List Cell} {text : List Char} {style : Style} {cols x : Nat}

/-- A slice whose first character does not fit leaves the glass as it is. -/
theorem draws_of_crowded (hfirst : IsCharacter first text style) (h : cols < x + first.length)
    (row col : Nat) (g : Glass) :
    Draws (Reached cols x (first ++ rest)) row col (first ++ rest) g g where
  shown i mark _ hreached := by
    refine absurd hreached ?_
    -- a cell of the first character ends with it, which is too far
    by_cases hi : i < first.length
    · unfold Reached
      rw [hfirst.ends_eq rest i hi]
      omega
    · -- a cell behind it ends even further on
      obtain ⟨j, rfl⟩ := Nat.exists_eq_add_of_le (Nat.le_of_not_lt hi)
      rw [reached_append]
      unfold Reached
      omega
  kept _ _ _ := rfl

/-- **A first character that fits** is drawn, and the rest of the slice after it. -/
theorem draws_of_roomy (hfirst : IsCharacter first text style) (hrest : WellFormed rest)
    (h : x + first.length ≤ cols) {g g' : Glass} (hpen : g.pen = style)
    (hdraws : Draws (Reached cols (x + first.length + first.countP Cell.isContinuation) rest)
      g.row (g.col + first.length) rest (g.print text) g') :
    Draws (Reached cols x (first ++ rest)) g.row g.col (first ++ rest) g g' where
  shown i mark hmark hreached := by
    by_cases hi : i < first.length
    · -- a column of the character, which the rest leaves alone
      rw [hfirst.marks_eq rest i hi] at hmark
      rw [hdraws.kept _ _ fun _ j _ heq => absurd heq (by omega),
        Glass.marks_print_of_lt g text (hfirst.length_eq ▸ hi), hpen]
      exact Option.some.inj hmark
    · -- a cell of the rest, which is shown as the rest by itself would be
      obtain ⟨j, rfl⟩ := Nat.exists_eq_add_of_le (Nat.le_of_not_lt hi)
      rw [markAt?_append hrest] at hmark
      rw [← Nat.add_assoc]
      exact hdraws.shown j mark hmark (reached_append.1 hreached)
  kept r c hc := by
    rw [hdraws.kept r c ?_, Glass.marks_print_of_other g text ?_]
    · -- every column of the character is reached
      intro hr k hk heq
      rw [← hfirst.length_eq] at hk
      refine hc hr k ?_ heq ?_
      · rw [List.length_append]
        omega
      · unfold Reached
        rw [hfirst.ends_eq rest k hk]
        exact h
    · -- a cell of the rest that is reached is one of the whole slice as well
      intro hr j hj heq hreached
      refine hc hr (first.length + j) ?_ ?_ (reached_append.2 hreached)
      · rw [List.length_append]
        omega
      · omega

end

/-! ### Drawing a slice -/

open Surface

variable {cols : Nat}

theorem glyphs_drawn {text : List Char} (h : 1 ≤ Text.textWidth text) (style : Style)
    (current : Option Style) (x : Nat) (rest : List Cell) :
    glyphs cols current x (.drawn text style :: rest)
      = if cols < x + Text.textWidth text then [] else
          (if current = some style then [] else Instruction.setStyle style) ++
            .print text :: glyphs cols (some style) (x + Text.textWidth text) rest := by
  rw [glyphs, Cell.width, Nat.max_eq_left h]

/-- The first character of a slice is drawn with its style, if it fits. -/
theorem draws_character {first rest : List Cell} {text : List Char} {style : Style} {x x' : Nat}
    {g : Glass} {current : Option Style} {more : List Instruction}
    (hfirst : IsCharacter first text style) (hrest : WellFormed rest)
    (hpen : ∀ style, current = some style → g.pen = style)
    (hx : x + first.length + first.countP Cell.isContinuation = x')
    (hmore : ∀ g' : Glass, g'.row = g.row → g'.col = g.col + first.length → g'.pen = style →
      Draws (Reached cols x' rest) g'.row g'.col rest g' (g'.obeyAll more)) :
    Draws (Reached cols x (first ++ rest)) g.row g.col (first ++ rest) g
      (g.obeyAll (if cols < x + Text.textWidth text then [] else
        (if current = some style then [] else Instruction.setStyle style) ++
          .print text :: more)) := by
  subst hx
  rw [← hfirst.length_eq]
  -- without room for the first character nothing is drawn; otherwise it is, and the rest after it
  split
  · rename_i hcrowded
    exact draws_of_crowded hfirst hcrowded g.row g.col g
  · rename_i hroomy
    rw [Glass.obeyAll_append, Glass.obeyAll_style style hpen, Glass.obeyAll_cons]
    have hcol : (({ g with pen := style } : Glass).print text).col = g.col + first.length :=
      congrArg (g.col + ·) hfirst.length_eq.symm
    have hdraws := hmore (({ g with pen := style } : Glass).print text) rfl hcol rfl
    rw [hcol] at hdraws
    have hstyled := draws_of_roomy (g := { g with pen := style }) hfirst hrest
      (Nat.le_of_not_lt hroomy) rfl hdraws
    -- the style changes nothing that is shown
    exact ⟨hstyled.shown, hstyled.kept⟩

/-- **The cells of a slice that are reached are drawn**, and nothing else. The columns counted are
ahead of the cursor by `lead`. -/
theorem draws_glyphs {cells : List Cell} (h : WellFormed cells) (g : Glass)
    {current : Option Style} (hpen : ∀ style, current = some style → g.pen = style) (lead : Nat) :
    Draws (Reached cols (g.col + lead) cells) g.row g.col cells g
      (g.obeyAll (glyphs cols current (g.col + lead) cells)) := by
  -- the induction is on the well-formed slice, one case for each way in which a character begins it;
  -- the counted columns get ahead of the cursor by one with each right half
  induction h generalizing g current lead with
  | nil => exact ⟨nofun, fun _ _ _ => rfl⟩
  | narrow hwidth hrest ih =>
    rename_i text style rest
    rw [glyphs_drawn (Nat.le_of_eq hwidth.symm)]
    refine draws_character (isCharacter_narrow hwidth) hrest hpen rfl fun g' hrow hcol hstyle => ?_
    have hx : g.col + lead + 1 = g'.col + lead := by
      rw [hcol]
      exact Nat.add_right_comm _ _ _
    rw [hwidth]
    change Draws (Reached cols (g.col + lead + 1) rest) _ _ _ _ _
    rw [hx]
    exact ih g' (fun _ h => hstyle.trans (Option.some.inj h)) lead
  | wide hwidth hrest ih =>
    rename_i text style half rest
    rw [glyphs_drawn (by omega)]
    refine draws_character (isCharacter_wide hwidth) hrest hpen rfl fun g' hrow hcol hstyle => ?_
    -- the right half is counted once more
    have hx : g.col + lead + 2 + 1 = g'.col + (lead + 1) := by
      rw [hcol]
      change _ = g.col + 2 + (lead + 1)
      omega
    rw [hwidth]
    change Draws (Reached cols (g.col + lead + 2 + 1) rest) _ _ _ _
      (g'.obeyAll (glyphs cols (some style) (g.col + lead + 2 + 1) rest))
    rw [hx]
    exact ih g' (fun _ h => hstyle.trans (Option.some.inj h)) (lead + 1)

/-! ### Drawing a row -/

/-- **The row that a surface draws** from a position on shows, on every glass, those cells that
`drawn` selects for its columns, and changes nothing else. -/
def RowDraws (size : Size) (start : Position) (cells : List Cell)
    (drawn : Nat → Nat → List Cell → Nat → Prop) : Prop :=
  ∀ g : Glass, Draws (drawn size.cols.toNat start.col.toNat cells) start.row.toNat
    start.col.toNat cells g (g.obeyAll (row size start cells))

variable {size : Size} {start : Position} {cells : List Cell}

/-- **A row of cells** shows exactly the cells that are reached. -/
theorem rowDraws_reached (hcells : WellFormed cells) (hrow : start.row < size.rows)
    (hcol : start.col < size.cols) : RowDraws size start cells Reached := by
  intro g
  have hinside : ¬ (size.rows ≤ start.row ∨ size.cols ≤ start.col) := by
    rw [not_or, UInt16.not_le, UInt16.not_le]
    exact ⟨hrow, hcol⟩
  -- at the beginning of a row no style is taken for granted
  have hknown : ∀ style, none = some style → (g.obey (.moveTo start)).pen = style := nofun
  have hdraws : Draws (Reached size.cols.toNat start.col.toNat cells) _ _ _ _ _ :=
    draws_glyphs hcells (g.obey (.moveTo start)) hknown 0
  unfold row
  rw [if_neg hinside, List.cons_append, Glass.obeyAll_cons, Glass.obeyAll_append]
  -- resetting the style afterwards changes nothing that is shown
  exact ⟨hdraws.shown, hdraws.kept⟩

/-- Every cell of a well-formed slice shows something. -/
theorem WellFormed.exists_mark (h : WellFormed cells) {i : Nat} (hi : i < cells.length) :
    ∃ mark, markAt? cells i = some mark := by
  -- the first character has its own marks, and the rest keeps those that it has by itself
  have hstep {first rest : List Cell} {text : List Char} {style : Style} {i : Nat}
      (hfirst : IsCharacter first text style) (hrest : WellFormed rest)
      (ih : ∀ j < rest.length, ∃ mark, markAt? rest j = some mark)
      (hi : i < (first ++ rest).length) : ∃ mark, markAt? (first ++ rest) i = some mark := by
    by_cases hlt : i < first.length
    · -- a cell of the first character
      exact ⟨_, hfirst.marks_eq rest i hlt⟩
    · -- a cell of the rest
      obtain ⟨j, rfl⟩ := Nat.exists_eq_add_of_le (Nat.le_of_not_lt hlt)
      rw [List.length_append] at hi
      rw [markAt?_append hrest]
      exact ih j (by omega)
  induction h generalizing i with
  | nil => exact absurd hi (Nat.not_lt_zero i)
  | narrow hwidth hrest ih => exact hstep (isCharacter_narrow hwidth) hrest (fun j hj => ih hj) hi
  | wide hwidth hrest ih => exact hstep (isCharacter_wide hwidth) hrest (fun j hj => ih hj) hi

/-- The picture of the same cells. -/
theorem Draws.of_iff {drawn drawn' : Nat → Prop} {row col : Nat} {g g' : Glass}
    (h : Draws drawn row col cells g g') (hiff : ∀ i < cells.length, (drawn i ↔ drawn' i)) :
    Draws drawn' row col cells g g' where
  shown i mark hmark hdrawn := h.shown i mark hmark ((hiff i (lt_of_markAt? hmark)).2 hdrawn)
  kept r c hc := h.kept r c fun hr i hi heq hdrawn => hc hr i hi heq ((hiff i hi).1 hdrawn)

/-- A picture of cells that are not drawn differs on some glass. -/
theorem Draws.imp_of_forall {drawn drawn' : Nat → Prop} {row col : Nat} {after : Glass → Glass}
    (hcells : WellFormed cells) (h : ∀ g, Draws drawn row col cells g (after g))
    (h' : ∀ g, Draws drawn' row col cells g (after g)) {i : Nat} (hi : i < cells.length)
    (hdrawn' : drawn' i) : drawn i := by
  obtain ⟨mark, hmark⟩ := hcells.exists_mark hi
  by_contra hdrawn
  -- before it was drawn on, the column shows another part of the text
  let g : Glass := ⟨fun _ _ => { mark with part := mark.part + 1 }, 0, 0, .plain⟩
  have hkept : (after g).marks row (col + i) = { mark with part := mark.part + 1 } := by
    refine (h g).kept row (col + i) fun _ j _ heq hj => ?_
    obtain rfl := Nat.add_left_cancel heq
    exact hdrawn hj
  rw [(h' g).shown i mark hmark hdrawn'] at hkept
  exact absurd (congrArg Mark.part hkept) (Nat.ne_of_lt (Nat.lt_succ_self _))

/-- **Drawing cells** from a position within the size last asked for draws exactly the cells that
are reached. These are all that fit if and only if every cell that fits is reached. -/
theorem putCells_draws (s : Surface) (start : Position) {cells : List Cell}
    (hcells : WellFormed cells) (hrow : start.row < s.seen.rows) (hcol : start.col < s.seen.cols) :
    Display.draw (.putCells start cells) s = (.ok (), s.holdAll (row s.seen start cells)) ∧
      RowDraws s.seen start cells Reached ∧
      (RowDraws s.seen start cells Fits ↔
        ∀ i < cells.length, Fits s.seen.cols.toNat start.col.toNat cells i →
          Reached s.seen.cols.toNat start.col.toNat cells i) := by
  have hreached := rowDraws_reached hcells hrow hcol
  refine ⟨rfl, hreached, ?_, ?_⟩
  · intro hfits i hi hfit
    exact Draws.imp_of_forall hcells hreached hfits hi hfit
  · intro hall g
    exact (hreached g).of_iff fun i hi => ⟨fun h => h.fits, hall i hi⟩

/-- Two wide characters with their right halves. -/
def twoWide : List Cell :=
  [.drawn ['日'] .plain, .continuation .plain, .drawn ['本'] .plain, .continuation .plain]

theorem wellFormed_twoWide : WellFormed twoWide :=
  .wide (by decide +kernel) (.wide (by decide +kernel) .nil)

/-- On a display of five columns both characters are reached and drawn. -/
theorem putCells_draws_twoWide :
    WellFormed twoWide ∧ (0 : Coord) < 3 ∧ (0 : Coord) < 5 ∧
      RowDraws ⟨3, 5⟩ ⟨0, 0⟩ twoWide Reached :=
  ⟨wellFormed_twoWide, by decide, by decide,
    (putCells_draws { window := ⟨3, 5⟩, seen := ⟨3, 5⟩ } ⟨0, 0⟩ wellFormed_twoWide (by decide)
      (by decide)).2.1⟩

/-- **Not all cells that fit are drawn**: of two wide characters on four columns the second is not.
-/
theorem putCells_draws_less :
    ¬ ∀ (s : Surface) (start : Position) (cells : List Cell), WellFormed cells →
      start.row < s.seen.rows → start.col < s.seen.cols → RowDraws s.seen start cells Fits := by
  intro h
  have hdraws := h { window := ⟨3, 4⟩, seen := ⟨3, 4⟩ } ⟨0, 0⟩ twoWide wellFormed_twoWide
    (by decide) (by decide) ⟨fun _ _ => ⟨[' '], .plain, 0⟩, 0, 0, .plain⟩
  have hfits : Fits 4 0 twoWide 2 := by
    unfold Fits
    decide +kernel
  have hshown := hdraws.shown 2 ⟨['本'], .plain, 0⟩ rfl hfits
  revert hshown
  decide +kernel

end FramedShell.Terminal
