import FramedShell.Proofs.Buffer
import FramedShell.Proofs.Glass

/-!
# Nothing is drawn past the right edge

Cells come in any order: wide ones without their right half, right halves by themselves, texts without
a column or of several characters. What is drawn then need not look like the cells, but it stays within
the size that the terminal had when it was last asked for.

Two counters are compared. The surface counts columns to decide where a row ends; the cursor of the
terminal advances by the columns of the texts that are printed. The first is never behind the second: a
text without a column is counted as one, and a right half is counted although nothing is printed for it.
So what is printed takes no more columns than the surface had left (`columns_glyphs_le`). What the
cursor passes over is all that changes (`Advances`), and none of it is past the edge.

## Main definitions

* `columns` — the columns of all texts that are printed;
* `Advances` — a glass on which the cursor passed over some columns, and nothing else changed;
* `Operation.answers` — the sizes that a surface was told along its calls;
* `Contained` — instructions that stay within a size.

## Main results

* `columns_glyphs_le` — the bound;
* `seen_runAll` — what a surface takes for the size of the terminal is the last answer;
* `row_contained` — drawing cells stays within it, after any calls.
-/

namespace FramedShell.Terminal

/-! ### Columns that are printed -/

/-- The columns of the text that an instruction prints. -/
def Instruction.columns : Instruction → Nat
  | .print text => Text.textWidth text
  | _ => 0

/-- The columns of all texts that are printed. -/
def columns : List Instruction → Nat
  | [] => 0
  | i :: rest => i.columns + columns rest

theorem columns_append (first rest : List Instruction) :
    columns (first ++ rest) = columns first + columns rest := by
  -- the columns add up instruction by instruction
  induction first with
  | nil => exact (Nat.zero_add _).symm
  | cons i first ih =>
    show i.columns + columns (first ++ rest) = i.columns + columns first + columns rest
    rw [ih, Nat.add_assoc]

/-- **An instruction that stays in its row** prints at the cursor, or nothing at all. -/
def Instruction.IsInline : Instruction → Prop
  | .moveTo _ => False
  | .clearScreen => False
  | _ => True

/-- Setting a style prints nothing. -/
theorem inline_setStyle (style : Style) :
    ∀ i ∈ Instruction.setStyle style, i.IsInline ∧ i.columns = 0 :=
  Instruction.forall_mem_setStyle ⟨trivial, rfl⟩ ⟨trivial, rfl⟩ ⟨trivial, rfl⟩ ⟨trivial, rfl⟩
    ⟨trivial, rfl⟩ (fun _ => ⟨trivial, rfl⟩) (fun _ => ⟨trivial, rfl⟩) style

theorem columns_eq_zero {instructions : List Instruction} (h : ∀ i ∈ instructions, i.columns = 0) :
    columns instructions = 0 := by
  induction instructions with
  | nil => rfl
  | cons i rest ih =>
    obtain ⟨hi, hrest⟩ := List.forall_mem_cons.1 h
    show i.columns + columns rest = 0
    rw [hi, ih hrest]

/-! ### What the cursor passes over -/

namespace Glass

/-- **The cursor has passed over `n` columns** of its row, and nothing else is shown differently. -/
structure Advances (n : Nat) (before after : Glass) : Prop where
  row_eq : after.row = before.row
  col_eq : after.col = before.col + n
  kept : ∀ r c, ¬ (r = before.row ∧ before.col ≤ c ∧ c < before.col + n) →
    after.marks r c = before.marks r c

variable {g g' g'' : Glass}

/-- Columns are passed over one after the other. -/
theorem Advances.trans {n m : Nat} (h : Advances n g g') (h' : Advances m g' g'') :
    Advances (n + m) g g'' where
  row_eq := h'.row_eq.trans h.row_eq
  col_eq := by rw [h'.col_eq, h.col_eq, Nat.add_assoc]
  kept r c hnot := by
    -- both stretches lie in the one that they make up
    have hfirst : ¬ (r = g.row ∧ g.col ≤ c ∧ c < g.col + n) := by
      rintro ⟨hr, hle, hlt⟩
      exact hnot ⟨hr, hle, by omega⟩
    have hsecond : ¬ (r = g'.row ∧ g'.col ≤ c ∧ c < g'.col + m) := by
      rw [h.row_eq, h.col_eq]
      rintro ⟨hr, hle, hlt⟩
      exact hnot ⟨hr, by omega, by omega⟩
    rw [h'.kept r c hsecond, h.kept r c hfirst]

/-- **An instruction that stays in its row** lets the cursor pass over the columns that it prints. -/
theorem advances_obey {i : Instruction} (h : i.IsInline) (g : Glass) :
    Advances i.columns g (g.obey i) := by
  cases i with
  -- these two do not stay in their row
  | moveTo place => exact h.elim
  | clearScreen => exact h.elim
  -- what is outside of the stretch is no column of the text
  | print text =>
    refine ⟨rfl, rfl, fun r c hnot => marks_print_of_other g text ?_⟩
    intro hr k hk heq
    refine hnot ⟨hr, ?_, ?_⟩
    · omega
    · show c < g.col + Text.textWidth text
      omega
  -- the others change the style, or nothing that the glass shows
  | resetStyle | bold | italic | underline | inverse | foreground color | background color
  | showCursor | hideCursor | enterAlternateScreen | leaveAlternateScreen | disableWrap | enableWrap
  | title text => exact ⟨rfl, rfl, fun _ _ _ => rfl⟩

theorem advances_obeyAll {instructions : List Instruction} (h : ∀ i ∈ instructions, i.IsInline)
    (g : Glass) : Advances (columns instructions) g (g.obeyAll instructions) := by
  induction instructions generalizing g with
  | nil => exact ⟨rfl, rfl, fun _ _ _ => rfl⟩
  -- the stretch of the first instruction and that of the others lie side by side
  | cons i rest ih =>
    obtain ⟨hi, hrest⟩ := List.forall_mem_cons.1 h
    exact (advances_obey hi g).trans (ih hrest (g.obey i))

end Glass

/-! ### The cells of a row -/

namespace Surface

/-- **What is printed fits into the columns that were left.** A cell is counted as wide as its text at
least, so the count is never behind the cursor. -/
theorem columns_glyphs_le (cols : Nat) (current : Option Style) (x : Nat) (cells : List Cell) :
    columns (glyphs cols current x cells) ≤ cols - x := by
  fun_induction glyphs cols current x cells with
  -- an empty slice and a cell without room print nothing
  | case1 | case3 => exact Nat.zero_le _
  | case2 current x half rest ih =>
    -- a right half is counted, and nothing is printed for it
    calc columns (glyphs cols current (x + 1) rest) ≤ cols - (x + 1) := ih
      _ ≤ cols - x := Nat.sub_le_sub_left (Nat.le_succ x) cols
  -- a cell with room prints its text after its style, and the rest has what is left of the columns
  | case4 current x text style rest width hfits ih =>
    have hstyle : columns (if current = some style then [] else Instruction.setStyle style) = 0 := by
      split
      · rfl
      · exact columns_eq_zero fun i hi => (inline_setStyle style i hi).2
    have hwidth : Text.textWidth text ≤ width := Nat.le_max_left _ _
    rw [columns_append, hstyle, Nat.zero_add]
    show Text.textWidth text + columns (glyphs cols (some style) (x + width) rest) ≤ cols - x
    omega

/-- Instructions that stay within a size: outside of it there are none, no text ends past the right
edge, and nothing is shown differently below the last row or past the last column. -/
structure Contained (size : Size) (start : Position) (emitted : List Instruction) : Prop where
  silent : size.rows ≤ start.row ∨ size.cols ≤ start.col → emitted = []
  bounded : ∀ before text after, emitted = before ++ .print text :: after →
    start.col.toNat + columns (before ++ [.print text]) ≤ size.cols.toNat
  kept : ∀ (g : Glass) (r c : Nat), size.rows.toNat ≤ r ∨ size.cols.toNat ≤ c →
    (g.obeyAll emitted).marks r c = g.marks r c

/-- **A row stays within the size**, whatever its cells are. -/
theorem contained_row (size : Size) (start : Position) (cells : List Cell) :
    Contained size start (row size start cells) := by
  by_cases hout : size.rows ≤ start.row ∨ size.cols ≤ start.col
  · -- outside of the size nothing is sent at all
    have hrow : row size start cells = [] := if_pos hout
    rw [hrow]
    exact ⟨fun _ => rfl, fun before text after h => absurd h (by simp), fun _ _ _ _ => rfl⟩
  · -- the place, the cells, and the plain style in the end
    obtain ⟨hrow, hcol⟩ := not_or.1 hout
    have hrow : start.row.toNat < size.rows.toNat := Nat.lt_of_not_le hrow
    have hcol : start.col.toNat < size.cols.toNat := Nat.lt_of_not_le hcol
    have hdrawn : row size start cells = .moveTo start ::
        glyphs size.cols.toNat none start.col.toNat cells ++ [.resetStyle, .resetStyle] := if_neg hout
    have hle := columns_glyphs_le size.cols.toNat none start.col.toNat cells
    refine ⟨fun h => absurd h hout, ?_, ?_⟩
    · intro before text after h
      -- what is printed up to a text is not more than what is printed in all
      have htotal : columns (before ++ .print text :: after)
          = columns (glyphs size.cols.toNat none start.col.toNat cells) := by
        rw [← h, hdrawn, columns_append]
        show 0 + columns _ + 0 = _
        rw [Nat.zero_add, Nat.add_zero]
      rw [List.append_cons, columns_append] at htotal
      omega
    · -- the cursor passes over columns of one row only, and these are within the size
      intro g r c h
      rw [hdrawn, List.cons_append, Glass.obeyAll_cons, Glass.obeyAll_append]
      have hinline : ∀ i ∈ glyphs size.cols.toNat none start.col.toNat cells, i.IsInline :=
        forall_mem_glyphs (fun style i hi => (inline_setStyle style i hi).1) (fun _ _ _ => trivial) _ _ _
      have hadvances := Glass.advances_obeyAll hinline (g.obey (.moveTo start))
      refine hadvances.kept r c ?_
      show ¬ (r = start.row.toNat ∧ start.col.toNat ≤ c ∧ c < start.col.toNat + _)
      omega

end Surface

/-! ### The size last asked for -/

namespace Operation

/-- The size that a call returns, if it asks for one. -/
def answer? (s : Surface) : Operation → Option Size
  | askSize => (Display.size s).1.toOption
  | _ => none

/-- **The sizes that are returned** along several calls, oldest first. -/
def answers (s : Surface) : List Operation → List Size
  | [] => []
  | o :: rest => (o.answer? s).toList ++ answers (o.run s) rest

end Operation

namespace Surface

theorem seen_hold (s : Surface) (i : Instruction) : (s.hold i).seen = s.seen := by
  unfold hold makeRoom flush
  dsimp only
  -- neither flushing nor holding looks at the size
  split <;> split <;> rfl

/-- A call changes the size that is remembered only if it returns one. -/
theorem seen_run (s : Surface) (o : Operation) : (o.run s).seen = (o.answer? s).getD s.seen := by
  cases o with
  | prepare => rfl
  | restore =>
    show s.restore.seen = s.seen
    unfold restore
    split <;> rfl
  | askSize => rfl
  | resize window => rfl
  -- the title and the strokes are instructions that are held
  | setTitle title => exact seen_hold s _
  | draw stroke =>
    show (s.draw stroke).2.seen = s.seen
    exact draw_keeps (fun s' i h => (seen_hold s' i).trans h) (fun _ => id) (fun _ _ => id) rfl stroke

/-- **The size that is remembered is the last one that was returned.** -/
theorem seen_runAll (s : Surface) (operations : List Operation) :
    (Operation.runAll s operations).seen
      = (Operation.answers s operations).getLast?.getD s.seen := by
  induction operations generalizing s with
  | nil => rfl
  | cons o rest ih =>
    show (Operation.runAll (o.run s) rest).seen = _
    rw [ih, seen_run, Operation.answers, List.getLast?_append]
    cases (Operation.answers (o.run s) rest).getLast? with
    | some size => rfl
    | none => cases o.answer? s <;> rfl

/-- **Cells are drawn within the size that was last returned**, no cells before that, after any calls
and whatever the cells are: that much is written, and it is contained. -/
theorem row_contained (window : Size) (operations : List Operation) (start : Position)
    (cells : List Cell) :
    let s := Operation.runAll { window := window } operations
    let size := (Operation.answers { window := window } operations).getLast?.getD ⟨0, 0⟩
    (s.draw (.putCells start cells)).1 = .ok () ∧
      (s.draw (.putCells start cells)).2.stream
        = s.stream ++ Rehearsal.bytesOf (row size start cells) ∧
      Contained size start (row size start cells) := by
  intro s size
  have hseen : s.seen = size := seen_runAll _ operations
  refine ⟨rfl, ?_, contained_row size start cells⟩
  rw [← hseen]
  exact ((isCounted_runAll window operations).holdAll _).2

/-- A text without a column is counted as one, and so is a right half: less is drawn than would fit. -/
example : columns (glyphs 3 none 0
    [.drawn [] .plain, .continuation .plain, .drawn ['a'] .plain, .drawn ['b'] .plain]) = 1 := by
  decide +kernel

end Surface

end FramedShell.Terminal
