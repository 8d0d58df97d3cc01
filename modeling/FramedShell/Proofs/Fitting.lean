import FramedShell.Row
import Mathlib.Algebra.Ring.Nat
import Mathlib.Data.List.Chain
import Mathlib.Data.List.Induction

/-!
# How many columns a fitted row takes

A row has as many cells as the screen has columns, while the columns that drawing it takes are the sum
of the widths of its cells. The two agree when every wide cell is followed by its right half and no
right half stands alone. Fitting needs a little less than that: a wide cell at the very end of a row may
lack its half, because fitting makes a space of it.

## Main definitions

* `Row.Paired` — wide cells and right halves come in pairs, up to a half cut off at the end;
* `Row.endsWide` — the last cell is a wide one.

## Main results

* `Row.sum_width` — a paired row takes a column for each cell, and one more if it ends in a wide cell;
* `Row.sum_width_fit` — a paired row fitted to a number of columns takes exactly that many.
-/

namespace FramedShell

namespace Cell

theorem one_le_width {c : Cell} (h : c.isContinuation = false) : 1 ≤ c.width := by
  cases c with
  | drawn text style => exact Nat.le_max_right _ _
  | continuation style => cases h

theorem width_of_isContinuation {c : Cell} (h : c.isContinuation = true) : c.width = 0 := by
  cases c with
  | drawn text style => cases h
  | continuation style => rfl

end Cell

namespace Row

/-- **A row in pairs**: no cell takes more than two columns, and the right halves are the cells after
those of two columns. At the end of the row the half of a wide cell may be missing. -/
structure Paired (cells : List Cell) : Prop where
  narrow : ∀ c ∈ cells, c.width ≤ 2
  opening : ∀ c ∈ cells.head?, c.isContinuation = false
  paired : cells.IsChain fun left right => right.isContinuation = true ↔ left.width = 2

/-- Whether the last cell of a row is a wide one. -/
def endsWide (cells : List Cell) : Bool := cells.getLast?.any fun c => decide (1 < c.width)

@[simp] theorem endsWide_append_singleton (cells : List Cell) (c : Cell) :
    endsWide (cells ++ [c]) = decide (1 < c.width) := by
  unfold endsWide
  rw [List.getLast?_append_of_ne_nil _ (List.cons_ne_nil c []), List.getLast?_singleton,
    Option.any_some]

theorem Paired.take {cells : List Cell} (h : Paired cells) (n : Nat) : Paired (cells.take n) where
  narrow c hc := h.narrow c (List.mem_of_mem_take hc)
  opening c hc := by
    rw [List.head?_take] at hc
    split at hc
    · cases hc
    · exact h.opening c hc
  paired := h.paired.take n

theorem Paired.init {cells : List Cell} {c : Cell} (h : Paired (cells ++ [c])) : Paired cells := by
  have htake := h.take cells.length
  rwa [List.take_left] at htake

/-- **The last cell of a row in pairs** is a right half if the cell before it is a wide one, and only
then. -/
theorem Paired.isContinuation_last {cells : List Cell} {c : Cell} (h : Paired (cells ++ [c])) :
    c.isContinuation = endsWide cells := by
  cases hlast : cells.getLast? with
  -- the last cell is the only one, and a row in pairs does not open with a right half
  | none =>
    obtain rfl := List.getLast?_eq_none_iff.1 hlast
    exact h.opening c rfl
  | some last =>
    have hpair := (List.isChain_append.1 h.paired).2.2 last hlast c rfl
    have hnarrow : last.width ≤ 2 := h.init.narrow last (List.mem_of_getLast? hlast)
    unfold endsWide
    rw [hlast, Option.any_some, Bool.eq_iff_iff, hpair, decide_eq_true_iff]
    omega

/-- **A row in pairs takes a column for each of its cells**, and one more if it ends in a wide cell. -/
theorem sum_width {cells : List Cell} (h : Paired cells) :
    (cells.map Cell.width).sum = cells.length + (endsWide cells).toNat := by
  induction cells using List.reverseRecOn with
  | nil => rfl
  | append_singleton cells c ih =>
    have hsum := ih h.init
    have hlast := h.isContinuation_last
    have hnarrow : c.width ≤ 2 := h.narrow c (List.mem_append_right _ (List.mem_singleton_self c))
    rw [List.map_append, List.sum_append, hsum, List.map_singleton, List.sum_singleton,
      endsWide_append_singleton, List.length_append, List.length_singleton]
    -- a right half takes the column that the wide cell before it has taken already
    cases hwide : endsWide cells with
    | true =>
      have hwidth := Cell.width_of_isContinuation (hlast.trans hwide)
      rw [hwidth]
      rfl
    | false =>
      have hwidth := Cell.one_le_width (hlast.trans hwide)
      obtain hone | htwo : c.width = 1 ∨ c.width = 2 := by omega
      · rw [hone]
        rfl
      · rw [htwo]
        rfl

/-- **Mending the end of a row in pairs** leaves it with one column for each cell. -/
theorem sum_width_mend {cells : List Cell} (h : Paired cells) :
    ((mend cells).map Cell.width).sum = cells.length := by
  obtain rfl | ⟨init, c, rfl⟩ := List.eq_nil_or_concat' cells
  · rfl
  have hsum := sum_width h
  unfold mend
  rw [List.getLast?_concat]
  dsimp only
  split
  -- the last cell is a wide one, and a space takes its place
  next hwide =>
    -- before a wide cell there is no other one, so only its own second column was in excess
    have hopen : endsWide init = false := by
      rw [← h.isContinuation_last]
      cases c with
      | drawn text style => rfl
      | continuation style => cases hwide
    have hinit := sum_width h.init
    rw [hopen] at hinit
    rw [List.dropLast_concat, List.map_append, List.sum_append, hinit, List.map_singleton,
      Cell.width_space, List.length_append]
    rfl
  -- the last cell stays, and a row that does not end in a wide cell takes no column more
  next hnarrow =>
    rw [endsWide_append_singleton, decide_eq_false hnarrow] at hsum
    exact hsum

/-- **A row in pairs fitted to a number of columns takes exactly that many.** -/
theorem sum_width_fit {cells : List Cell} (h : Paired cells) (cols : Nat) :
    ((fit cells cols).map Cell.width).sum = cols := by
  unfold fit
  rw [List.map_append, List.sum_append, sum_width_mend (h.take cols), length_mend,
    List.map_replicate, Cell.width_blank, List.sum_replicate_nat, List.length_take]
  omega

end Row

end FramedShell
