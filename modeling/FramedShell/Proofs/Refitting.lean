import FramedShell.Proofs.Fitting

/-!
# Fitting a row again

The viewport and the screen behind it need not have the same size, so a row that was fitted once is
fitted again whenever it is drawn. The order of the widths does not matter then: fitting to a number of
columns and to fewer afterwards is fitting to the fewer at once. What a fit changes is the last cell that
it keeps, and nothing but that.

Everything is read off the columns of a fitted row (`getElem?_fit`). A column shows the cell of the row,
or a blank after its last one; only where the fitted row or the row itself ends is a wide cell made
narrow. A second fit to fewer columns meets the first end of the two again, or an end before it.

## Main definitions

* `Cell.narrowed` — a cell with room for one column only;
* `Row.column` — what a row shows in a column;
* `Row.Fitted` — a row that differs from another one in its last kept cell and by blanks;
* `Row.Complete` — rows in which wide cells and right halves come in pairs.

## Main results

* `Row.fit_fit` — two fits are one;
* `Row.fitted_fit` — what a fit keeps, what it changes and what it adds;
* `Row.Complete.fit` — a fit splits no pair;
* `Row.fit_composes` — the three together.
-/

namespace FramedShell

/-! ### Room for one column -/

namespace Cell

/-- **The cell with room for one column only**: a wide one becomes a space in its style. -/
def narrowed (c : Cell) : Cell := if 1 < c.width then space c.style else c

theorem narrowed_of_wide {c : Cell} (h : 1 < c.width) : c.narrowed = space c.style := if_pos h

theorem narrowed_of_le {c : Cell} (h : c.width ≤ 1) : c.narrowed = c := if_neg (Nat.not_lt.2 h)

theorem width_narrowed_le (c : Cell) : c.narrowed.width ≤ 1 := by
  by_cases h : 1 < c.width
  · rw [narrowed_of_wide h, width_space]
  · have hle : c.width ≤ 1 := Nat.not_lt.1 h
    rwa [narrowed_of_le hle]

@[simp] theorem narrowed_narrowed (c : Cell) : c.narrowed.narrowed = c.narrowed :=
  narrowed_of_le c.width_narrowed_le

@[simp] theorem narrowed_blank : blank.narrowed = blank := narrowed_of_le (Nat.le_of_eq width_blank)

/-- A right half stays one, and no other cell becomes one. -/
@[simp] theorem isContinuation_narrowed (c : Cell) : c.narrowed.isContinuation = c.isContinuation := by
  -- only cells that are drawn can be wide, and a space is drawn like them
  by_cases h : 1 < c.width
  · rw [narrowed_of_wide h]
    cases c with
    | drawn text style => rfl
    | continuation style => exact absurd h (Nat.not_lt_zero 1)
  · rw [narrowed_of_le (Nat.not_lt.1 h)]

end Cell

namespace Row

/-! ### The columns of a fitted row -/

/-- **What a row shows in a column**: its cell, or a blank after the last one. -/
def column (cells : List Cell) (i : Nat) : Cell := cells[i]?.getD .blank

theorem column_of_getElem? {cells : List Cell} {i : Nat} {c : Cell} (h : cells[i]? = some c) :
    column cells i = c := by
  unfold column
  rw [h, Option.getD_some]

theorem column_of_length_le {cells : List Cell} {i : Nat} (h : cells.length ≤ i) :
    column cells i = .blank := by
  unfold column
  rw [List.getElem?_eq_none h, Option.getD_none]

/-- A column that does not show a blank shows a cell of the row. -/
theorem getElem?_of_column_ne {cells : List Cell} {i : Nat} (h : column cells i ≠ .blank) :
    cells[i]? = some (column cells i) := by
  cases hcell : cells[i]? with
  -- after the end of the row every column is blank
  | none => exact absurd (column_of_length_le (List.getElem?_eq_none_iff.1 hcell)) h
  | some c => rw [column_of_getElem? hcell]

theorem mend_concat (init : List Cell) (last : Cell) :
    mend (init ++ [last]) = init ++ [last.narrowed] := by
  unfold mend Cell.narrowed
  rw [List.getLast?_concat]
  dsimp only
  -- only a last cell that is wide is replaced
  split
  · rw [List.dropLast_concat]
  · rfl

/-- **Mending** makes the last cell narrow, and leaves the others as they are. -/
theorem getElem?_mend {cells : List Cell} {i : Nat} {c : Cell} (h : cells[i]? = some c) :
    (mend cells)[i]? = some (if i + 1 = cells.length then c.narrowed else c) := by
  obtain rfl | ⟨init, last, rfl⟩ := List.eq_nil_or_concat' cells
  · cases h
  rw [mend_concat, List.length_append, List.length_singleton]
  -- the place is before the last cell, its own, or after the end
  obtain hlt | rfl | hgt := Nat.lt_trichotomy i init.length
  · rw [List.getElem?_append_left hlt] at h ⊢
    rw [if_neg (by omega), h]
  · rw [List.getElem?_concat_length] at h ⊢
    rw [if_pos rfl, Option.some.inj h]
  · rw [List.getElem?_eq_none (by simp; omega)] at h
    cases h

/-- **The columns of a fitted row.** Where it ends, and where the row itself ends, a wide cell is made
narrow; after the end of the row there are blanks. -/
theorem getElem?_fit (cells : List Cell) {cols i : Nat} (h : i < cols) :
    (fit cells cols)[i]? = some
      (if i + 1 = cols ∨ i + 1 = cells.length then (column cells i).narrowed else column cells i) := by
  unfold fit
  dsimp only
  by_cases hi : i < cells.length
  · -- a cell that is kept, and the last one where the cut or the row ends
    have hkept : i < (mend (cells.take cols)).length := by
      rw [length_mend, List.length_take]
      omega
    have hcell : (cells.take cols)[i]? = some (column cells i) := by
      rw [List.getElem?_take_of_lt h, List.getElem?_eq_getElem hi,
        column_of_getElem? (List.getElem?_eq_getElem hi)]
    rw [List.getElem?_append_left hkept, getElem?_mend hcell, List.length_take]
    refine congrArg some (if_congr ?_ rfl rfl)
    omega
  · -- a blank after the end, which is narrow already
    have hle : cells.length ≤ i := Nat.le_of_not_lt hi
    have hadded : (mend (cells.take cols)).length ≤ i := by
      rw [length_mend, List.length_take]
      omega
    have hlt : i - (mend (cells.take cols)).length < cols - (mend (cells.take cols)).length := by
      omega
    rw [List.getElem?_append_right hadded, List.getElem?_replicate_of_lt hlt,
      column_of_length_le hle, Cell.narrowed_blank, ite_self]

/-- A column of a fitted row, as the fit made it. -/
theorem eq_of_getElem?_fit {cells : List Cell} {cols i : Nat} {c : Cell}
    (h : (fit cells cols)[i]? = some c) :
    i < cols ∧ c =
      if i + 1 = cols ∨ i + 1 = cells.length then (column cells i).narrowed else column cells i := by
  obtain ⟨hlt, -⟩ := List.getElem?_eq_some_iff.1 h
  rw [length_fit] at hlt
  rw [getElem?_fit cells hlt] at h
  exact ⟨hlt, (Option.some.inj h).symm⟩

/-- **Fitting to a number of columns and then to fewer** is fitting to the fewer. -/
theorem fit_fit (cells : List Cell) {a b : Nat} (h : b ≤ a) : fit (fit cells a) b = fit cells b := by
  apply List.ext_getElem?
  intro i
  by_cases hi : i < b
  · have hcolumn := column_of_getElem? (getElem?_fit cells (Nat.lt_of_lt_of_le hi h))
    rw [getElem?_fit _ hi, getElem?_fit _ hi, hcolumn, length_fit]
    refine congrArg some ?_
    by_cases hcut : i + 1 = b
    · -- at the cut the cell is made narrow, if it was not before
      rw [if_pos (show i + 1 = b ∨ i + 1 = a from .inl hcut),
        if_pos (show i + 1 = b ∨ i + 1 = cells.length from .inl hcut)]
      split
      · exact Cell.narrowed_narrowed _
      · rfl
    · -- before it the first fit can only have ended together with the row
      have hbefore : ¬ i + 1 = a := by omega
      have hend : (i + 1 = a ∨ i + 1 = cells.length) ↔ (i + 1 = b ∨ i + 1 = cells.length) := by
        rw [or_iff_right hbefore, or_iff_right hcut]
      rw [if_neg (not_or.2 ⟨hcut, hbefore⟩)]
      exact if_congr hend rfl rfl
  · -- after the end of both there is nothing
    have hle : b ≤ i := Nat.le_of_not_lt hi
    rw [List.getElem?_eq_none (by rwa [length_fit]), List.getElem?_eq_none (by rwa [length_fit])]

/-! ### What a fit changes -/

/-- **A row that is fitted**: of another row it keeps all cells that it has room for, the last of them
made narrow, and it has blanks after them. -/
structure Fitted (cells : List Cell) (cols : Nat) (row : List Cell) : Prop where
  length_eq : row.length = cols
  narrow_last : ∀ last ∈ row.getLast?, last.width ≤ 1
  kept : ∀ i, i + 1 < min cols cells.length → row[i]? = cells[i]?
  cut : ∀ i c, i + 1 = min cols cells.length → cells[i]? = some c →
    c.width ≤ 1 ∧ row[i]? = some c ∨ 1 < c.width ∧ row[i]? = some (.space c.style)
  added : ∀ i, cells.length ≤ i → i < cols → row[i]? = some .blank

/-- **A fit changes the last cell that it keeps**, and adds blanks. -/
theorem fitted_fit (cells : List Cell) (cols : Nat) : Fitted cells cols (fit cells cols) where
  length_eq := length_fit cells cols
  narrow_last last hlast := by
    -- the last cell stands at the cut, where the fit has made it narrow
    rw [List.getLast?_eq_getElem?, length_fit] at hlast
    obtain ⟨hlt, rfl⟩ := eq_of_getElem?_fit (Option.mem_def.1 hlast)
    rw [if_pos (.inl (by omega))]
    exact Cell.width_narrowed_le _
  kept i h := by
    -- before the cut and before the end nothing is made narrow
    have hi : i < cells.length := by omega
    rw [getElem?_fit cells (by omega), if_neg (by omega), List.getElem?_eq_getElem hi,
      column_of_getElem? (List.getElem?_eq_getElem hi)]
  cut i c h hc := by
    rw [getElem?_fit cells (by omega), if_pos (by omega), column_of_getElem? hc]
    -- at the cut the cell stays, if it has room in one column
    by_cases hwide : 1 < c.width
    · rw [Cell.narrowed_of_wide hwide]
      exact .inr ⟨hwide, rfl⟩
    · have hle : c.width ≤ 1 := Nat.not_lt.1 hwide
      rw [Cell.narrowed_of_le hle]
      exact .inl ⟨hle, rfl⟩
  added i hle h := by
    rw [getElem?_fit cells h, column_of_length_le hle, Cell.narrowed_blank, ite_self]

/-! ### Complete rows -/

/-- **A complete row**: no cell takes more than two columns, every cell of two columns is followed by its
right half, and every right half follows such a cell. -/
structure Complete (cells : List Cell) : Prop where
  narrow : ∀ c ∈ cells, c.width ≤ 2
  followed : ∀ i c, cells[i]? = some c → c.width = 2 →
    ∃ half, cells[i + 1]? = some half ∧ half.isContinuation = true
  preceded : ∀ i half, cells[i]? = some half → half.isContinuation = true →
    ∃ j c, i = j + 1 ∧ cells[j]? = some c ∧ c.width = 2

/-- A complete row is a row in pairs of which no half is cut off. -/
theorem Complete.paired {cells : List Cell} (h : Complete cells) : Paired cells where
  narrow := h.narrow
  -- a right half at the beginning would follow no cell
  opening c hc := by
    rw [List.head?_eq_getElem?] at hc
    by_contra hhalf
    obtain ⟨j, _, hj, -⟩ := h.preceded 0 c hc (eq_true_of_ne_false hhalf)
    exact absurd hj (Nat.succ_ne_zero j).symm
  paired := by
    rw [List.isChain_iff_getElem]
    -- the two cells of a link are the cell at `i` and the one after it
    intro i hi
    have hleft : cells[i]? = some cells[i] := List.getElem?_eq_getElem _
    have hright : cells[i + 1]? = some cells[i + 1] := List.getElem?_eq_getElem hi
    constructor
    · intro hhalf
      obtain ⟨j, c, hj, hc, hwidth⟩ := h.preceded (i + 1) _ hright hhalf
      obtain rfl : i = j := Nat.succ.inj hj
      rw [hleft] at hc
      rwa [Option.some.inj hc]
    · intro hwidth
      obtain ⟨half, hhalf, hcontinuation⟩ := h.followed i _ hleft hwidth
      rw [hright] at hhalf
      rwa [Option.some.inj hhalf]

/-- **A fit splits no pair.** At the cut a wide cell becomes a space, and everywhere else its half is kept
with it. -/
theorem Complete.fit {cells : List Cell} (h : Complete cells) (cols : Nat) :
    Complete (fit cells cols) where
  narrow c hc := by
    obtain ⟨i, hi⟩ := List.getElem?_of_mem hc
    obtain ⟨-, rfl⟩ := eq_of_getElem?_fit hi
    split
    · -- where the fit has made a cell narrow it takes one column at most
      exact Nat.le_succ_of_le (Cell.width_narrowed_le _)
    · -- elsewhere it is a cell of the row, or a blank behind it
      by_cases hblank : column cells i = .blank
      · rw [hblank, Cell.width_blank]
        exact Nat.le_succ 1
      · exact h.narrow _ (List.mem_of_getElem? (getElem?_of_column_ne hblank))
  followed i c hc hwidth := by
    obtain ⟨hlt, rfl⟩ := eq_of_getElem?_fit hc
    split at hwidth
    · -- neither row ends in a wide cell
      exact absurd hwidth (Nat.ne_of_lt (Nat.lt_succ_of_le (Cell.width_narrowed_le _)))
    · rename_i hend
      obtain ⟨hcut, -⟩ := not_or.1 hend
      have hblank : column cells i ≠ .blank := by
        intro heq
        rw [heq, Cell.width_blank] at hwidth
        exact absurd hwidth (by decide)
      obtain ⟨half, hhalf, hcontinuation⟩ := h.followed i _ (getElem?_of_column_ne hblank) hwidth
      have hle : half.width ≤ 1 := by
        rw [Cell.width_of_isContinuation hcontinuation]
        exact Nat.zero_le 1
      refine ⟨half, ?_, hcontinuation⟩
      rw [getElem?_fit cells (by omega), column_of_getElem? hhalf, Cell.narrowed_of_le hle, ite_self]
  preceded i half hhalf hcontinuation := by
    obtain ⟨hlt, rfl⟩ := eq_of_getElem?_fit hhalf
    have hcolumn : (column cells i).isContinuation = true := by
      -- a cell that is made narrow is a right half only if it was one before
      split at hcontinuation
      · rwa [Cell.isContinuation_narrowed] at hcontinuation
      · exact hcontinuation
    -- a blank is no right half, so the column shows a cell of the row
    have hblank : column cells i ≠ .blank := by
      intro heq
      rw [heq] at hcolumn
      cases hcolumn
    have hcell := getElem?_of_column_ne hblank
    obtain ⟨hi, -⟩ := List.getElem?_eq_some_iff.1 hcell
    obtain ⟨j, c, rfl, hc, hwidth⟩ := h.preceded i _ hcell hcolumn
    -- the wide cell is neither the last one of its row nor the last one that is kept
    refine ⟨j, c, rfl, ?_, hwidth⟩
    rw [getElem?_fit cells (by omega), if_neg (by omega), column_of_getElem? hc]

/-- Complete rows side by side are a complete row. -/
theorem Complete.append {first rest : List Cell} (h : Complete first) (h' : Complete rest) :
    Complete (first ++ rest) where
  narrow c hc := by
    obtain hc | hc := List.mem_append.1 hc
    · exact h.narrow c hc
    · exact h'.narrow c hc
  followed i c hc hwidth := by
    -- a wide cell of the first row has its half there, since the row is complete by itself
    by_cases hi : i < first.length
    · rw [List.getElem?_append_left hi] at hc
      obtain ⟨half, hhalf, hcontinuation⟩ := h.followed i c hc hwidth
      obtain ⟨hnext, -⟩ := List.getElem?_eq_some_iff.1 hhalf
      exact ⟨half, (List.getElem?_append_left hnext).trans hhalf, hcontinuation⟩
    · -- a cell of the second row keeps its distance from the half
      obtain ⟨j, rfl⟩ := Nat.exists_eq_add_of_le (Nat.le_of_not_lt hi)
      rw [List.getElem?_append_right (Nat.le_add_right _ _), Nat.add_sub_cancel_left] at hc
      obtain ⟨half, hhalf, hcontinuation⟩ := h'.followed j c hc hwidth
      refine ⟨half, ?_, hcontinuation⟩
      rwa [Nat.add_assoc, List.getElem?_append_right (Nat.le_add_right _ _), Nat.add_sub_cancel_left]
  preceded i half hhalf hcontinuation := by
    -- a right half in the first row follows a cell of the first row
    by_cases hi : i < first.length
    · rw [List.getElem?_append_left hi] at hhalf
      obtain ⟨j, c, rfl, hc, hwidth⟩ := h.preceded i half hhalf hcontinuation
      exact ⟨j, c, rfl, (List.getElem?_append_left (by omega)).trans hc, hwidth⟩
    · obtain ⟨k, rfl⟩ := Nat.exists_eq_add_of_le (Nat.le_of_not_lt hi)
      rw [List.getElem?_append_right (Nat.le_add_right _ _), Nat.add_sub_cancel_left] at hhalf
      obtain ⟨j, c, rfl, hc, hwidth⟩ := h'.preceded k half hhalf hcontinuation
      refine ⟨first.length + j, c, (Nat.add_assoc _ _ _).symm, ?_, hwidth⟩
      rwa [List.getElem?_append_right (Nat.le_add_right _ _), Nat.add_sub_cancel_left]

theorem complete_nil : Complete [] where
  narrow _ hc := absurd hc List.not_mem_nil
  followed _ _ hc := nomatch hc
  preceded _ _ hhalf := nomatch hhalf

/-- The cell of one column, or the wide cell and its right half, that draw one character. -/
theorem complete_ofChar (style : Style) (c : Char) : Complete (Cell.ofChar style c) := by
  have hle : (Text.charWidth c).getD 1 ≤ 2 := by
    cases hwidth : Text.charWidth c with
    | none => exact Nat.le_succ 1
    | some n => exact Text.charWidth_le_two hwidth
  have hdrawn : (Cell.drawn [c] style).width = max ((Text.charWidth c).getD 1) 1 := rfl
  unfold Cell.ofChar
  split
  · -- a wide character: the wide cell and one right half
    rename_i hwide
    have hwidth : (Cell.drawn [c] style).width = 2 := by rw [hdrawn, hwide]; rfl
    refine ⟨?_, ?_, ?_⟩
    · rw [List.forall_mem_cons, List.forall_mem_singleton]
      exact ⟨Nat.le_of_eq hwidth, Nat.zero_le 2⟩
    · rintro (_ | _ | i) cell hcell hcellWidth
      · exact ⟨.continuation style, rfl, rfl⟩
      · cases hcell
        cases hcellWidth
      · cases hcell
    · rintro (_ | _ | i) half hhalf hcontinuation
      · cases hhalf
        cases hcontinuation
      · exact ⟨0, .drawn [c] style, rfl, rfl, hwidth⟩
      · cases hhalf
  · -- any other character has one cell, which is neither wide nor a half
    rename_i hnarrow
    refine ⟨?_, ?_, ?_⟩
    · rw [List.forall_mem_singleton, hdrawn]
      omega
    · rintro (_ | i) cell hcell hcellWidth
      · cases hcell
        omega
      · cases hcell
    · rintro (_ | i) half hhalf hcontinuation
      · cases hhalf
        cases hcontinuation
      · cases hhalf

/-- **The cells of a text are a complete row.** -/
theorem complete_ofText (text : List Char) (style : Style) : Complete (Cell.ofText text style) := by
  induction text with
  | nil => exact complete_nil
  -- the characters of the text lie side by side
  | cons c text ih => exact (complete_ofChar style c).append ih

/-- **Fitting composes, and disturbs only the cut.** A row fitted twice is the row fitted to the smaller
width; a fit changes no more than the last cell that it keeps; and of a complete row it makes a complete
one that takes exactly the columns it was fitted to. -/
theorem fit_composes (cells : List Cell) :
    (∀ a b, b ≤ a → fit (fit cells a) b = fit cells b) ∧
      ∀ cols, Fitted cells cols (fit cells cols) ∧
        (Complete cells → Complete (fit cells cols) ∧ ((fit cells cols).map Cell.width).sum = cols) := by
  constructor
  · intro a b h
    exact fit_fit cells h
  · intro cols
    refine ⟨fitted_fit cells cols, fun h => ⟨h.fit cols, ?_⟩⟩
    exact sum_width_fit h.paired cols

/-- The right half of a wide character is cut off, and then a column more. -/
theorem fit_composes_halved :
    let row := Cell.ofText ['a', '日', 'b'] .plain
    2 ≤ 3 ∧ fit (fit row 3) 2 = fit row 2 ∧ Complete row ∧ Complete (fit row 2) ∧
      ((fit row 2).map Cell.width).sum = 2 := by
  intro row
  obtain ⟨htwice, hfits⟩ := fit_composes row
  have hrow : Complete row := complete_ofText _ _
  exact ⟨by decide, htwice 3 2 (by decide), hrow, (hfits 2).2 hrow⟩

end Row

end FramedShell
