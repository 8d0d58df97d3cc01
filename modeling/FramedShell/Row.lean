import FramedShell.Cell

/-!
# Fitting a row to a width

`Row.fit` cuts a row of cells to a number of columns or fills it up with blanks. A wide character of
which the cut leaves only the left half becomes a space in its style, so that no row draws beyond its
last column.
-/

namespace FramedShell.Row

/-- The row with a wide character in its last cell replaced by a space. -/
def mend (cells : List Cell) : List Cell :=
  match cells.getLast? with
  | some last => if last.width > 1 then cells.dropLast ++ [Cell.space last.style] else cells
  | none => cells

/-- **The row fitted to `cols` columns**: cut, mended at the cut, and filled up with blanks. -/
def fit (cells : List Cell) (cols : Nat) : List Cell :=
  let kept := mend (cells.take cols)
  kept ++ List.replicate (cols - kept.length) Cell.blank

@[simp] theorem length_mend (cells : List Cell) : (mend cells).length = cells.length := by
  unfold mend
  split
  · rename_i last h
    have hne : cells ≠ [] := by
      rintro rfl
      simp at h
    have : 0 < cells.length := List.length_pos_iff.2 hne
    split
    · simp
      omega
    · rfl
  · rfl

@[simp] theorem length_fit (cells : List Cell) (cols : Nat) : (fit cells cols).length = cols := by
  simp only [fit, List.length_append, length_mend, List.length_take, List.length_replicate]
  omega

end FramedShell.Row
