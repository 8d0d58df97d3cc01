/-!
# Sizes, positions and rectangles on a character display

A display counts rows and columns in sixteen-bit words, as the window-size record of a terminal does.
Sums of such words either clamp at the largest word (`Coord.plus`) or are refused (`Coord.add?`,
`Position.at?`); which of the two is meant is part of each definition, so nothing wraps around.

## Contents

* `Coord` — one row or column number, with clamped and checked arithmetic;
* `Size`, `Position`, `Rect` — rows come first everywhere;
* `Rect.bottom`, `Rect.right` — the first row below and the first column right of a rectangle;
* `Rect.inner?` — the rectangle without its outermost ring of cells;
* `Rect.FitsIn`, `Rect.Contains` — the relation of a rectangle to a display and to a cell.

Each operation on words has a lemma that gives its value as a natural number.
-/

namespace FramedShell

/-- **A coordinate**: a row or column number, or a number of rows or columns, in one sixteen-bit word. -/
abbrev Coord := UInt16

namespace Coord

/-- The number of different coordinates. -/
def count : Nat := 65536

/-- The sum, clamped at the largest coordinate. -/
def plus (a b : Coord) : Coord := UInt16.ofNat (min (a.toNat + b.toNat) 65535)

/-- The difference, clamped at zero. -/
def minus (a b : Coord) : Coord := UInt16.ofNat (a.toNat - b.toNat)

/-- The smaller of two coordinates. -/
def least (a b : Coord) : Coord := if a ≤ b then a else b

/-- The coordinate of a natural number, if there is one. -/
def ofNat? (n : Nat) : Option Coord := if n < count then some (UInt16.ofNat n) else none

/-- The difference, if it is not negative. -/
def sub? (a b : Coord) : Option Coord := if b ≤ a then some (a.minus b) else none

theorem toNat_le (a : Coord) : a.toNat ≤ 65535 := by
  have := a.toNat_lt
  omega

@[simp] theorem toNat_plus (a b : Coord) : (a.plus b).toNat = min (a.toNat + b.toNat) 65535 := by
  simp only [plus, UInt16.toNat_ofNat']
  omega

@[simp] theorem toNat_minus (a b : Coord) : (a.minus b).toNat = a.toNat - b.toNat := by
  have := toNat_le a
  simp only [minus, UInt16.toNat_ofNat']
  omega

@[simp] theorem toNat_least (a b : Coord) : (a.least b).toNat = min a.toNat b.toNat := by
  unfold least
  split <;> rename_i h <;> rw [UInt16.le_iff_toNat_le] at h <;> omega

theorem sub?_eq_some {a b : Coord} (h : b.toNat ≤ a.toNat) : a.sub? b = some (a.minus b) := by
  simp [sub?, UInt16.le_iff_toNat_le, h]

theorem ofNat?_eq_some {n : Nat} (h : n < count) : ofNat? n = some (UInt16.ofNat n) := by
  simp [ofNat?, h]

theorem toNat_ofNat_of_lt {n : Nat} (h : n < count) : (UInt16.ofNat n).toNat = n := by
  simp only [UInt16.toNat_ofNat']
  exact Nat.mod_eq_of_lt h

end Coord

/-- **A size** in character cells. -/
structure Size where
  rows : Coord
  cols : Coord
deriving DecidableEq, Inhabited

/-- **A cell position**, counted from zero. -/
structure Position where
  row : Coord
  col : Coord
deriving DecidableEq, Inhabited

/-- The position with the given row and column, if both are coordinates. -/
def Position.at? (row col : Nat) : Option Position :=
  match Coord.ofNat? row, Coord.ofNat? col with
  | some r, some c => some ⟨r, c⟩
  | _, _ => none

/-- **A rectangle** of cells. -/
structure Rect where
  origin : Position
  size : Size
deriving DecidableEq, Inhabited

namespace Size

/-- A size without any cell. -/
def isEmpty (s : Size) : Bool := s.rows == 0 || s.cols == 0

/-- The size with both dimensions raised to at least one. -/
def atLeastOne (s : Size) : Size :=
  ⟨if s.rows = 0 then 1 else s.rows, if s.cols = 0 then 1 else s.cols⟩

/-- Whether the cell at row `r` and column `c` exists on a display of this size. -/
def Contains (s : Size) (r c : Nat) : Prop := r < s.rows.toNat ∧ c < s.cols.toNat

instance (s : Size) (r c : Nat) : Decidable (s.Contains r c) :=
  inferInstanceAs (Decidable (_ ∧ _))

/-- The customary text of a size: columns before rows. -/
def text (s : Size) : String := toString s.cols.toNat ++ "x" ++ toString s.rows.toNat

end Size

namespace Rect

/-- The rectangle with the given corner, rows and columns. -/
def of (row col rows cols : Coord) : Rect := ⟨⟨row, col⟩, ⟨rows, cols⟩⟩

/-- The first row below the rectangle. -/
def bottom (r : Rect) : Coord := r.origin.row.plus r.size.rows

/-- The first column right of the rectangle. -/
def right (r : Rect) : Coord := r.origin.col.plus r.size.cols

/-- A rectangle without any cell. -/
def isEmpty (r : Rect) : Bool := r.size.isEmpty

/-- The rectangle shrunk by one cell on every side; `none` when its corner would leave the range of
coordinates. -/
def inner? (r : Rect) : Option Rect :=
  (Position.at? (r.origin.row.toNat + 1) (r.origin.col.toNat + 1)).map fun origin =>
    ⟨origin, ⟨r.size.rows.minus 2, r.size.cols.minus 2⟩⟩

/-- Whether the rectangle lies entirely within a display of the given size. -/
def fitsIn (r : Rect) (display : Size) : Bool :=
  decide (r.bottom ≤ display.rows) && decide (r.right ≤ display.cols)

/-- Whether the cell at row `row` and column `col` lies in the rectangle. -/
def Contains (r : Rect) (row col : Nat) : Prop :=
  (r.origin.row.toNat ≤ row ∧ row < r.origin.row.toNat + r.size.rows.toNat) ∧
    r.origin.col.toNat ≤ col ∧ col < r.origin.col.toNat + r.size.cols.toNat

instance (r : Rect) (row col : Nat) : Decidable (r.Contains row col) :=
  inferInstanceAs (Decidable (_ ∧ _))

@[simp] theorem toNat_bottom (r : Rect) :
    r.bottom.toNat = min (r.origin.row.toNat + r.size.rows.toNat) 65535 :=
  Coord.toNat_plus _ _

@[simp] theorem toNat_right (r : Rect) :
    r.right.toNat = min (r.origin.col.toNat + r.size.cols.toNat) 65535 :=
  Coord.toNat_plus _ _

theorem fitsIn_iff (r : Rect) (display : Size) :
    r.fitsIn display = true ↔
      r.bottom.toNat ≤ display.rows.toNat ∧ r.right.toNat ≤ display.cols.toNat := by
  simp [fitsIn, UInt16.le_iff_toNat_le]

/-- The interior of a rectangle whose corner is not in the last row or column of coordinates. -/
theorem inner?_eq_some {r : Rect} (hr : r.origin.row.toNat < 65535) (hc : r.origin.col.toNat < 65535) :
    r.inner? = some
      ⟨⟨UInt16.ofNat (r.origin.row.toNat + 1), UInt16.ofNat (r.origin.col.toNat + 1)⟩,
        ⟨r.size.rows.minus 2, r.size.cols.minus 2⟩⟩ := by
  have h₁ : r.origin.row.toNat + 1 < Coord.count := by unfold Coord.count; omega
  have h₂ : r.origin.col.toNat + 1 < Coord.count := by unfold Coord.count; omega
  simp [inner?, Position.at?, Coord.ofNat?_eq_some h₁, Coord.ofNat?_eq_some h₂]

end Rect

end FramedShell
