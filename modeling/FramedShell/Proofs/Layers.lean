import FramedShell.Proofs.Strokes
import Mathlib.Data.Nat.Find

/-!
# Pictures in layers

A part of a picture covers some cells of the display and leaves the others alone. What it shows in
the cells that it covers is its *layer*. Of parts that are painted one after the other, a cell shows
the last one that covers it, so a picture is known cell by cell once the layer of each of its parts
is (`paints_append`).

The strokes of a part are cells in a row, texts in a row, and the same row by row; each of these has
its layer, clipped to the display. A text that is cut to some columns is the longest beginning of it
that takes no more (`takeColumns_eq_fitting`).

## Main definitions

* `Layer` — what a part of a picture shows, where it covers the display;
* `Paints` — strokes that paint a layer;
* `Text.fitting` — the longest beginning of a text that fits.
-/

namespace FramedShell

open Canvas

/-- **A layer**: what is shown in the cells that it covers, by row and column. -/
abbrev Layer := Nat → Nat → Option Cell

/-- A layer with another one below it. -/
def Layer.above (top bottom : Layer) : Layer := fun r c => (top r c).or (bottom r c)

/-- **Strokes paint a layer** on displays of a size: the cells that it covers, and no others. -/
def Paints (size : Size) (strokes : List Stroke) (layer : Layer) : Prop :=
  ∀ rows, Shaped size rows → ∀ r c, size.Contains r c →
    cellAt (strokes.foldl (strokedRows size) rows) r c = (layer r c).or (cellAt rows r c)

/-- Cells that are put cover their columns of their row, as far as the display goes. -/
theorem Canvas.Shaped.cellAt_putCells_of_contains {size : Size} {rows : List (List Cell)}
    (h : Shaped size rows) (start : Position) (cells : List Cell) {r c : Nat}
    (hin : size.Contains r c) :
    cellAt (strokedRows size rows (.putCells start cells)) r c
      = (if r = start.row.toNat ∧ start.col.toNat ≤ c then cells[c - start.col.toNat]?
          else none).or (cellAt rows r c) := by
  have hr : r < rows.length := by
    rw [h.length_eq]
    exact hin.1
  have hc : c < rows[r].length := by
    rw [h.length_row _ (List.getElem_mem hr)]
    exact hin.2
  unfold cellAt strokedRows
  rw [List.getElem?_modify, List.getElem?_eq_getElem hr, Option.map_eq_map, Option.map_some,
    Option.bind_some, Option.bind_some]
  -- the one row that the cells are put in
  by_cases heq : r = start.row.toNat
  · rw [if_pos heq.symm, getElem?_overlay]
    by_cases hwithin : start.col.toNat ≤ c ∧ c < start.col.toNat + cells.length
    · -- a column of the new cells
      rw [if_pos ⟨hc, hwithin⟩, if_pos ⟨heq, hwithin.1⟩, List.getElem?_eq_getElem (by omega)]
      rfl
    · -- left of the new cells, or past their end, the row is as before
      rw [if_neg fun h' => hwithin h'.2]
      by_cases hle : start.col.toNat ≤ c
      · have hpast : cells[c - start.col.toNat]? = none := List.getElem?_eq_none (by omega)
        rw [if_pos ⟨heq, hle⟩, hpast]
        rfl
      · rw [if_neg fun h' => hle h'.2]
        rfl
  · -- any other row is not touched
    rw [if_neg (Ne.symm heq), if_neg fun h' => heq h'.1]
    rfl

section

variable {size : Size}

theorem Paints.congr {strokes : List Stroke} {layer layer' : Layer} (h : Paints size strokes layer)
    (heq : ∀ r c, size.Contains r c → layer r c = layer' r c) : Paints size strokes layer' := by
  intro rows hrows r c hin
  rw [h rows hrows r c hin, heq r c hin]

theorem paints_nil : Paints size [] fun _ _ => none := fun _ _ _ _ _ => rfl

/-- **Of two parts, the one that is painted later lies above the other.** -/
theorem paints_append {first later : List Stroke} {bottom top : Layer}
    (hfirst : Paints size first bottom) (hlater : Paints size later top) :
    Paints size (first ++ later) (top.above bottom) := by
  intro rows hrows r c hin
  rw [List.foldl_append, hlater _ (hrows.foldl first) r c hin, hfirst rows hrows r c hin,
    Layer.above, Option.or_assoc]

/-! ### Cells and texts in a row -/

section

variable {row col : Nat}

theorem paints_cells (hr : row < Coord.count) (hc : col < Coord.count) (cells : List Cell) :
    Paints size [Stroke.cells row col cells] fun r c =>
      if r = row ∧ col ≤ c then cells[c - col]? else none := by
  intro rows hrows r c hin
  rw [Stroke.cells_eq hr hc, List.foldl_cons, List.foldl_nil,
    hrows.cellAt_putCells_of_contains _ _ hin, Coord.toNat_ofNat_of_lt hr,
    Coord.toNat_ofNat_of_lt hc]

/-- A character that is not wide is drawn in one cell. -/
theorem Cell.ofText_of_narrow {text : List Char} {style : Style}
    (h : ∀ ch ∈ text, Text.charWidth ch = some 1) :
    Cell.ofText text style = text.map fun ch => .drawn [ch] style := by
  -- the text is laid out character by character, each in the one cell of its width
  induction text with
  | nil => rfl
  | cons ch rest ih =>
    have hrest := ih fun ch' hmem => h ch' (List.mem_cons_of_mem ch hmem)
    have hone : Cell.ofChar style ch = [.drawn [ch] style] := by
      unfold Cell.ofChar
      rw [h ch List.mem_cons_self]
      rfl
    unfold Cell.ofText at hrest ⊢
    rw [List.flatMap_cons, hrest, hone]
    rfl

/-- The layer of a text of characters that are not wide, from a cell on. -/
def textLayer (row col : Nat) (text : List Char) (style : Style) : Layer := fun r c =>
  if r = row ∧ col ≤ c then (text[c - col]?).map fun ch => .drawn [ch] style else none

theorem paints_text (hr : row < Coord.count) (hc : col < Coord.count) {text : List Char}
    (htext : ∀ ch ∈ text, Text.charWidth ch = some 1) (style : Style) :
    Paints size [Stroke.text row col text style] (textLayer row col text style) := by
  refine (paints_cells hr hc _).congr fun r c _ => ?_
  unfold textLayer
  rw [Cell.ofText_of_narrow htext, List.getElem?_map]

end

/-! ### Row by row -/

/-- **Strokes row by row**, from some row of the display on, paint what those of each row paint in
it. -/
theorem paints_rows_from {first last offset : Nat} {stroke : Nat → List Stroke} {layer : Layer}
    (hfirst : first < Coord.count)
    (h : ∀ row, first ≤ row → row < last →
      Paints size (stroke row) fun r c => if r = offset + row then layer r c else none) :
    Paints size (Stroke.rows first last stroke) fun r c =>
      if offset + first ≤ r ∧ r < offset + last then layer r c else none := by
  unfold Stroke.rows
  rw [if_pos hfirst]
  -- the rows before the one that ends `count` rows after the first are painted
  have hcount : ∀ count, first + count ≤ last ∨ count = 0 →
      Paints size ((List.range' first count).flatMap stroke) fun r c =>
        if offset + first ≤ r ∧ r < offset + first + count then layer r c else none := by
    intro count
    -- the induction is on the rows painted so far; the last of them lies above those before it
    induction count with
    | zero =>
      intro _
      refine paints_nil.congr fun r c _ => ?_
      rw [if_neg (by omega)]
    | succ count ih =>
      intro hlast
      rw [List.range'_concat, List.flatMap_append, List.flatMap_singleton, Nat.one_mul]
      refine (paints_append (ih (by omega)) (h (first + count) (by omega) (by omega))).congr ?_
      intro r c _
      unfold Layer.above
      dsimp only
      -- a cell of the row that is painted last
      by_cases hrow : r = offset + (first + count)
      · rw [if_pos hrow, if_neg (by omega), Option.or_none, if_pos (by omega)]
      · -- a cell of another row, where the rows before it decide
        rw [if_neg hrow, Option.none_or]
        by_cases hin : offset + first ≤ r ∧ r < offset + first + count
        · rw [if_pos hin, if_pos (by omega)]
        · rw [if_neg hin, if_neg (by omega)]
  -- all rows from the first to the last
  refine (hcount (last - first) (by omega)).congr fun r c _ => ?_
  by_cases hin : offset + first ≤ r ∧ r < offset + last
  · rw [if_pos hin, if_pos (by omega)]
  · rw [if_neg hin, if_neg (by omega)]

theorem paints_rows {first last : Nat} {stroke : Nat → List Stroke} {layer : Layer}
    (hfirst : first < Coord.count)
    (h : ∀ row, first ≤ row → row < last →
      Paints size (stroke row) fun r c => if r = row then layer r c else none) :
    Paints size (Stroke.rows first last stroke) fun r c =>
      if first ≤ r ∧ r < last then layer r c else none := by
  have hfrom : Paints size (Stroke.rows first last stroke) fun r c =>
      if 0 + first ≤ r ∧ r < 0 + last then layer r c else none :=
    paints_rows_from hfirst fun row hf hl => (h row hf hl).congr fun r c _ => by rw [Nat.zero_add]
  simpa only [Nat.zero_add] using hfrom

end

/-! ### Texts cut to some columns -/

namespace Text

/-- The columns that a text is counted with when it is cut: control characters take none. -/
def columns : List Char → Nat
  | [] => 0
  | c :: rest => (charWidth c).getD 0 + columns rest

/-- **The longest beginning of a text** that takes at most `room` columns. -/
def fitting (text : List Char) (room : Nat) : List Char :=
  text.take (Nat.findGreatest (fun n => columns (text.take n) ≤ room) text.length)

end Text

namespace Painter

theorem prefix_takeColumns (text : List Char) (room : Nat) : takeColumns text room <+: text := by
  -- a text is cut where the next character has no room, so the induction is on the text
  induction text generalizing room with
  | nil => exact List.nil_prefix
  | cons c rest ih =>
    unfold takeColumns
    dsimp only
    split
    · exact List.cons_prefix_cons.2 ⟨rfl, ih _⟩
    · exact List.nil_prefix

/-- A beginning of a text fits if it is no longer than what is kept of the text. -/
theorem columns_take_le_iff (text : List Char) {room n : Nat} (hn : n ≤ text.length) :
    Text.columns (text.take n) ≤ room ↔ n ≤ (takeColumns text room).length := by
  induction text generalizing room n with
  | nil =>
    obtain rfl : n = 0 := Nat.le_zero.1 hn
    exact ⟨fun _ => Nat.zero_le _, fun _ => Nat.zero_le _⟩
  | cons c rest ih =>
    cases n with
    | zero => exact ⟨fun _ => Nat.zero_le _, fun _ => Nat.zero_le _⟩
    | succ n =>
      rw [List.take_succ_cons, Text.columns, takeColumns]
      -- behind the first character the room is less by its width
      have hrest : Text.columns (rest.take n) ≤ room - (Text.charWidth c).getD 0
          ↔ n ≤ (takeColumns rest (room - (Text.charWidth c).getD 0)).length :=
        ih (Nat.le_of_succ_le_succ hn)
      split
      · -- the first character has room, and those after it are counted with what is left
        rw [List.length_cons, Nat.add_le_add_iff_right, ← hrest]
        omega
      · -- the first character has no room, and nothing after it is kept
        rw [List.length_nil]
        omega

/-- **What is kept of a text is its longest beginning that fits.** -/
theorem takeColumns_eq_fitting (text : List Char) (room : Nat) :
    takeColumns text room = Text.fitting text room := by
  -- the length of what is kept fits, and no longer beginning does
  have hlength := (prefix_takeColumns text room).length_le
  have hgreatest : Nat.findGreatest (fun n => Text.columns (text.take n) ≤ room) text.length
      = (takeColumns text room).length := by
    rw [Nat.findGreatest_eq_iff]
    refine ⟨hlength, fun _ => (columns_take_le_iff text hlength).2 (Nat.le_refl _), ?_⟩
    intro n hlt hn hfits
    exact absurd ((columns_take_le_iff text hn).1 hfits) (Nat.not_le.2 hlt)
  unfold Text.fitting
  rw [hgreatest]
  exact List.prefix_iff_eq_take.1 (prefix_takeColumns text room)

/-- Characters of one column each are cut like any list. -/
theorem takeColumns_of_narrow {text : List Char} (h : ∀ ch ∈ text, Text.charWidth ch = some 1)
    (room : Nat) : takeColumns text room = text.take room := by
  -- with columns of one each, the room counts the characters
  induction text generalizing room with
  | nil => rw [takeColumns, List.take_nil]
  | cons c rest ih =>
    have hrest := ih fun ch' hmem => h ch' (List.mem_cons_of_mem c hmem)
    rw [takeColumns, h c List.mem_cons_self]
    dsimp only [Option.getD_some]
    cases room with
    | zero => rfl
    | succ room =>
      rw [if_pos (Nat.le_add_left 1 room), hrest, Nat.add_sub_cancel, List.take_succ_cons]

variable {display : Size} (row col : Nat) (text : List Char) (style : Style)

/-- **A clipped text** covers the cells of what is kept of it. -/
theorem paints_clipped : Paints display (clipped display row col text style) fun r c =>
    if r = row ∧ col ≤ c then
      (Cell.ofText (Text.fitting text (display.cols.toNat - col)) style)[c - col]?
    else none := by
  have hr := Coord.toNat_lt_count display.rows
  have hc := Coord.toNat_lt_count display.cols
  unfold clipped
  split
  · -- the text begins outside the display
    refine paints_nil.congr fun r c hin => ?_
    unfold Size.Contains at hin
    rw [if_neg (by omega)]
  · rw [Stroke.text, takeColumns_eq_fitting]
    exact paints_cells (by omega) (by omega) _

theorem paints_clipped_of_narrow (h : ∀ ch ∈ text, Text.charWidth ch = some 1) :
    Paints display (clipped display row col text style) (textLayer row col text style) := by
  refine (paints_clipped row col text style).congr fun r c hin => ?_
  have hc : c < display.cols.toNat := hin.2
  unfold textLayer
  split
  · -- what is cut off would lie outside the display
    rw [← takeColumns_eq_fitting, takeColumns_of_narrow h, Cell.ofText_of_narrow
      fun ch hmem => h ch (List.mem_of_mem_take hmem), List.getElem?_map,
      List.getElem?_take_of_lt (by omega)]
  · rfl

end Painter

end FramedShell
