import FramedShell.Cell

/-!
# The lines of an emulated screen

A line is a row of *slots*. A slot holds a character with the marks that combine with it; a wide
character fills its slot and marks the next one as its right half. A line remembers whether the text in
it runs on in the line below.

## Main definitions

* `Slot`, `Slot.cell` — one place of the screen and the cell it is shown as;
* `Line.parted` — one half of a wide character loses the other half;
* `Line.erase`, `Line.insert`, `Line.delete` — erasing, inserting and deleting slots;
* `Line.resize` — cutting a line or filling it up.

## What is assumed

The lines stand for those of `vt100` in release 0.15. There a wide character and its right half are two
slots side by side, and resizing may cut between them, so that a wide character stands in the last slot
of a line without its half. Of the operations that reach for the other half it is assumed that they then
find none and leave the line as it is, rather than fail.
-/

namespace FramedShell.Emulator

/-- **One place of the screen.** Without characters it shows a space. -/
structure Slot where
  chars : List Char := []
  wide : Bool := false
  continuation : Bool := false
  style : Style := {}
deriving DecidableEq, Inhabited

namespace Slot

/-- The number of characters that a slot holds. -/
def capacity : Nat := 6

/-- A slot that nothing was written to. -/
def fresh : Slot := {}

/-- An empty slot in the given style. -/
def empty (style : Style) : Slot := ⟨[], false, false, style⟩

/-- A slot with one character in it. -/
def ofChar (c : Char) (style : Style) : Slot :=
  ⟨[c], decide (1 < (Text.charWidth c).getD 1), false, style⟩

/-- The slot with a mark added to its character. An empty slot takes a space first, a full one takes
nothing. -/
def addMark (s : Slot) (mark : Char) : Slot :=
  if capacity ≤ s.chars.length then s
  else { s with chars := (if s.chars.isEmpty then [' '] else s.chars) ++ [mark] }

/-- The slot without its characters, in the style it had. -/
def emptied (s : Slot) : Slot := empty s.style

/-- **The cell that a slot is shown as.** -/
def cell (s : Slot) : Cell :=
  if s.continuation then .continuation s.style
  else .drawn (if s.chars.isEmpty then [' '] else s.chars) s.style

end Slot

/-- **A line of the screen.** `wrapped` holds when its text runs on in the next line. -/
structure Line where
  slots : List Slot
  wrapped : Bool := false
deriving DecidableEq, Inhabited

namespace Line

/-- A line of empty slots. -/
def blank (cols : Nat) : Line := ⟨List.replicate cols Slot.fresh, false⟩

/-- The slot in a column; an empty one beyond the line. -/
def slot (l : Line) (col : Nat) : Slot := l.slots[col]?.getD Slot.fresh

/-- The line with one slot changed. -/
def modify (l : Line) (col : Nat) (f : Slot → Slot) : Line := { l with slots := l.slots.modify col f }

/-- The line with all slots emptied into one style. -/
def clear (l : Line) (style : Style) : Line :=
  ⟨List.replicate l.slots.length (Slot.empty style), false⟩

/-- The line in which the slot at `col`, if it is half of a wide character, has lost the other half.
The other half keeps its style. Where a wide character stands in the last slot there is no other half;
that nothing happens to the line then is an assumption about `vt100`. -/
def parted (l : Line) (col : Nat) : Line :=
  if (l.slot col).wide then l.modify (col + 1) Slot.emptied
  else if (l.slot col).continuation then l.modify (col - 1) Slot.emptied
  else l

/-- **Erase one slot** into a style. Erasing the last character of a line ends its run into the next. -/
def erase (style : Style) (l : Line) (col : Nat) : Line :=
  let last := col + (if (l.slot col).wide then 2 else 1) == l.slots.length
  let erased := (l.parted col).modify col fun _ => Slot.empty style
  { erased with wrapped := erased.wrapped && !last }

/-- Erase the slots from `first` up to and without `last`. -/
def eraseRange (style : Style) (l : Line) (first last : Nat) : Line :=
  (List.range' first (last - first)).foldl (erase style) l

/-- The line cut to a number of columns, in which a wide character that lost its right half is emptied. -/
def cut (l : Line) (cols : Nat) : Line :=
  let kept : Line := ⟨l.slots.take cols, false⟩
  if (kept.slot (cols - 1)).wide then kept.modify (cols - 1) Slot.emptied else kept

/-- **Insert empty slots** at a column; what is pushed beyond the line is lost. Inserting before the
right half of a wide character makes the first new slot its right half. -/
def insert (l : Line) (col count : Nat) : Line :=
  let cols := l.slots.length
  let count := min count cols
  if (l.slot col).continuation && col < cols && 0 < count then
    let old := l.slots.drop col
    let freed := old.modify 0 fun s => { s with continuation := false }
    let fresh : List Slot := { continuation := true } :: List.replicate (count - 1) Slot.fresh
    cut ⟨l.slots.take col ++ fresh ++ freed, false⟩ cols
  else
    cut ⟨l.slots.take col ++ List.replicate count Slot.fresh ++ l.slots.drop col, false⟩ cols

/-- Remove one slot. -/
def remove (l : Line) (col : Nat) : Line :=
  { slots := (l.parted col).slots.eraseIdx col, wrapped := false }

/-- The line cut or filled up with empty slots. A wide character at the cut keeps its left half. -/
def resize (l : Line) (cols : Nat) : Line :=
  ⟨l.slots.take cols ++ List.replicate (cols - l.slots.length) Slot.fresh, false⟩

/-- **Delete slots** from a column on; the line is filled up at its end. -/
def delete (l : Line) (col count : Nat) : Line :=
  let cols := l.slots.length
  (Nat.repeat (fun line => line.remove col) (min count (cols - col)) l).resize cols

end Line

end FramedShell.Emulator
