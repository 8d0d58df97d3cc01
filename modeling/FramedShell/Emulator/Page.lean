import FramedShell.Emulator.Line

/-!
# A page of an emulated screen

A page holds the lines of a screen, the cursor, and the scrolling region. All operations take the extent
of the screen as an argument and keep the number of lines. The column of the cursor may equal the number
of columns: then the next character goes to the next line.

## Main definitions

* `Extent` — the rows and columns of a screen;
* `Page` — lines, cursor, saved cursor, scrolling region and origin mode;
* `Page.print` — writing a character at the cursor;
* `Page.lineFeed`, `Page.reverseLineFeed` — moving down and up, scrolling at the ends of the region;
* `Page.eraseDisplay`, `Page.eraseLine`, `Page.insertLines`, … — the editing commands.

## What is assumed

Pages stand for the screens of `vt100` in release 0.15, with the same assumption as for their lines: a
character written over a wide one that has lost its half by a cut reaches for a slot beyond the line,
and `Page.prepare` and `Page.placeHalf` take it that nothing is changed there.
-/

namespace FramedShell.Emulator

/-- **The extent of a screen.** -/
structure Extent where
  rows : Nat
  cols : Nat
deriving DecidableEq, Inhabited

/-- **A page.** The scrolling region reaches from row `top` to row `bottom`, both included. -/
structure Page where
  lines : List Line
  row : Nat := 0
  col : Nat := 0
  savedRow : Nat := 0
  savedCol : Nat := 0
  top : Nat := 0
  bottom : Nat
  originMode : Bool := false
  savedOriginMode : Bool := false
deriving DecidableEq, Inhabited

namespace Page

/-- A blank page. -/
def blank (e : Extent) : Page :=
  { lines := List.replicate e.rows (Line.blank e.cols), bottom := e.rows - 1 }

/-- Whether the cursor is in the scrolling region. -/
def inRegion (p : Page) : Bool := decide (p.top ≤ p.row) && decide (p.row ≤ p.bottom)

/-- The line in a row; one without slots beyond the page. -/
def line (p : Page) (row : Nat) : Line := p.lines[row]?.getD ⟨[], false⟩

/-- The page with one line changed. -/
def modifyLine (p : Page) (row : Nat) (f : Line → Line) : Page :=
  { p with lines := p.lines.modify row f }

/-- The page with the line of the cursor changed. -/
def modifyCurrent (p : Page) (f : Line → Line) : Page := p.modifyLine p.row f

/-- The page with one slot changed. -/
def modifySlot (p : Page) (row col : Nat) (f : Slot → Slot) : Page :=
  p.modifyLine row fun l => l.modify col f

/-- The slot at a row and a column. -/
def slot (p : Page) (row col : Nat) : Slot := (p.line row).slot col

/-! ### Scrolling -/

/-- One line of the region moves out at its top, and a blank one comes in at its bottom. -/
def scrollUpOnce (e : Extent) (p : Page) : Page :=
  { p with lines := (p.lines.insertIdx (p.bottom + 1) (Line.blank e.cols)).eraseIdx p.top }

/-- The line at the bottom of the region is lost, and a blank one comes in at row `row`. The line that is
now at the bottom no longer runs on. -/
def pushDown (e : Extent) (p : Page) (row : Nat) : Page :=
  { p with
    lines := ((p.lines.eraseIdx p.bottom).insertIdx row (Line.blank e.cols)).modify p.bottom
      fun l => { l with wrapped := false } }

/-- **Scroll the region up.** -/
def scrollUp (e : Extent) (count : Nat) (p : Page) : Page :=
  Nat.repeat (scrollUpOnce e) (min count (e.rows - p.top)) p

/-- **Scroll the region down.** -/
def scrollDown (e : Extent) (count : Nat) (p : Page) : Page :=
  Nat.repeat (fun q => pushDown e q q.top) count p

/-! ### Moving the cursor -/

/-- The column moved back onto the screen. -/
def clampCol (e : Extent) (p : Page) : Page := { p with col := min p.col (e.cols - 1) }

/-- The last row that the cursor may reach: the end of the region, or of the screen. -/
def lastRow (e : Extent) (p : Page) (limited : Bool) : Nat := if limited then p.bottom else e.rows - 1

/-- The first row that the cursor may reach: the beginning of the region, or of the screen. -/
def firstRow (p : Page) (limited : Bool) : Nat := if limited then p.top else 0

/-- **Line feed.** In the region the cursor stops at its bottom, where the region scrolls. The number
tells by how many lines. -/
def lineFeed (e : Extent) (p : Page) : Page × Nat :=
  let last := p.lastRow e p.inRegion
  let excess := p.row + 1 - last
  let moved := { p with row := min (p.row + 1) last }
  if p.inRegion then (moved.scrollUp e excess, excess) else (moved, 0)

/-- **Reverse line feed.** The region scrolls when the cursor is at its top, or at the top of the screen. -/
def reverseLineFeed (e : Extent) (p : Page) : Page :=
  let first := p.firstRow p.inRegion
  let excess := (if p.row = 0 then 1 else 0) + (first - (p.row - 1))
  scrollDown e excess { p with row := max (p.row - 1) first }

/-- The cursor moved up, at most to the beginning of the region it is in. -/
def up (count : Nat) (p : Page) : Page :=
  { p with row := max (p.row - count) (p.firstRow p.inRegion) }

/-- The cursor moved down, at most to the end of the region it is in. -/
def down (e : Extent) (count : Nat) (p : Page) : Page :=
  { p with row := min (p.row + count) (p.lastRow e p.inRegion) }

/-- The cursor moved to the right, at most to the last column. -/
def rightwards (e : Extent) (count : Nat) (p : Page) : Page :=
  clampCol e { p with col := p.col + count }

/-- The cursor moved to the left. -/
def leftwards (count : Nat) (p : Page) : Page := { p with col := p.col - count }

/-- The cursor moved to a column. -/
def toCol (e : Extent) (col : Nat) (p : Page) : Page := clampCol e { p with col := col }

/-- The cursor moved to a row. -/
def toRow (e : Extent) (row : Nat) (p : Page) : Page := { p with row := min row (e.rows - 1) }

/-- The cursor moved to the next tabulator stop. -/
def tab (e : Extent) (p : Page) : Page := p.toCol e (p.col - p.col % 8 + 8)

/-- **The cursor moved to a position.** In origin mode, rows count from the top of the region, and the
cursor stays in the region. -/
def moveTo (e : Extent) (row col : Nat) (p : Page) : Page :=
  let row := if p.originMode then row + p.top else row
  clampCol e
    { p with row := min (max row (p.firstRow p.originMode)) (p.lastRow e p.originMode), col := col }

/-- Remember the cursor and the origin mode. -/
def save (p : Page) : Page :=
  { p with savedRow := p.row, savedCol := p.col, savedOriginMode := p.originMode }

/-- Return to the remembered cursor and origin mode. -/
def restore (p : Page) : Page :=
  { p with row := p.savedRow, col := p.savedCol, originMode := p.savedOriginMode }

/-- Switch the origin mode, which moves the cursor home. -/
def setOriginMode (e : Extent) (on : Bool) (p : Page) : Page :=
  moveTo e 0 0 { p with originMode := on }

/-- **Set the scrolling region.** A region of less than two lines sets the whole screen. The cursor goes
to the first column of the region's first row. -/
def setRegion (e : Extent) (top bottom : Nat) (p : Page) : Page :=
  let bottom := min bottom (e.rows - 1)
  if top < bottom then { p with top := top, bottom := bottom, row := top, col := 0 }
  else { p with top := 0, bottom := e.rows - 1, row := 0, col := 0 }

/-! ### Writing -/

/-- The cursor moved to the next line when a character of the given width does not fit into this one.
The line that is left runs on if it is full up to its last column. -/
def wrapFor (e : Extent) (width : Nat) (p : Page) : Page :=
  if e.cols - width < p.col then
    let last := p.slot p.row (e.cols - 1)
    let full := !last.chars.isEmpty || last.continuation
    match lineFeed e { p with col := 0 } with
    | (moved, scrolled) =>
      let left := p.row - scrolled
      moved.modifyLine left fun l => { l with wrapped := full && left + 1 == moved.row }
  else p

/-- The column of the character that the slot at `col` belongs to. -/
def baseCol (p : Page) (row col : Nat) : Nat := if (p.slot row col).continuation then col - 1 else col

/-- **Combine a mark** with the character before the cursor. At the beginning of a line that is the last
character of the line above, if that line runs on. -/
def combine (e : Extent) (mark : Char) (p : Page) : Page :=
  if 0 < p.col then p.modifySlot p.row (p.baseCol p.row (p.col - 1)) fun s => s.addMark mark
  else if 0 < p.row && (p.line (p.row - 1)).wrapped then
    p.modifySlot (p.row - 1) (p.baseCol (p.row - 1) (e.cols - 1)) fun s => s.addMark mark
  else p

/-- The page in which the character at the cursor is about to be overwritten: the other half of a wide
character that loses a half here is made a space. A half that a cut has taken away is not missed: that
overwriting the character that is left does not fail is an assumption about `vt100`. -/
def prepare (style : Style) (p : Page) : Page :=
  let p := if (p.slot p.row p.col).continuation then
      p.modifySlot p.row (p.col - 1) fun _ => Slot.empty style
    else p
  if (p.slot p.row p.col).wide then p.modifySlot p.row (p.col + 1) fun _ => Slot.ofChar ' ' style else p

/-- The page in which the slot at the cursor is the right half of the wide character just written. If
that slot held a wide character, its half is emptied; it is assumed of `vt100` that a half that a cut has
taken away is not missed here either. -/
def placeHalf (e : Extent) (style : Style) (p : Page) : Page :=
  let next := p.col + 1
  let p := if (p.slot p.row p.col).wide then
      (p.modifySlot p.row next fun _ => Slot.empty style).modifyLine p.row fun l =>
        { l with wrapped := l.wrapped && next + 1 != e.cols }
    else p
  { p.modifySlot p.row p.col (fun _ => { continuation := true }) with col := next }

/-- **Write a character** of width one or two at the cursor. -/
def write (e : Extent) (style : Style) (c : Char) (width : Nat) (p : Page) : Page :=
  let p := p.prepare style
  let p := { p.modifySlot p.row p.col (fun _ => Slot.ofChar c style) with col := p.col + 1 }
  if 1 < width then p.placeHalf e style else p

/-- **Print a character.** A control character prints nothing. -/
def print (e : Extent) (style : Style) (c : Char) (p : Page) : Page :=
  match Text.charWidth c with
  | none => p
  | some 0 => (p.wrapFor e 0).combine e c
  | some width => (p.wrapFor e width).write e style c width

/-! ### Erasing and editing -/

/-- Erase the line of the cursor: 0 from the cursor on, 1 up to the cursor, 2 all of it. -/
def eraseLine (e : Extent) (style : Style) (mode : Nat) (p : Page) : Page :=
  match mode with
  | 0 => p.modifyCurrent fun l => l.eraseRange style p.col e.cols
  | 1 => p.modifyCurrent fun l => l.eraseRange style 0 (min p.col (e.cols - 1) + 1)
  | 2 => p.modifyCurrent fun l => l.clear style
  | _ => p

/-- The page with the lines cleared for which `f` holds of the row. -/
def clearLines (style : Style) (f : Nat → Bool) (p : Page) : Page :=
  { p with lines := p.lines.mapIdx fun i l => if f i then l.clear style else l }

/-- **Erase the screen**: 0 from the cursor on, 1 up to the cursor, 2 all of it. -/
def eraseDisplay (e : Extent) (style : Style) (mode : Nat) (p : Page) : Page :=
  match mode with
  | 0 => (p.clearLines style fun i => p.row < i).eraseLine e style 0
  | 1 => (p.clearLines style fun i => i < p.row).eraseLine e style 1
  | 2 => p.clearLines style fun _ => true
  | _ => p

/-- Erase slots from the cursor on. -/
def eraseChars (e : Extent) (style : Style) (count : Nat) (p : Page) : Page :=
  p.modifyCurrent fun l => l.eraseRange style p.col (min (p.col + count) e.cols)

/-- Insert empty slots at the cursor. -/
def insertChars (count : Nat) (p : Page) : Page := p.modifyCurrent fun l => l.insert p.col count

/-- Delete slots from the cursor on. -/
def deleteChars (count : Nat) (p : Page) : Page := p.modifyCurrent fun l => l.delete p.col count

/-- **Insert lines** at the cursor; as many at the end of the region are lost. -/
def insertLines (e : Extent) (count : Nat) (p : Page) : Page :=
  Nat.repeat (fun q => pushDown e q q.row) count p

/-- **Delete lines** from the cursor on; blank ones come in at the end of the region. -/
def deleteLines (e : Extent) (count : Nat) (p : Page) : Page :=
  Nat.repeat
    (fun q => { q with
      lines := (q.lines.insertIdx (q.bottom + 1) (Line.blank e.cols)).eraseIdx q.row })
    (min count (e.rows - p.row)) p

/-! ### Resizing -/

/-- **The page on a screen of another extent**, which was `e` before. -/
def resize (e new : Extent) (p : Page) : Page :=
  let lines := (p.lines.map fun l => l.resize new.cols).take new.rows
  let bottom := if p.bottom = e.rows - 1 then new.rows - 1 else min p.bottom (new.rows - 1)
  { p with
    lines := lines ++ List.replicate (new.rows - lines.length) (Line.blank new.cols)
    bottom := bottom
    top := if bottom < p.top then 0 else p.top
    row := min p.row (new.rows - 1)
    col := min p.col (new.cols - 1) }

end Page

end FramedShell.Emulator
