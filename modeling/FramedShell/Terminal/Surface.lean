import FramedShell.Display
import FramedShell.Terminal.Instruction

/-!
# The terminal as a display

A surface draws on a terminal. What is drawn goes through a buffer of limited capacity, which passes its
contents on when it is full or flushed. Preparing and restoring the terminal bypasses the buffer.

The surface draws only where the terminal was when its size was last asked for, and it remembers whether
it has shown or hidden the cursor, so that nothing is said twice.

## Main definitions

* `Surface` — the buffer, what has been written, and what is remembered of the terminal;
* `Surface.prepare`, `Surface.restore`, `Surface.close` — the beginning and the end of its use;
* `Surface.row` — the instructions that draw cells in a row;
* the instance of `Display`.
-/

namespace FramedShell.Terminal

/-- **A terminal that is drawn on.** -/
structure Surface where
  /-- The size that the terminal has now. -/
  window : Size
  /-- The size that the terminal had when it was last asked for, no cells before that. -/
  seen : Size := ⟨0, 0⟩
  /-- Whether the terminal has to be restored. -/
  prepared : Bool := false
  /-- Whether the cursor was last shown, and not hidden. -/
  cursorShown : Bool := true
  /-- What waits in the buffer. -/
  held : Array Instruction := #[]
  /-- The bytes that wait in the buffer. -/
  heldSize : Nat := 0
  /-- All that has been written to the terminal. -/
  written : Array Instruction := #[]
deriving Inhabited

namespace Surface

/-- The bytes that the buffer holds. -/
def capacity : Nat := 8192

/-! ### The buffer -/

/-- Write everything that waits. -/
def flush (s : Surface) : Surface :=
  { s with held := #[], heldSize := 0, written := s.written ++ s.held }

/-- Make room for some more bytes, by flushing if there is none. -/
def makeRoom (size : Nat) (s : Surface) : Surface :=
  if s.heldSize + size > capacity then s.flush else s

/-- Put an instruction into the buffer. One that could never fit is written at once. -/
def hold (s : Surface) (i : Instruction) : Surface :=
  let s := s.makeRoom i.size
  if i.size ≥ capacity then { s with written := s.written.push i }
  else { s with held := s.held.push i, heldSize := s.heldSize + i.size }

/-- Put instructions into the buffer. -/
def holdAll (instructions : List Instruction) (s : Surface) : Surface := instructions.foldl hold s

/-- Write instructions past the buffer. -/
def writeNow (instructions : List Instruction) (s : Surface) : Surface :=
  { s with written := s.written ++ instructions }

/-! ### Beginning and end -/

/-- The instructions that prepare a terminal. -/
def preparation : List Instruction :=
  [.enterAlternateScreen, .disableWrap, .clearScreen, .moveTo ⟨0, 0⟩]

/-- The instructions that restore a terminal. -/
def restoration : List Instruction :=
  [.resetStyle, .resetStyle, .showCursor, .enableWrap, .leaveAlternateScreen]

/-- **Prepare the terminal** for drawing on the whole of it. -/
def prepare (s : Surface) : Surface := { s.writeNow preparation with prepared := true }

/-- **Restore the terminal**, if it was prepared and not restored since. -/
def restore (s : Surface) : Surface :=
  if s.prepared then { s.flush.writeNow restoration with prepared := false } else s

/-- Stop using the terminal: restore it, and let nothing wait in the buffer. -/
def close (s : Surface) : Surface := s.restore.flush

/-- Give the terminal's window a title, at once. -/
def setTitle (title : List Char) (s : Surface) : Surface := (s.hold (.title title)).flush

/-! ### Drawing -/

/-- The instructions that draw cells from column `col` on, on a terminal that is `cols` wide and in the
style `current`, if any is known. The first cell that does not fit ends the row. -/
def glyphs (cols : Nat) : Option Style → Nat → List Cell → List Instruction
  | _, _, [] => []
  | current, col, .continuation _ :: rest => glyphs cols current (col + 1) rest
  | current, col, .drawn text style :: rest =>
    let width := (Cell.drawn text style).width
    if col + width > cols then []
    else
      (if current = some style then [] else Instruction.setStyle style) ++
        .print text :: glyphs cols (some style) (col + width) rest

/-- **The instructions that draw cells** from a position on, on a terminal of the given size. -/
def row (size : Size) (start : Position) (cells : List Cell) : List Instruction :=
  if size.rows ≤ start.row ∨ size.cols ≤ start.col then []
  else
    .moveTo start :: glyphs size.cols.toNat none start.col.toNat cells ++ [.resetStyle, .resetStyle]

/-- Show or hide the cursor, unless it is so already. -/
def setCursorVisible (visible : Bool) (s : Surface) : Surface :=
  if visible = s.cursorShown then s
  else { s with cursorShown := visible }.hold (if visible then .showCursor else .hideCursor)

/-- Whether a position can be written: rows and columns are counted from one there. -/
def isWritable (place : Position) : Bool := (Position.at? (place.row.toNat + 1) (place.col.toNat + 1)).isSome

/-- **Carry out one stroke.** -/
def draw (stroke : Stroke) (s : Surface) : Except DisplayFault Unit × Surface :=
  match stroke with
  | .putCells start cells => (.ok (), s.holdAll (row s.seen start cells))
  | .setCursor place =>
    if isWritable place then (.ok (), s.hold (.moveTo place)) else (.error .overflow, s)
  | .setCursorVisible visible => (.ok (), s.setCursorVisible visible)
  | .clear => (.ok (), s.holdAll [.resetStyle, .resetStyle, .clearScreen])
  | .flush => (.ok (), s.flush)
  | .beyond => (.error .overflow, s)

instance : Display Surface where
  size s := (.ok s.window, { s with seen := s.window })
  draw := draw

end Surface

end FramedShell.Terminal
