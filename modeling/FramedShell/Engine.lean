import FramedShell.Emulator
import FramedShell.Notice

/-!
# The engine that decodes the child's output

The output of the child is decoded by a terminal emulator, or not at all: without an emulator the
session runs on and nothing is shown in the viewport.

## Main definitions

* `OutputDecoder` — what a type has to offer to decode output;
* `Engine` — the emulator or none, and its instance of `OutputDecoder`.
-/

namespace FramedShell

/-- **A decoder of output**: it reads the bytes that the child writes and may keep a grid to show. -/
class OutputDecoder (ε : Type) where
  /-- The name in messages. -/
  name : ε → String
  /-- Read bytes. -/
  feed : List UInt8 → ε → ε
  /-- Give the grid another size. -/
  resize : Size → ε → ε × List Notice
  /-- The grid to show, if there is one. -/
  grid : ε → Option Grid

/-- **Which engine to use.** -/
inductive EngineKind where
  | emulator
  /-- Nothing is decoded. -/
  | off
deriving DecidableEq, Inhabited

/-- **The engine.** -/
inductive Engine where
  | emulator (t : Emulator)
  | off
deriving DecidableEq, Inhabited

namespace Engine

/-- A new engine of the given kind and size. -/
def new : EngineKind → Size → Engine
  | .emulator, size => .emulator (.new size)
  | .off, _ => .off

/-- The name of an engine in messages. -/
def name : Engine → String
  | .emulator _ => "vt100"
  | .off => "none"

/-- **Read bytes of the child's output.** -/
def feed (bytes : List UInt8) : Engine → Engine
  | .emulator t => .emulator (t.feed bytes)
  | .off => .off

/-- **Give the grid another size.** A size it already has changes nothing and is not noticed. -/
def resize (size : Size) : Engine → Engine × List Notice
  | .emulator t =>
    if t.size = size.atLeastOne then (.emulator t, [])
    else (.emulator (t.resize size), [.gridResized size.atLeastOne])
  | .off => (.off, [])

/-- The size of the grid, if there is one. -/
def gridSize : Engine → Option Size
  | .emulator t => some t.size
  | .off => none

/-- **The grid to show**, if there is one. -/
def grid : Engine → Option Grid
  | .emulator t => some t.grid
  | .off => none

instance : OutputDecoder Engine where
  name := name
  feed := feed
  resize := resize
  grid := grid

end Engine

end FramedShell
