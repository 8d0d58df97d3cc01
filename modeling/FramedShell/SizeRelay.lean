import FramedShell.Engine
import FramedShell.Layout
import FramedShell.Session

/-!
# Passing size changes on

When the display changes its size, so may the viewport, and with it the window of the child and the grid
of the engine. Only the *size* of the viewport is passed on: moving it leaves the child alone. A child
that refuses a size keeps its old one, and so does the engine; the size is offered again at the next
change of the display.

## Main definitions

* `SizeRelay` — the size that was last accepted, and the last layout;
* `SizeRelay.follow` — what a new size of the display leads to.
-/

namespace FramedShell

/-- **A relay of sizes.** -/
structure SizeRelay where
  measures : Measures
  /-- The size that the child last accepted, or was started with. -/
  accepted : Size
  lastLayout : Option Layout := none
deriving DecidableEq, Inhabited

/-- **What a change of the display led to**: the new layout, the size that was accepted, if one was, and
whether the picture has to be painted again; then the relay, the target and the engine after it. -/
structure Followed (τ ε : Type) where
  layout : Layout
  propagated : Option Size
  repaint : Bool
  relay : SizeRelay
  target : τ
  engine : ε
  notices : List Notice

namespace SizeRelay

variable {τ ε : Type} [WindowTarget τ] [OutputDecoder ε]

/-- The relay for a child that was started with a window of the given size. -/
def new (measures : Measures) (initial : Size) : SizeRelay := ⟨measures, initial, none⟩

/-- Offer a size to the target, and pass it on to the engine if it is accepted. -/
def offer (r : SizeRelay) (l : Layout) (repaint : Bool) (size : Size) (target : τ) (engine : ε) :
    Followed τ ε :=
  match WindowTarget.setSize size target with
  | ⟨.ok (), target', told⟩ =>
    match OutputDecoder.resize size engine with
    | (engine', resized) =>
      ⟨l, some size, repaint, { r with accepted := size }, target', engine',
        told ++ resized ++ [.viewportResized size l.display]⟩
  | ⟨.error e, target', told⟩ =>
    ⟨l, none, repaint, r, target', engine, told ++ [.viewportRefused size e]⟩

/-- **Follow the display to a new size.** -/
def follow (r : SizeRelay) (display : Size) (target : τ) (engine : ε) : Followed τ ε :=
  let l := Layout.of r.measures display
  let repaint := decide (r.lastLayout ≠ some l)
  let r := { r with lastLayout := some l }
  match l.viewportSize with
  | none => ⟨l, none, repaint, r, target, engine, [.sizeNotPropagated display]⟩
  | some size =>
    if size = r.accepted then ⟨l, none, repaint, r, target, engine, []⟩
    else r.offer l repaint size target engine

end SizeRelay

end FramedShell
