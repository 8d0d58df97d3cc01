import FramedShell.Geometry

/-!
# Where the parts of the picture go

The display is split into a banner at the top, a band that holds the bordered frame, and a control bar
in the last rows. The live shell is shown in the *viewport*, the inside of the frame.

```
row 0            +------------------------------+
  ..             | banner                       |
                 +------------------------------+
                 |  +------ frame ----------+   |
                 |  | viewport (live shell) |   |
                 |  +-----------------------+   |
                 |  background                  |
rows - 2         | control bar                  |
                 +------------------------------+
```

A display that cannot hold the smallest frame has no frame and no viewport.

## Main definitions

* `Measures` — the four numbers a layout is built from;
* `Layout` — every rectangle of the picture for one display size;
* `Layout.check` — the layout, with every sum and the place of the frame checked;
* `Layout.of` — the layout itself: `check_isSome` shows that no check can fail.
-/

namespace FramedShell

/-- **The measures of the picture**: the heights of the banner and of the frame with its border, and
the columns left free on both sides of the frame. -/
structure Measures where
  bannerHeight : Coord := 6
  frameHeight : Coord := 12
  insetLeft : Coord := 2
  insetRight : Coord := 2
deriving DecidableEq, Inhabited

/-- **A layout**: every rectangle of the picture for one display. The frame is absent when the display
is too small for it, and so is the viewport. -/
structure Layout where
  display : Size
  banner : Rect
  frame : Option Rect
  controlBar : Rect
  viewport : Option Rect
deriving DecidableEq, Inhabited

namespace Layout

/-- The rows that the control bar takes at the bottom of the display. -/
def barHeight : Coord := 2

/-- The rows of the smallest frame, border included. -/
def minFrameRows : Coord := 3

/-- The columns of the smallest frame, border included. -/
def minFrameCols : Coord := 6

@[simp] theorem toNat_barHeight : barHeight.toNat = 2 := rfl

@[simp] theorem toNat_minFrameRows : minFrameRows.toNat = 3 := rfl

@[simp] theorem toNat_minFrameCols : minFrameCols.toNat = 6 := rfl

/-- The size of the viewport, if there is one. -/
def viewportSize (l : Layout) : Option Size := l.viewport.map Rect.size

/-- Whether the display is too small for the frame. -/
def isTooSmall (l : Layout) : Bool := l.viewport.isNone

/-! ### Computing a layout -/

/-- The rows of the control bar: the last two rows, or all of a smaller display. -/
def barRows (display : Size) : Coord := barHeight.least display.rows

/-- The rows of the banner: as many as it asks for, and at most the whole display. -/
def bannerRows (m : Measures) (display : Size) : Coord := m.bannerHeight.least display.rows

/-- The rows of the frame: as many as it asks for, and at most what banner and bar leave. -/
def frameRows (m : Measures) (display : Size) : Coord :=
  m.frameHeight.least (display.rows.minus ((bannerRows m display).plus barHeight))

/-- The columns of the frame: what the insets leave. -/
def frameCols (m : Measures) (display : Size) : Coord :=
  display.cols.minus (m.insetLeft.plus m.insetRight)

/-- The frame, whether or not it is large enough. -/
def frameRect (m : Measures) (display : Size) : Rect :=
  Rect.of (bannerRows m display) m.insetLeft (frameRows m display) (frameCols m display)

/-- **The layout of a display**, with every step checked: the place of the control bar must not be
negative, the frame must lie within the display, and its interior must have a position. -/
def check (m : Measures) (display : Size) : Option Layout := do
  let barTop ← display.rows.sub? (barRows display)
  let banner := Rect.of 0 0 (bannerRows m display) display.cols
  let controlBar := Rect.of barTop 0 (barRows display) display.cols
  if frameRows m display < minFrameRows || frameCols m display < minFrameCols then
    return ⟨display, banner, none, controlBar, none⟩
  else
    let frame := frameRect m display
    if frame.fitsIn display then
      let inner ← frame.inner?
      return ⟨display, banner, some frame, controlBar, some inner⟩
    else
      none

/-- A frame that is large enough lies within the display. -/
theorem frameRect_fitsIn {m : Measures} {display : Size}
    (hr : minFrameRows ≤ frameRows m display) (hc : minFrameCols ≤ frameCols m display) :
    (frameRect m display).fitsIn display = true := by
  rw [Rect.fitsIn_iff]
  rw [UInt16.le_iff_toNat_le] at hr hc
  have h₁ := Coord.toNat_le display.rows
  have h₂ := Coord.toNat_le display.cols
  simp only [toNat_minFrameRows, toNat_minFrameCols, frameRect, Rect.of, Rect.toNat_bottom,
    Rect.toNat_right, frameRows, frameCols, bannerRows, toNat_barHeight, Coord.toNat_least,
    Coord.toNat_minus, Coord.toNat_plus] at hr hc ⊢
  constructor
  · clear hc h₂
    omega
  · clear hr h₁
    omega

/-- No check of a layout fails, whatever the measures and the display. -/
theorem check_isSome (m : Measures) (display : Size) : (check m display).isSome = true := by
  have hbar : (barRows display).toNat ≤ display.rows.toNat := by
    simp only [barRows, Coord.toNat_least]; omega
  unfold check
  rw [Coord.sub?_eq_some hbar]
  simp only [Option.bind_eq_bind, Option.bind_some, Bool.or_eq_true, decide_eq_true_eq]
  split
  · rfl
  · rename_i h
    rw [not_or, UInt16.not_lt, UInt16.not_lt] at h
    have hfit := frameRect_fitsIn h.1 h.2
    rw [if_pos hfit]
    have hr := h.1
    have hc := h.2
    rw [UInt16.le_iff_toNat_le] at hr hc
    have h₁ := Coord.toNat_le display.rows
    have h₂ := Coord.toNat_le display.cols
    have hrow : (frameRect m display).origin.row.toNat < 65535 := by
      clear hc h₂ hfit h
      simp only [toNat_minFrameRows, frameRect, Rect.of, frameRows, bannerRows, toNat_barHeight,
        Coord.toNat_least, Coord.toNat_minus, Coord.toNat_plus] at hr ⊢
      omega
    have hcol : (frameRect m display).origin.col.toNat < 65535 := by
      clear hr h₁ hfit h hrow
      simp only [toNat_minFrameCols, frameRect, Rect.of, frameCols, Coord.toNat_minus,
        Coord.toNat_plus] at hc ⊢
      omega
    rw [Rect.inner?_eq_some hrow hcol]
    rfl

/-- **The layout of a display.** -/
def of (m : Measures) (display : Size) : Layout := (check m display).get (check_isSome m display)

@[simp] theorem check_eq_some_of (m : Measures) (display : Size) :
    check m display = some (of m display) :=
  (Option.some_get _).symm

end Layout

end FramedShell
