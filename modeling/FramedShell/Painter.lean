import FramedShell.Display
import FramedShell.Layout
import FramedShell.Notice
import FramedShell.Theme

/-!
# Painting the picture around the viewport

The painter draws everything but the live shell: the colored bands, the title, the bordered frame with
its drop shadow, the blank inside of the frame, and the control bar. On a display that is too small for
the frame it says so in the first row.

## Main definitions

* `Painter` — a theme, the heights that decide the color of a row, and whether the last painted display
  was too small;
* `Painter.strokes` — the strokes of one picture, part by part in the order of drawing;
* `Painter.paint` — drawing a picture and noticing when a display becomes too small or large enough.
-/

namespace FramedShell

/-- **The painter.** `degraded` holds while the last painted display was too small for the frame. -/
structure Painter where
  theme : Theme
  bannerHeight : Coord
  frameHeight : Coord
  degraded : Bool := false
deriving DecidableEq, Inhabited

namespace Painter

/-- The line of keys in the upper row of the control bar. -/
def barTop : List Char := " ESC  /  -   CTRL   ALT  PGUP".toList

/-- The line of keys in the lower row of the control bar. -/
def barBottom : List Char := " HOME  END    ▲   ◀   ▼   ▶   PGDN".toList

/-- What a display that is too small shows in its first row. -/
def advisory : List Char := "Too small".toList

/-! ### Texts cut to the display -/

/-- The longest beginning of a text that takes at most `room` columns; control characters take none. -/
def takeColumns : List Char → Nat → List Char
  | [], _ => []
  | c :: rest, room =>
    let width := (Text.charWidth c).getD 0
    if width ≤ room then c :: takeColumns rest (room - width) else []

/-- A text from a cell on, cut at the right edge of the display; nothing outside the display. -/
def clipped (display : Size) (row col : Nat) (text : List Char) (style : Style) : List Stroke :=
  if display.rows.toNat ≤ row ∨ display.cols.toNat ≤ col then []
  else [Stroke.text row col (takeColumns text (display.cols.toNat - col)) style]

/-! ### The parts of the picture -/

/-- The color of a row that nothing else covers: the banner's, then the band's, then the background's. -/
def rowColor (p : Painter) (row : Nat) : Color :=
  if row < p.bannerHeight.toNat then p.theme.banner.color
  else if row < (p.bannerHeight.plus p.frameHeight).toNat then p.theme.band.color
  else p.theme.background.color

/-- Every row in its color. -/
def bands (p : Painter) (display : Size) : List Stroke :=
  Stroke.rows 0 display.rows.toNat fun row =>
    [Stroke.cells row 0 (Cell.fill (.colored .default (p.rowColor row)) display.cols.toNat)]

/-- The style of the title. -/
def titleStyle (p : Painter) : Style :=
  ⟨p.theme.border.color, p.theme.banner.color, ⟨true, false, false, false⟩⟩

/-- The title, in the middle row of the banner. -/
def title (p : Painter) (l : Layout) : List Stroke :=
  if l.banner.isEmpty || p.theme.title.isEmpty then []
  else clipped l.display (l.banner.size.rows.toNat / 2) 2 p.theme.title.toList p.titleStyle

/-- The style of the border. -/
def borderStyle (p : Painter) : Style := .colored p.theme.border.color p.theme.band.color

/-- A horizontal edge of the frame. -/
def edge (left right : Char) (inner : Nat) : List Char := [left] ++ List.replicate inner '─' ++ [right]

/-- The border of the frame. A frame that ends before the first row or column has no last one. -/
def border (p : Painter) (frame : Rect) : List Stroke :=
  if frame.bottom = 0 ∨ frame.right = 0 then [.beyond]
  else
    let inner := frame.size.cols.toNat - 2
    let top := frame.origin.row.toNat
    let bottom := frame.bottom.toNat - 1
    let left := frame.origin.col.toNat
    let right := frame.right.toNat - 1
    [Stroke.text top left (edge '┌' '┐' inner) p.borderStyle] ++
      Stroke.rows (top + 1) bottom (fun row =>
        [Stroke.text row left ['│'] p.borderStyle, Stroke.text row right ['│'] p.borderStyle]) ++
      [Stroke.text bottom left (edge '└' '┘' inner) p.borderStyle]

/-- The style of the shadow in a row. -/
def shadowStyle (p : Painter) (row : Nat) : Style := .colored p.theme.shadow.color (p.rowColor row)

/-- The shadow of the frame: below it and right of it, one cell further right and down. -/
def shadow (p : Painter) (frame : Rect) : List Stroke :=
  let below := frame.bottom.toNat
  [Stroke.text below (frame.origin.col.toNat + 1) (List.replicate (frame.size.cols.toNat - 2) '▀')
      (p.shadowStyle below)] ++
    Stroke.rows (frame.origin.row.toNat + 1) below fun row =>
      [Stroke.text row frame.right.toNat ['▒'] (p.shadowStyle row)]

/-- Whether there is room for the shadow between the frame, the control bar and the right edge. -/
def hasShadow (l : Layout) (frame : Rect) : Bool :=
  decide (frame.bottom < l.display.rows.minus Layout.barHeight) && decide (frame.right < l.display.cols)

/-- The frame with its border and, where there is room, its shadow. -/
def frame (p : Painter) (l : Layout) : List Stroke :=
  match l.frame with
  | some frame => p.border frame ++ if hasShadow l frame then p.shadow frame else []
  | none => []

/-- The blank inside of the frame. -/
def inside (l : Layout) : List Stroke :=
  match l.viewport with
  | some v =>
    Stroke.rows 0 v.size.rows.toNat fun row =>
      [Stroke.cells (v.origin.row.toNat + row) v.origin.col.toNat (Cell.fill .plain v.size.cols.toNat)]
  | none => []

/-- The style of the control bar. -/
def barStyle (p : Painter) : Style := .colored p.theme.barForeground.color p.theme.barBackground.color

/-- One row of the control bar. -/
def barRow (p : Painter) (l : Layout) (row : Nat) (line : List Char) : List Stroke :=
  Stroke.cells row 0 (Cell.fill p.barStyle l.controlBar.size.cols.toNat) ::
    clipped l.display row 0 line p.barStyle

/-- The control bar. One row shows the lower line; a bar of more rows than lines has no lines. -/
def controlBar (p : Painter) (l : Layout) : List Stroke :=
  let top := l.controlBar.origin.row.toNat
  match l.controlBar.size.rows.toNat with
  | 0 => []
  | 1 => p.barRow l top barBottom
  | 2 => p.barRow l top barTop ++ p.barRow l (top + 1) barBottom
  | _ => [.beyond]

/-- The advisory of a display that is too small. -/
def tooSmall (l : Layout) : List Stroke :=
  if l.isTooSmall then clipped l.display 0 0 advisory .plain else []

/-- **The strokes of a picture**, without the final flush. A display without cells is only cleared. -/
def strokes (p : Painter) (l : Layout) : List Stroke :=
  if l.display.isEmpty then [.clear]
  else [.clear] ++ p.bands l.display ++ p.title l ++ p.frame l ++ inside l ++ p.controlBar l ++ tooSmall l

/-! ### Painting -/

/-- What is reported when a layout follows another: the display became too small, or large enough. -/
def notices (p : Painter) (l : Layout) : List Notice :=
  if l.isTooSmall then (if p.degraded then [] else [.displayTooSmall l.display])
  else if p.degraded then [.displayLargeEnough l.display] else []

/-- **What painting leaves behind**: its outcome, the painter, the display, and what was noticed. -/
structure Painted (δ : Type) where
  outcome : Except DisplayFault Unit
  painter : Painter
  display : δ
  notices : List Notice

/-- **Paint a picture.** The painter learns whether the display is too small once all strokes are drawn,
before the flush. -/
def paint {δ : Type} [Display δ] (p : Painter) (l : Layout) (d : δ) : Painted δ :=
  match Display.drawAll (p.strokes l) d with
  | (.error e, d') => ⟨.error e, p, d', []⟩
  | (.ok (), d') =>
    if l.display.isEmpty then ⟨.ok (), p, d', []⟩
    else
      match Display.draw .flush d' with
      | (outcome, d'') => ⟨outcome, { p with degraded := l.isTooSmall }, d'', p.notices l⟩

end Painter

end FramedShell
