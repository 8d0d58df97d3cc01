import FramedShell.Proofs.Layout

/-!
# How a display is divided

Whether a display has room for the frame is decided by three inequalities between natural numbers
(`Layout.Spacious`). The layout itself adds and subtracts coordinates that are clamped at both ends;
`roomy_iff_spacious` says that no clamp ever decides otherwise, whatever the measures are.

Everything else about a layout follows from there. The frame stands where the measures put it and
not where the display would have it (`Framing`), and the parts of the picture do not overlap.

## Main definitions

* `Layout.Spacious` — the display has room for banner, frame, insets and control bar;
* `Layout.Framing` — where the frame and the viewport in it are, when there is room;
* `Layout.Division` — what holds of every layout.

## Main result

* `division_of` — every layout is a division of its display, and no step of computing it fails.
-/

namespace FramedShell

/-- Two rectangles have no cell in common. -/
def Rect.Apart (a b : Rect) : Prop := ∀ r c, a.Contains r c → ¬ b.Contains r c

/-- A rectangle that ends above another one is apart from it. -/
theorem Rect.apart_of_above {a b : Rect}
    (h : a.origin.row.toNat + a.size.rows.toNat ≤ b.origin.row.toNat) : a.Apart b := by
  -- a common row would lie both before the first one of `b` and not before it
  intro r c ha hb
  have hlast : r < a.origin.row.toNat + a.size.rows.toNat := ha.1.2
  have hfirst : b.origin.row.toNat ≤ r := hb.1.1
  omega

namespace Layout

/-- **The display has room** for the smallest frame below the banner, above the control bar and
between the insets. -/
def Spacious (m : Measures) (display : Size) : Prop :=
  3 ≤ m.frameHeight.toNat ∧ m.bannerHeight.toNat + 5 ≤ display.rows.toNat ∧
    m.insetLeft.toNat + m.insetRight.toNat + 6 ≤ display.cols.toNat

/-- **Where the frame is**, and the viewport in it. -/
structure Framing (m : Measures) (display : Size) (l : Layout) (frame viewport : Rect) : Prop where
  frame_eq : l.frame = some frame
  viewport_eq : l.viewport = some viewport
  /-- The corner of the frame depends on the measures only. -/
  corner_eq : frame.origin = ⟨m.bannerHeight, m.insetLeft⟩
  rows_eq : frame.size.rows.toNat
    = min m.frameHeight.toNat (display.rows.toNat - m.bannerHeight.toNat - 2)
  cols_eq : frame.size.cols.toNat
    = display.cols.toNat - m.insetLeft.toNat - m.insetRight.toNat
  frame_within : frame.Within display
  banner_apart_frame : l.banner.Apart frame
  frame_apart_bar : frame.Apart l.controlBar
  banner_apart_bar : l.banner.Apart l.controlBar
  /-- The viewport is the frame without the cells on its edge. -/
  row_inside : viewport.origin.row.toNat = frame.origin.row.toNat + 1
  col_inside : viewport.origin.col.toNat = frame.origin.col.toNat + 1
  rows_inside : viewport.size.rows.toNat + 2 = frame.size.rows.toNat
  cols_inside : viewport.size.cols.toNat + 2 = frame.size.cols.toNat
  rows_pos : 0 < viewport.size.rows.toNat
  cols_pos : 0 < viewport.size.cols.toNat

/-- **A layout divides its display.** -/
structure Division (m : Measures) (display : Size) (l : Layout) : Prop where
  display_eq : l.display = display
  banner_within : l.banner.Within display
  bar_within : l.controlBar.Within display
  /-- The control bar is all of the last rows, two of them if there are as many. -/
  bar_rows : l.controlBar.size.rows.toNat = min 2 display.rows.toNat
  bar_bottom : l.controlBar.origin.row.toNat + l.controlBar.size.rows.toNat = display.rows.toNat
  bar_cols : l.controlBar.origin.col = 0 ∧ l.controlBar.size.cols = display.cols
  frame_iff : l.frame.isSome = true ↔ Spacious m display
  viewport_iff : l.viewport.isSome = true ↔ Spacious m display
  framing : Spacious m display → ∃ frame viewport, Framing m display l frame viewport

variable {m : Measures} {display : Size}

theorem minFrameRows_le_iff : minFrameRows ≤ frameRows m display ↔
    3 ≤ m.frameHeight.toNat ∧ m.bannerHeight.toNat + 5 ≤ display.rows.toNat := by
  have hrows := Coord.toNat_le display.rows
  rw [UInt16.le_iff_toNat_le]
  simp only [toNat_minFrameRows, frameRows, toNat_bannerRows, toNat_barHeight, Coord.toNat_least,
    Coord.toNat_minus, Coord.toNat_plus]
  -- a sum that is clamped exceeds the rows of any display
  omega

theorem minFrameCols_le_iff : minFrameCols ≤ frameCols m display ↔
    m.insetLeft.toNat + m.insetRight.toNat + 6 ≤ display.cols.toNat := by
  have hcols := Coord.toNat_le display.cols
  rw [UInt16.le_iff_toNat_le]
  simp only [toNat_minFrameCols, frameCols, Coord.toNat_minus, Coord.toNat_plus]
  -- again the clamped sum is larger than what a display can have
  omega

/-- **No clamped sum decides whether there is room.** -/
theorem roomy_iff_spacious : Roomy m display ↔ Spacious m display := by
  unfold Roomy Spacious
  rw [minFrameRows_le_iff, minFrameCols_le_iff, and_assoc]

theorem banner_within : (bannerRect m display).Within display := by
  have hrows : (bannerRect m display).size.rows.toNat = min m.bannerHeight.toNat display.rows.toNat :=
    toNat_bannerRows
  have htop : (bannerRect m display).origin.row.toNat = 0 := rfl
  have hleft : (bannerRect m display).origin.col.toNat = 0 := rfl
  have hcols : (bannerRect m display).size.cols.toNat = display.cols.toNat := rfl
  constructor <;> omega

/-- The control bar ends with the display. -/
theorem bar_bottom :
    (barRect display).origin.row.toNat + (barRect display).size.rows.toNat = display.rows.toNat := by
  have hrows : (barRect display).size.rows.toNat = min 2 display.rows.toNat := toNat_barRows
  have htop : (barRect display).origin.row.toNat
      = display.rows.toNat - (barRect display).size.rows.toNat := Coord.toNat_minus _ _
  omega

theorem bar_within : (barRect display).Within display := by
  have hleft : (barRect display).origin.col.toNat = 0 := rfl
  have hcols : (barRect display).size.cols.toNat = display.cols.toNat := rfl
  exact ⟨Nat.le_of_eq bar_bottom, by omega⟩

/-- With room for the frame, the banner has the height that it asks for. -/
theorem bannerRows_of_roomy (h : Roomy m display) : bannerRows m display = m.bannerHeight := by
  have hspacious := roomy_iff_spacious.1 h
  have hrows := hspacious.2.1
  -- the banner is cut only by a display that is lower than it, and this one is higher
  rw [← UInt16.toNat_inj, toNat_bannerRows]
  omega

/-- With room for the frame, its height is the one it asks for or what the display leaves it. -/
theorem frameRows_of_roomy (h : Roomy m display) :
    (frameRows m display).toNat
      = min m.frameHeight.toNat (display.rows.toNat - m.bannerHeight.toNat - 2) := by
  have hd := Coord.toNat_le display.rows
  have hrows := (roomy_iff_spacious.1 h).2.1
  rw [frameRows, bannerRows_of_roomy h, Coord.toNat_least, Coord.toNat_minus, Coord.toNat_plus,
    toNat_barHeight]
  omega

/-- Banner, frame and control bar lie below each other. -/
theorem parts_apart (h : Roomy m display) :
    (bannerRect m display).Apart (frameRect m display) ∧
      (frameRect m display).Apart (barRect display) ∧
      (bannerRect m display).Apart (barRect display) := by
  have htop : (bannerRect m display).origin.row.toNat = 0 := rfl
  have habove : (bannerRect m display).size.rows.toNat = (frameRect m display).origin.row.toNat :=
    rfl
  have hframe := (placed_of_roomy h).rows_le
  have hbar : (barRect display).origin.row.toNat + (barRect display).size.rows.toNat
      = display.rows.toNat := bar_bottom
  have hbarRows : (barRect display).size.rows.toNat = min 2 display.rows.toNat := toNat_barRows
  -- the frame begins below the banner, and ends above the bar
  refine ⟨Rect.apart_of_above ?_, Rect.apart_of_above ?_, Rect.apart_of_above ?_⟩ <;> omega

theorem framing_of_roomy (h : Roomy m display) :
    Framing m display (Layout.of m display) (frameRect m display) (insideRect m display) := by
  have hplaced := placed_of_roomy h
  obtain ⟨hbannerFrame, hframeBar, hbannerBar⟩ := parts_apart h
  have hrows := hplaced.rows_le
  have hcols := hplaced.cols_pos
  refine
    { frame_eq := ?_, viewport_eq := ?_, corner_eq := ?_, rows_eq := frameRows_of_roomy h,
      cols_eq := ?_, frame_within := ⟨by omega, hplaced.cols_le⟩, banner_apart_frame := ?_,
      frame_apart_bar := ?_, banner_apart_bar := ?_, row_inside := hplaced.row_eq,
      col_inside := hplaced.col_eq, rows_inside := hplaced.rows_eq,
      cols_inside := hplaced.cols_eq, rows_pos := hplaced.rows_pos, cols_pos := by omega }
  · rw [of_roomy h]
  · rw [of_roomy h]
  · -- the corner is the one that the banner leaves and the left inset
    exact congrArg (Position.mk · m.insetLeft) (bannerRows_of_roomy h)
  · -- the columns are what the two insets leave
    have hframe := frameCols_eq h
    change (frameCols m display).toNat = _
    omega
  · -- no part has cells in common with another
    rw [banner_of]
    exact hbannerFrame
  · rw [controlBar_of]
    exact hframeBar
  · rw [banner_of, controlBar_of]
    exact hbannerBar

/-- **Every layout is an exact division of its display**, whatever the measures: no step of computing
it leaves the range of coordinates, and its frame always lies within the display. -/
theorem division_of (m : Measures) (display : Size) :
    check m display = some (Layout.of m display) ∧ Division m display (Layout.of m display) := by
  refine ⟨check_eq_some_of m display, ?_⟩
  -- frame and viewport are there in the one form of a layout, and missing in the other
  have hsome : ∀ (part : Layout → Option Rect),
      (Roomy m display → (part (Layout.of m display)).isSome = true) →
      (¬ Roomy m display → part (Layout.of m display) = none) →
      ((part (Layout.of m display)).isSome = true ↔ Spacious m display) := by
    intro part hroomy hcramped
    rw [← roomy_iff_spacious]
    by_cases h : Roomy m display
    · exact iff_of_true (hroomy h) h
    · refine iff_of_false ?_ h
      rw [hcramped h]
      exact Bool.false_ne_true
  refine
    { display_eq := display_of, banner_within := ?_, bar_within := ?_, bar_rows := ?_,
      bar_bottom := ?_, bar_cols := ?_, frame_iff := hsome Layout.frame ?_ ?_,
      viewport_iff := hsome Layout.viewport ?_ ?_, framing := ?_ }
  · rw [banner_of]
    exact banner_within
  · rw [controlBar_of]
    exact bar_within
  · rw [controlBar_of]
    exact toNat_barRows
  · rw [controlBar_of]
    exact bar_bottom
  · rw [controlBar_of]
    exact ⟨rfl, rfl⟩
  · intro h
    rw [of_roomy h]
    rfl
  · intro h
    rw [of_cramped h]
  · intro h
    rw [of_roomy h]
    rfl
  · intro h
    rw [of_cramped h]
  · intro h
    exact ⟨_, _, framing_of_roomy (roomy_iff_spacious.2 h)⟩

end Layout

end FramedShell
