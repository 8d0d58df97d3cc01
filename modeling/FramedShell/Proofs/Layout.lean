import FramedShell.Layout

/-!
# What every layout satisfies

The two forms of a layout, with the frame and without, and where their rectangles lie. Positions and
sums are compared as natural numbers, so no bound below hides a sum that was clamped.

## Main results

* `of_roomy`, `of_cramped` — the layout of a display with and without room for the frame;
* `Layout.Placed` — what holds of the frame and of the viewport in it;
* `placed_of` — every layout with a viewport is so placed.
-/

namespace FramedShell

/-- A rectangle lies within a display. Its ends are sums without a limit. -/
def Rect.Within (rect : Rect) (display : Size) : Prop :=
  rect.origin.row.toNat + rect.size.rows.toNat ≤ display.rows.toNat ∧
    rect.origin.col.toNat + rect.size.cols.toNat ≤ display.cols.toNat

namespace Layout

/-- **The display has room** for the smallest frame. -/
def Roomy (m : Measures) (display : Size) : Prop :=
  minFrameRows ≤ frameRows m display ∧ minFrameCols ≤ frameCols m display

instance (m : Measures) (display : Size) : Decidable (Roomy m display) :=
  inferInstanceAs (Decidable (_ ∧ _))

/-- The banner of a display. -/
def bannerRect (m : Measures) (display : Size) : Rect :=
  .of 0 0 (bannerRows m display) display.cols

/-- The control bar of a display. -/
def barRect (display : Size) : Rect :=
  .of (display.rows.minus (barRows display)) 0 (barRows display) display.cols

/-- The inside of the frame of a display that has room for it. -/
def insideRect (m : Measures) (display : Size) : Rect :=
  ⟨⟨UInt16.ofNat ((bannerRows m display).toNat + 1), UInt16.ofNat (m.insetLeft.toNat + 1)⟩,
    ⟨(frameRows m display).minus 2, (frameCols m display).minus 2⟩⟩

variable {m : Measures} {display : Size}

theorem toNat_barRows : (barRows display).toNat = min 2 display.rows.toNat := by
  simp only [barRows, Coord.toNat_least, toNat_barHeight]

theorem toNat_bannerRows :
    (bannerRows m display).toNat = min m.bannerHeight.toNat display.rows.toNat := by
  simp only [bannerRows, Coord.toNat_least]

/-- Banner, frame and control bar do not overlap. -/
theorem frameRows_le (h : Roomy m display) :
    (bannerRows m display).toNat + (frameRows m display).toNat + 2 ≤ display.rows.toNat := by
  have hr := h.1
  -- a sum of words is clamped only above 65535, which no display reaches
  have hd := Coord.toNat_le display.rows
  rw [UInt16.le_iff_toNat_le] at hr
  simp only [toNat_minFrameRows, frameRows, toNat_bannerRows, toNat_barHeight, Coord.toNat_least,
    Coord.toNat_minus, Coord.toNat_plus] at hr ⊢
  omega

/-- The frame and its insets do not overlap. -/
theorem frameCols_eq (h : Roomy m display) :
    m.insetLeft.toNat + (frameCols m display).toNat + m.insetRight.toNat = display.cols.toNat := by
  have hc := h.2
  have hd := Coord.toNat_le display.cols
  rw [UInt16.le_iff_toNat_le] at hc
  simp only [toNat_minFrameCols, frameCols, Coord.toNat_minus, Coord.toNat_plus] at hc ⊢
  omega

theorem barTop_eq :
    display.rows.sub? (barRows display) = some (display.rows.minus (barRows display)) := by
  refine Coord.sub?_eq_some ?_
  -- the bar is no higher than the display, so this difference is never refused
  rw [toNat_barRows]
  omega

theorem of_eq_of_check {l : Layout} (h : check m display = some l) : Layout.of m display = l :=
  Option.some.inj ((check_eq_some_of m display).symm.trans h)

/-- **The layout of a display without room** for the frame. -/
theorem of_cramped (h : ¬ Roomy m display) :
    Layout.of m display = ⟨display, bannerRect m display, none, barRect display, none⟩ := by
  refine of_eq_of_check ?_
  -- the test of the layout is that one of the two bounds is missed
  have hsmall : frameRows m display < minFrameRows ∨ frameCols m display < minFrameCols := by
    rw [Roomy, Decidable.not_and_iff_or_not, UInt16.not_le, UInt16.not_le] at h
    exact h
  simp only [check, barTop_eq, Option.bind_eq_bind, Option.bind_some, Bool.or_eq_true,
    decide_eq_true_eq, if_pos hsmall]
  rfl

/-- **The layout of a display with room** for the frame. -/
theorem of_roomy (h : Roomy m display) :
    Layout.of m display
      = ⟨display, bannerRect m display, some (frameRect m display), barRect display,
          some (insideRect m display)⟩ := by
  refine of_eq_of_check ?_
  -- neither bound is missed, so the test of the layout fails
  have hlarge : ¬ (frameRows m display < minFrameRows ∨ frameCols m display < minFrameCols) := by
    rw [not_or, UInt16.not_lt, UInt16.not_lt]
    exact h
  -- one row below and one column right of the corner of the frame is still on the display
  have hinner : (frameRect m display).inner? = some (insideRect m display) := by
    have hr := frameRows_le h
    have hc := frameCols_eq h
    have hr' := Coord.toNat_le display.rows
    have hc' := Coord.toNat_le display.cols
    have hcols := h.2
    rw [UInt16.le_iff_toNat_le, toNat_minFrameCols] at hcols
    refine Rect.inner?_eq_some ?_ ?_
    · change (bannerRows m display).toNat < 65535
      omega
    · change m.insetLeft.toNat < 65535
      omega
  simp only [check, barTop_eq, Option.bind_eq_bind, Option.bind_some, Bool.or_eq_true,
    decide_eq_true_eq, if_neg hlarge, frameRect_fitsIn h.1 h.2, if_true, hinner]
  rfl

@[simp] theorem display_of : (Layout.of m display).display = display := by
  -- the display, the banner and the bar are the same in both forms of a layout
  by_cases h : Roomy m display
  · rw [of_roomy h]
  · rw [of_cramped h]

@[simp] theorem controlBar_of : (Layout.of m display).controlBar = barRect display := by
  by_cases h : Roomy m display
  · rw [of_roomy h]
  · rw [of_cramped h]

@[simp] theorem banner_of : (Layout.of m display).banner = bannerRect m display := by
  by_cases h : Roomy m display
  · rw [of_roomy h]
  · rw [of_cramped h]

/-! ### The places of frame and viewport -/

/-- **The places of the frame and of the viewport in it**, on a display. -/
structure Placed (display : Size) (frame viewport : Rect) : Prop where
  /-- The frame ends above the control bar. -/
  rows_le : frame.origin.row.toNat + frame.size.rows.toNat + 2 ≤ display.rows.toNat
  cols_le : frame.origin.col.toNat + frame.size.cols.toNat ≤ display.cols.toNat
  row_eq : viewport.origin.row.toNat = frame.origin.row.toNat + 1
  col_eq : viewport.origin.col.toNat = frame.origin.col.toNat + 1
  rows_eq : viewport.size.rows.toNat + 2 = frame.size.rows.toNat
  cols_eq : viewport.size.cols.toNat + 2 = frame.size.cols.toNat
  rows_pos : 1 ≤ viewport.size.rows.toNat
  cols_pos : 4 ≤ viewport.size.cols.toNat

section

variable {frame viewport : Rect} (h : Placed display frame viewport)

include h

/-- The end of the frame is not clamped. -/
theorem Placed.toNat_bottom :
    frame.bottom.toNat = frame.origin.row.toNat + frame.size.rows.toNat := by
  have hr := Coord.toNat_le display.rows
  have := h.rows_le
  rw [Rect.toNat_bottom]
  omega

theorem Placed.isEmpty_viewport : viewport.isEmpty = false := by
  -- a size without rows or without columns contradicts the bounds
  have hrows : viewport.size.rows ≠ 0 := by
    intro hzero
    have hpos := h.rows_pos
    rw [hzero] at hpos
    exact absurd hpos (by decide)
  have hcols : viewport.size.cols ≠ 0 := by
    intro hzero
    have hpos := h.cols_pos
    rw [hzero] at hpos
    exact absurd hpos (by decide)
  simp only [Rect.isEmpty, Size.isEmpty, beq_eq_false_iff_ne.2 hrows, beq_eq_false_iff_ne.2 hcols,
    Bool.or_self]

theorem Placed.within : viewport.Within display := by
  obtain ⟨h₁, h₂, h₃, h₄, h₅, h₆, h₇, h₈⟩ := h
  constructor <;> omega

theorem Placed.toNat_right :
    frame.right.toNat = frame.origin.col.toNat + frame.size.cols.toNat := by
  have hc := Coord.toNat_le display.cols
  have := h.cols_le
  rw [Rect.toNat_right]
  omega

/-- A placed frame has cells, so it ends after the first row and column. -/
theorem Placed.ends_pos : ¬ (frame.bottom = 0 ∨ frame.right = 0) := by
  have hbottom := h.toNat_bottom
  have hright := h.toNat_right
  obtain ⟨h₁, h₂, h₃, h₄, h₅, h₆, h₇, h₈⟩ := h
  -- the viewport has cells, and the frame reaches beyond it by one on each side
  rintro (h | h)
  · rw [h, show (0 : Coord).toNat = 0 from rfl] at hbottom
    omega
  · rw [h, show (0 : Coord).toNat = 0 from rfl] at hright
    omega

end

theorem placed_of_roomy (h : Roomy m display) :
    Placed display (frameRect m display) (insideRect m display) := by
  have hr := frameRows_le h
  have hc := frameCols_eq h
  have hr' := Coord.toNat_le display.rows
  have hc' := Coord.toNat_le display.cols
  have hrows := h.1
  have hcols := h.2
  rw [UInt16.le_iff_toNat_le, toNat_minFrameRows] at hrows
  rw [UInt16.le_iff_toNat_le, toNat_minFrameCols] at hcols
  have htwo : (2 : Coord).toNat = 2 := rfl
  -- no sum and no difference below is clamped, so the bounds are linear
  constructor <;>
    simp only [frameRect, insideRect, Rect.of, Coord.toNat_minus, UInt16.toNat_ofNat', htwo] <;>
    omega

/-- **A layout has a frame and a viewport, or neither.** -/
theorem placed_of (m : Measures) (display : Size) :
    (∃ frame viewport, (Layout.of m display).frame = some frame ∧
      (Layout.of m display).viewport = some viewport ∧ Placed display frame viewport) ∨
    ((Layout.of m display).frame = none ∧ (Layout.of m display).viewport = none) := by
  by_cases h : Roomy m display
  · rw [of_roomy h]
    exact .inl ⟨_, _, rfl, rfl, placed_of_roomy h⟩
  · rw [of_cramped h]
    exact .inr ⟨rfl, rfl⟩

/-- A viewport is the inside of a frame. -/
theorem placed_of_viewport {v : Rect} (h : (Layout.of m display).viewport = some v) :
    ∃ frame, (Layout.of m display).frame = some frame ∧ Placed display frame v := by
  obtain ⟨frame, v', hf, hv, hp⟩ | ⟨_, hv⟩ := placed_of m display
  · rw [h] at hv
    obtain rfl := Option.some.inj hv
    exact ⟨frame, hf, hp⟩
  · rw [h] at hv
    cases hv

/-- A viewport has cells. -/
theorem viewportSize_pos {size : Size} (h : (Layout.of m display).viewportSize = some size) :
    1 ≤ size.rows.toNat ∧ 1 ≤ size.cols.toNat := by
  obtain ⟨v, hv, rfl⟩ := Option.map_eq_some_iff.1 h
  obtain ⟨frame, -, hp⟩ := placed_of_viewport hv
  have := hp.cols_pos
  exact ⟨hp.rows_pos, by omega⟩

end Layout

end FramedShell
