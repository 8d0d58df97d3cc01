import FramedShell.Proofs.Division
import FramedShell.Proofs.Picture

/-!
# Displays that become too small

A painter reports that a display is too small for the frame when it was not so before, and that it is
large enough again when it was too small before. It remembers one bit from one picture to the next.

A display without any cell is too small for every frame, but the painter returns before it looks at
that. So it reports nothing there and forgets nothing either: what was before is what was on the last
display that had cells. Among displays with cells every change is reported where it happens, and
nowhere else.

## Main definitions

* `Painter.paintAll` — one painter paints several displays in turn;
* `Painter.endsSmall` — the last of some displays was too small;
* `Painter.Reports` — what a painter reports of a display after some others.

## Main results

* `reports_paintAll` — the reports of a painter that remembers what was before.
-/

namespace FramedShell

namespace Layout

/-- **A display without cells is too small** for every frame. -/
theorem isTooSmall_of_isEmpty (m : Measures) {size : Size} (h : size.isEmpty = true) :
    (Layout.of m size).isTooSmall = true := by
  have hcramped : ¬ Roomy m size := by
    rw [roomy_iff_spacious]
    -- a frame needs rows and columns, and one of them is missing
    rintro ⟨-, hrows, hcols⟩
    unfold Size.isEmpty at h
    rw [Bool.or_eq_true, beq_iff_eq, beq_iff_eq] at h
    obtain h | h := h
    · rw [h] at hrows
      exact absurd hrows (Nat.not_le.2 (Nat.succ_pos _))
    · rw [h] at hcols
      exact absurd hcols (Nat.not_le.2 (Nat.succ_pos _))
  rw [of_cramped hcramped]
  rfl

end Layout

namespace Painter

variable {δ : Type} [Display δ] (m : Measures)

/-- **Paint several displays in turn**, each on its own device. -/
def paintAll (m : Measures) : Painter → List (Size × δ) → List (Painted δ)
  | _, [] => []
  | p, (size, d) :: rest =>
    p.paint (Layout.of m size) d :: paintAll m (p.paint (Layout.of m size) d).painter rest

/-- **The last of some displays was too small.** Of none it was not. -/
def endsSmall (m : Measures) (sizes : List Size) : Bool :=
  sizes.getLast?.elim false fun size => (Layout.of m size).isTooSmall

/-- The displays that have cells. -/
def withCells (sizes : List Size) : List Size := sizes.filter fun size => !size.isEmpty

/-- **What a painter reports** of a display after some others: that it has become too small, or large
enough, and nothing else. Then it remembers how this display was. -/
structure Reports (m : Measures) (before : List Size) (size : Size) (painted : Painted δ) : Prop where
  tooSmall : ∀ s, .displayTooSmall s ∈ painted.notices ↔
    s = size ∧ (Layout.of m size).isTooSmall = true ∧ endsSmall m before = false
  largeEnough : ∀ s, .displayLargeEnough s ∈ painted.notices ↔
    s = size ∧ (Layout.of m size).isTooSmall = false ∧ endsSmall m before = true
  once : painted.notices.length ≤ 1
  degraded : painted.painter.degraded = (Layout.of m size).isTooSmall

section

variable {m} {p : Painter} {before : List Size} {size : Size} {d : δ}

/-- A display without cells is painted without a report. -/
theorem paint_of_isEmpty (h : size.isEmpty = true) :
    (p.paint (Layout.of m size) d).notices = [] ∧
      (p.paint (Layout.of m size) d).painter = p := by
  unfold paint
  -- a painting that was refused reports nothing, and one that was not has nothing to report
  split
  · exact ⟨rfl, rfl⟩
  · rw [Layout.display_of, if_pos h]
    exact ⟨rfl, rfl⟩

/-- A display with cells that is painted to the end is remembered. -/
theorem paint_of_ok (hcells : size.isEmpty = false)
    (hok : (p.paint (Layout.of m size) d).outcome = .ok ()) :
    (p.paint (Layout.of m size) d).notices = p.notices (Layout.of m size) ∧
      (p.paint (Layout.of m size) d).painter
        = { p with degraded := (Layout.of m size).isTooSmall } := by
  have hdisplay : (Layout.of m size).display.isEmpty = false := by rw [Layout.display_of, hcells]
  unfold paint at hok ⊢
  split
  · -- a painting that was refused is none that went through
    next hdraw =>
    rw [hdraw] at hok
    cases hok
  · -- the painter is changed after the flush
    rw [hdisplay]
    exact ⟨rfl, rfl⟩

/-- **One picture**: a painter that remembers how the last display was reports what has changed. -/
theorem reports_paint (hcells : size.isEmpty = false)
    (hok : (p.paint (Layout.of m size) d).outcome = .ok ())
    (hbefore : p.degraded = endsSmall m before) :
    Reports m before size (p.paint (Layout.of m size) d) := by
  obtain ⟨hnotices, hpainter⟩ := paint_of_ok hcells hok
  rw [notices, Layout.display_of, hbefore] at hnotices
  constructor
  · -- too small now, and not before
    rw [hnotices]
    cases (Layout.of m size).isTooSmall <;> cases endsSmall m before <;> simp
  · -- large enough now, and too small before
    rw [hnotices]
    cases (Layout.of m size).isTooSmall <;> cases endsSmall m before <;> simp
  · -- it is one or the other
    rw [hnotices]
    cases (Layout.of m size).isTooSmall <;> cases endsSmall m before <;> simp
  · rw [hpainter]

end

/-! ### Several displays -/

theorem endsSmall_append_singleton (sizes : List Size) (size : Size) :
    endsSmall m (sizes ++ [size]) = (Layout.of m size).isTooSmall := by
  rw [endsSmall, List.getLast?_concat]
  rfl

/-- **What happens at a display** after some others: a report of what has changed since the last one
with cells, or nothing at all where there are no cells. -/
def Accounts (m : Measures) (before : List Size) (size : Size) (painted : Painted δ) : Prop :=
  (size.isEmpty = false → Reports m (withCells before) size painted) ∧
    (size.isEmpty = true → (Layout.of m size).isTooSmall = true ∧ painted.notices = [] ∧
      painted.painter.degraded = endsSmall m (withCells before))

/-- **Several pictures**: the painter remembers how the last display with cells was. -/
theorem accounts_paintAll {displays : List (Size × δ)} {p : Painter} {before : List Size}
    (hbefore : p.degraded = endsSmall m (withCells before))
    (hok : ∀ painted ∈ p.paintAll m displays, painted.outcome = .ok ()) {i : Nat} {size : Size}
    {painted : Painted δ} (hsize : (displays.map Prod.fst)[i]? = some size)
    (hpainted : (p.paintAll m displays)[i]? = some painted) :
    Accounts m (before ++ (displays.map Prod.fst).take i) size painted := by
  -- the painter goes on from each display with one more display before
  induction displays generalizing p before i with
  | nil => cases hsize
  | cons first rest ih =>
    obtain ⟨s, d⟩ := first
    have hfirst : Accounts m before s (p.paint (Layout.of m s) d) := by
      constructor
      · -- a display with cells is reported on by what came before
        intro hcells
        exact reports_paint hcells (hok _ List.mem_cons_self) hbefore
      · -- one without cells leaves the painter as it was
        intro hempty
        obtain ⟨hnotices, hpainter⟩ := paint_of_isEmpty (m := m) (p := p) (d := d) hempty
        exact ⟨Layout.isTooSmall_of_isEmpty m hempty, hnotices, by rw [hpainter, hbefore]⟩
    cases i with
    -- the first display has those before it that were given
    | zero =>
      cases hsize
      cases hpainted
      rw [List.take_zero, List.append_nil]
      exact hfirst
    | succ i =>
      -- for the displays after it, the first one has been remembered, if it has cells
      have hafter : (p.paint (Layout.of m s) d).painter.degraded
          = endsSmall m (withCells (before ++ [s])) := by
        unfold withCells
        rw [List.filter_append]
        cases hcells : s.isEmpty with
        | false =>
          rw [(hfirst.1 hcells).degraded, List.filter_cons_of_pos (by rw [hcells]; rfl), List.filter_nil,
            endsSmall_append_singleton]
        | true =>
          rw [(hfirst.2 hcells).2.2, List.filter_cons_of_neg (by rw [hcells]; decide), List.filter_nil,
            List.append_nil]
          rfl
      rw [List.map_cons, List.take_succ_cons, ← List.singleton_append, ← List.append_assoc]
      exact ih hafter (fun _ h => hok _ (List.mem_cons_of_mem _ h)) hsize hpainted

theorem length_paintAll (p : Painter) (displays : List (Size × δ)) :
    (p.paintAll m displays).length = (displays.map Prod.fst).length := by
  induction displays generalizing p with
  | nil => rfl
  | cons first rest ih => exact congrArg (· + 1) (ih _)

/-- Displays that refuse nothing are all painted to the end. -/
theorem outcome_paintAll (p : Painter) (sizes : List Size) :
    ∀ painted ∈ p.paintAll m (sizes.map fun size => (size, Canvas.blank size)),
      painted.outcome = .ok () := by
  induction sizes generalizing p with
  | nil => exact nofun
  | cons size rest ih =>
    intro painted hpainted
    rw [List.map_cons, paintAll, List.mem_cons] at hpainted
    -- a blank canvas refuses nothing, whoever paints on it
    obtain hfirst | hpainted := hpainted
    · have hok := p.outcome_paint_of_obliging m (Canvas.obliging_blank size)
      rw [show (Canvas.blank size).size = size from rfl] at hok
      rw [hfirst, hok]
    · exact ih _ painted hpainted

/-- **Changes are reported once**, and only changes. When a new painter paints several displays in turn
and none of them refuses anything, it reports at every display with cells what has changed since the
last display with cells, and remembers it. Where a display has no cells it reports nothing and
remembers what was before, although every such display is too small. So if all displays have cells,
what has changed since the display before is reported. -/
theorem transitions_reported (p : Painter) (hfresh : p.degraded = false) (displays : List (Size × δ))
    (hok : ∀ painted ∈ p.paintAll m displays, painted.outcome = .ok ()) :
    let sizes := displays.map Prod.fst
    (p.paintAll m displays).length = sizes.length ∧
      ∀ i size painted, sizes[i]? = some size → (p.paintAll m displays)[i]? = some painted →
        Accounts m (sizes.take i) size painted ∧
          ((∀ s ∈ sizes, s.isEmpty = false) → Reports m (sizes.take i) size painted) := by
  intro sizes
  refine ⟨length_paintAll m p displays, fun i size painted hsize hpainted => ?_⟩
  -- a new painter remembers what it would after no displays
  have hnone : p.degraded = endsSmall m (withCells []) := hfresh
  have haccounts := accounts_paintAll m hnone hok hsize hpainted
  rw [List.nil_append] at haccounts
  refine ⟨haccounts, fun hcells => ?_⟩
  -- if all displays have cells, the last one with cells is the last one
  have hall : withCells (sizes.take i) = sizes.take i := by
    refine List.filter_eq_self.2 fun s hs => ?_
    rw [hcells s (List.mem_of_mem_take hs)]
    rfl
  rw [← hall]
  exact haccounts.1 (hcells size (List.mem_of_getElem? hsize))

/-- Displays that become too small, lose their cells, and are large enough again. -/
def shrinking : List Size := [⟨8, 30⟩, ⟨0, 10⟩, ⟨7, 30⟩, ⟨24, 80⟩, ⟨24, 0⟩, ⟨24, 80⟩]

theorem transitions_reported_shrinking :
    let p : Painter := .fresh {} default
    let displays := shrinking.map fun size => (size, Canvas.blank size)
    p.degraded = false ∧ (∀ painted ∈ p.paintAll {} displays, painted.outcome = .ok ()) ∧
      ∀ painted, (p.paintAll {} displays)[3]? = some painted →
        .displayLargeEnough ⟨24, 80⟩ ∈ painted.notices := by
  intro p displays
  have hok := outcome_paintAll {} p shrinking
  refine ⟨rfl, hok, fun painted hpainted => ?_⟩
  have haccounts := ((transitions_reported {} p rfl displays hok).2 3 ⟨24, 80⟩ painted rfl hpainted).1
  exact ((haccounts.1 rfl).largeEnough _).2 ⟨rfl, rfl, rfl⟩

/-- **Not every display is reported on**: one without cells is too small, and this is not said. -/
theorem transitions_reported_empty :
    ¬ ∀ (m : Measures) (p : Painter) (displays : List (Size × Canvas)), p.degraded = false →
      (∀ painted ∈ p.paintAll m displays, painted.outcome = .ok ()) →
      ∀ i size painted, (displays.map Prod.fst)[i]? = some size →
        (p.paintAll m displays)[i]? = some painted →
        Reports m ((displays.map Prod.fst).take i) size painted := by
  intro h
  have hreports := h {} (.fresh {} default) [(⟨0, 10⟩, Canvas.blank ⟨0, 10⟩)] rfl
    (outcome_paintAll {} _ [⟨0, 10⟩]) 0 ⟨0, 10⟩ _ rfl rfl
  have hnotice := (hreports.tooSmall ⟨0, 10⟩).2 ⟨rfl, by decide, rfl⟩
  rw [(paint_of_isEmpty rfl).1] at hnotice
  exact absurd hnotice List.not_mem_nil

end Painter

end FramedShell
