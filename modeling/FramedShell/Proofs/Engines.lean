import FramedShell.Proofs.Screen

/-!
# The engine is seen in the viewport only

Two runs begin in the same circumstances but for their engines, for example one with the emulator and
one without any. As long as the display refuses nothing, the two take the same course: they ask
their masters the same and are answered the same, take the same keys, end in the same way, and show
the same cells everywhere around the viewport (`engine_unseen`).

The proof follows both runs side by side. Two stages are *alike* if they differ in their engines and
in the cells of the viewport at most, and two actions are *parallel* if they lead from alike parts to
alike parts with the same result. Parallel actions compose, so the actions of a step are parallel
one by one.

## Main definitions

* `Stage.IsAround` — the cells around the viewport;
* `Stage.Alike`, `Live.Alike`, `Loop.Alike` — equal but for the engine and what is seen of it;
* `Live.Parallel` — two actions side by side;
* `Outset.withEngine` — the same circumstances with another engine.
-/

namespace FramedShell

open Canvas

/-! ### Drawings that leave a cell alone -/

/-- Cells that are put elsewhere leave a cell alone. -/
theorem Canvas.cellAt_putCells_of_elsewhere (size : Size) (rows : List (List Cell))
    {start : Position} {cells : List Cell} {r c : Nat}
    (h : ¬ (r = start.row.toNat ∧ start.col.toNat ≤ c ∧ c < start.col.toNat + cells.length)) :
    cellAt (strokedRows size rows (.putCells start cells)) r c = cellAt rows r c := by
  unfold cellAt strokedRows
  rw [List.getElem?_modify]
  cases rows[r]? with
  | none => rfl
  | some row =>
    rw [Option.map_eq_map, Option.map_some, Option.bind_some, Option.bind_some]
    by_cases heq : start.row.toNat = r
    · rw [if_pos heq, getElem?_overlay, if_neg fun hin => h ⟨heq.symm, hin.2⟩]
    · rw [if_neg heq]

/-- **Showing a grid leaves the cells around the viewport alone**, whatever display it is shown on. -/
theorem Grid.cellAt_showing_of_outside (grid : Option Grid) {m : Measures} {display : Size}
    (size : Size) (rows : List (List Cell)) {r c : Nat}
    (hout : ∀ v, (Layout.of m display).viewport = some v → ¬ v.Contains r c) :
    cellAt ((showing grid (Layout.of m display).viewport).foldl (strokedRows size) rows) r c
      = cellAt rows r c := by
  unfold showing
  cases grid with
  | none => rfl
  | some g =>
    cases hv : (Layout.of m display).viewport with
    | none => rfl
    | some v =>
      obtain ⟨frame, -, hplaced⟩ := Layout.placed_of_viewport hv
      have hr := Coord.toNat_lt_count display.rows
      have hlast := hplaced.within.1
      -- the cursor is placed last, and no cell changes by that
      dsimp only
      rw [strokes_eq g hplaced.isEmpty_viewport, cursorStrokes_eq g hplaced.within,
        List.foldl_append, List.foldl_append]
      -- each row is drawn in the viewport
      have hrows : ∀ count, count ≤ v.size.rows.toNat →
          cellAt (((List.range count).map (g.rowStroke v)).foldl (strokedRows size) rows) r c
            = cellAt rows r c := by
        intro count
        induction count with
        | zero => exact fun _ => rfl
        | succ count ih =>
          -- the last of the rows lies in the viewport, which the cell is outside of
          intro hcount
          rw [List.range_succ, List.map_append, List.foldl_append, List.map_singleton,
            List.foldl_cons, List.foldl_nil, rowStroke_eq g hplaced.within (by omega),
            cellAt_putCells_of_elsewhere, ih (by omega)]
          rintro ⟨hrow, hcols⟩
          have hplace : (UInt16.ofNat (v.origin.row.toNat + count)).toNat
              = v.origin.row.toNat + count := Coord.toNat_ofNat_of_lt (by omega)
          simp only [UInt16.ofNat_toNat, Row.length_fit] at hcols
          refine hout v hv ⟨?_, hcols⟩
          rw [hrow, hplace]
          omega
      exact hrows _ (Nat.le_refl _)

/-- The painter once it has painted a layout. On a display without cells it learns nothing. -/
def Painter.informed (p : Painter) (l : Layout) : Painter :=
  if l.display.isEmpty then p else { p with degraded := l.isTooSmall }

namespace Canvas.Obliging

variable {canvas : Canvas} (h : canvas.Obliging)

include h

/-- A canvas that refuses nothing tells its size. -/
theorem size_eq : Display.size canvas = (.ok canvas.size, canvas.consume .size) := by
  change ((if canvas.refuses .size then _ else _ : Except DisplayFault Size), _) = _
  rw [h.refuses]
  rfl

/-- A canvas that refuses nothing carries a stroke out. -/
theorem stroked {stroke : Stroke} (hs : stroke ≠ .beyond) :
    ∃ d, Display.draw stroke canvas = (.ok (), d) ∧ d.Obliging ∧ d.size = canvas.size ∧
      d.picture = Canvas.stroked canvas.size canvas.picture stroke := by
  obtain ⟨d, hd, hobliging⟩ := h.draw hs
  obtain ⟨d', hd', hsize, hpicture⟩ | ⟨call, d', hd'⟩ := draw_cases hs canvas
  · -- the outcome is known, and so is what a stroke that is carried out does
    obtain rfl := (Prod.mk.inj (hd.symm.trans hd')).2
    exact ⟨d, hd, hobliging, hsize, hpicture⟩
  · cases hd.symm.trans hd'

/-- A canvas that refuses nothing carries a drawing out. -/
theorem drawn {strokes : List Stroke} (hs : Stroke.InRange strokes) :
    ∃ d, Display.drawAll strokes canvas = (.ok (), d) ∧ d.Obliging ∧ d.size = canvas.size ∧
      d.picture = strokes.foldl (Canvas.stroked canvas.size) canvas.picture := by
  obtain ⟨d, hd, hobliging⟩ := h.drawAll hs
  obtain ⟨d', hd', hsize, hpicture⟩ | ⟨call, d', hd'⟩ := drawAll_cases hs canvas
  · obtain rfl := (Prod.mk.inj (hd.symm.trans hd')).2
    exact ⟨d, hd, hobliging, hsize, hpicture⟩
  · cases hd.symm.trans hd'

/-- **A canvas that refuses nothing is painted** with the cells of the picture, whatever was there. -/
theorem painted (p : Painter) (m : Measures) (size : Size) :
    ∃ d notices, p.paint (Layout.of m size) canvas
        = ⟨.ok (), p.informed (Layout.of m size), d, notices⟩ ∧
      d.Obliging ∧ d.size = canvas.size ∧
      d.picture.rows = (p.strokes (Layout.of m size)).foldl (strokedRows canvas.size)
        (blankRows canvas.size) := by
  obtain ⟨d, hd, hobliging, hsize, hpicture⟩ := h.drawn (Painter.inRange_strokes p m size)
  have hrows : d.picture.rows = (p.strokes (Layout.of m size)).foldl (strokedRows canvas.size)
      (blankRows canvas.size) := by
    -- the picture begins with a cleared display
    rw [hpicture, rows_foldl_stroked, Painter.foldl_strokes_rows]
  unfold Painter.paint Painter.informed
  rw [hd]
  dsimp only
  split
  · -- a display without cells is not flushed
    exact ⟨d, [], rfl, hobliging, hsize, hrows⟩
  · -- the flush at the end changes no cell
    obtain ⟨d', hd', hobliging', hsize', hpicture'⟩ :=
      hobliging.stroked (show Stroke.flush ≠ .beyond from nofun)
    rw [hd']
    refine ⟨d', _, rfl, hobliging', hsize'.trans hsize, ?_⟩
    rw [hpicture']
    exact hrows

end Canvas.Obliging

/-! ### Stages that are alike -/

section

variable {ε ε' κ : Type}

/-- **A cell around the viewport**: not in the viewport of the layout that was taken up last. -/
def Stage.IsAround (stage : Stage Canvas ε κ) (r c : Nat) : Prop :=
  ∀ l v, stage.layout = some l → l.viewport = some v → ¬ v.Contains r c

/-- **Two stages have the same parts** but for the engine and what the displays show, and their
displays refuse nothing. -/
structure Stage.SameParts (stage : Stage Canvas ε κ) (stage' : Stage Canvas ε' κ) : Prop where
  keys_eq : stage'.keys = stage.keys
  painter_eq : stage'.painter = stage.painter
  measures_eq : stage'.measures = stage.measures
  relay_eq : stage'.relay = stage.relay
  layout_eq : stage'.layout = stage.layout
  size_eq : stage'.size = stage.size
  pollInterval_eq : stage'.pollInterval = stage.pollInterval
  displaySize_eq : stage'.display.size = stage.display.size
  obliging : stage.display.Obliging
  obliging' : stage'.display.Obliging
  /-- The layout is that of some display, and the relay has seen it last. -/
  layout_of : ∀ l, stage.layout = some l → ∃ m display, l = Layout.of m display
  lastLayout_eq : stage.relay.lastLayout = stage.layout

/-- **Two stages are alike** if they differ in the engine and in the cells of the viewport at most. -/
structure Stage.Alike (stage : Stage Canvas ε κ) (stage' : Stage Canvas ε' κ) : Prop
    extends Stage.SameParts stage stage' where
  cell_eq : ∀ r c, stage.IsAround r c → stage'.display.cell? r c = stage.display.cell? r c

/-- The stage with another display. -/
def Stage.withDisplay (stage : Stage Canvas ε κ) (d : Canvas) : Stage Canvas ε κ :=
  { stage with display := d }

/-- Drawing on both displays leaves stages alike if the displays are alike around the viewport. -/
theorem Stage.Alike.withDisplay {stage : Stage Canvas ε κ} {stage' : Stage Canvas ε' κ}
    (h : stage.Alike stage') {d d' : Canvas} (hsize : d'.size = d.size)
    (hcell : ∀ r c, stage.IsAround r c → d'.cell? r c = d.cell? r c) (hd : d.Obliging)
    (hd' : d'.Obliging) : (stage.withDisplay d).Alike (stage'.withDisplay d') :=
  { h with displaySize_eq := hsize, cell_eq := hcell, obliging := hd, obliging' := hd' }

/-- The displays of alike stages, asked for their sizes. -/
theorem Stage.Alike.asked {stage : Stage Canvas ε κ} {stage' : Stage Canvas ε' κ}
    (h : stage.Alike stage') :
    (stage.withDisplay (stage.display.consume .size)).Alike
      (stage'.withDisplay (stage'.display.consume .size)) :=
  h.withDisplay h.displaySize_eq h.cell_eq (h.obliging.consume .size) (h.obliging'.consume .size)

end

namespace Live

variable {ε ε' κ π : Type}

/-- The parts of two runs are alike: the stages are, and the sessions are equal. -/
structure Alike (live : Live Canvas ε κ π) (live' : Live Canvas ε' κ π) : Prop where
  stage : live.stage.Alike live'.stage
  session_eq : live'.session = live.session

/-- **Two outcomes are alike**: the results are equal and the parts alike. -/
inductive AlikeResults {α : Type} :
    EStateM.Result LoopFault (Live Canvas ε κ π) α →
      EStateM.Result LoopFault (Live Canvas ε' κ π) α → Prop where
  | ok (x : α) {live : Live Canvas ε κ π} {live' : Live Canvas ε' κ π} (h : live.Alike live') :
      AlikeResults (.ok x live) (.ok x live')
  | error (e : LoopFault) {live : Live Canvas ε κ π} {live' : Live Canvas ε' κ π}
      (h : live.Alike live') : AlikeResults (.error e live) (.error e live')

/-- **Two actions are parallel** if they lead from alike parts to alike outcomes. -/
def Parallel {α : Type} (a : Act Canvas ε κ π α) (b : Act Canvas ε' κ π α) : Prop :=
  ∀ live live', live.Alike live' → AlikeResults (a live) (b live')

section

variable {α β : Type}

theorem parallel_pure (x : α) :
    Parallel (pure x : Act Canvas ε κ π α) (pure x : Act Canvas ε' κ π α) :=
  fun _ _ h => .ok x h

/-- Alike outcomes are followed alike. -/
theorem AlikeResults.bind {a : Act Canvas ε κ π α} {b : Act Canvas ε' κ π α}
    {f : α → Act Canvas ε κ π β} {g : α → Act Canvas ε' κ π β} {live : Live Canvas ε κ π}
    {live' : Live Canvas ε' κ π} (h : AlikeResults (a live) (b live'))
    (hf : ∀ x, Parallel (f x) (g x)) : AlikeResults ((a >>= f) live) ((b >>= g) live') := by
  -- what comes next runs from the parts that the first action has left, if it has succeeded
  generalize hr : a live = r at h
  generalize hr' : b live' = r' at h
  cases h with
  | ok x hafter =>
    rw [bind_ok hr, bind_ok hr']
    exact hf x _ _ hafter
  | error e hafter =>
    rw [bind_error hr, bind_error hr']
    exact .error e hafter

/-- **Parallel actions compose.** -/
theorem parallel_bind {a : Act Canvas ε κ π α} {b : Act Canvas ε' κ π α}
    {f : α → Act Canvas ε κ π β} {g : α → Act Canvas ε' κ π β} (ha : Parallel a b)
    (hf : ∀ x, Parallel (f x) (g x)) : Parallel (a >>= f) (b >>= g) :=
  fun live live' h => (ha live live' h).bind hf

/-- What follows may refer to the parts. -/
theorem parallel_get_bind {f : Live Canvas ε κ π → Act Canvas ε κ π β}
    {g : Live Canvas ε' κ π → Act Canvas ε' κ π β}
    (h : ∀ live live', live.Alike live' → Parallel (f live) (g live')) :
    Parallel (MonadState.get >>= f) (MonadState.get >>= g) :=
  fun live live' halike => h live live' halike live live' halike

/-- Reports are no matter of likeness. -/
theorem parallel_note (n n' : Notice) :
    Parallel (note n : Act Canvas ε κ π Unit) (note n' : Act Canvas ε' κ π Unit) :=
  fun _ _ h => .ok () ⟨h.stage, h.session_eq⟩

/-- Equal sessions carry an operation out alike. -/
theorem parallel_onSession (f : Session π → Noticed (Session π) α) :
    Parallel (onSession f : Act Canvas ε κ π α) (onSession f : Act Canvas ε' κ π α) := by
  intro live live' h
  change AlikeResults
    (.ok (f live.session).result
      (Live.mk live.stage (f live.session).state (live.notices ++ (f live.session).notices)))
    (.ok (f live'.session).result
      (Live.mk live'.stage (f live'.session).state (live'.notices ++ (f live'.session).notices)))
  -- the operation depends on the session alone, and the sessions are equal
  rw [h.session_eq]
  exact .ok _ ⟨h.stage, rfl⟩

end

/-! ### The parts of a step -/

section

variable [OutputDecoder ε] [OutputDecoder ε']

theorem parallel_decode (bytes : List UInt8) :
    Parallel (decode bytes : Act Canvas ε κ π Unit) (decode bytes : Act Canvas ε' κ π Unit) :=
  fun _ _ h => .ok () ⟨{ h.stage with }, h.session_eq⟩

omit [OutputDecoder ε'] in
/-- **Showing the grid** draws in the viewport only. -/
theorem showGrid_around {live : Live Canvas ε κ π} (hobliging : live.stage.display.Obliging)
    (hlayout : ∀ l, live.stage.layout = some l → ∃ m display, l = Layout.of m display) :
    ∃ d, showGrid live = .ok () { live with stage := live.stage.withDisplay d } ∧
      d.Obliging ∧ d.size = live.stage.display.size ∧
      ∀ r c, live.stage.IsAround r c → d.cell? r c = live.stage.display.cell? r c := by
  unfold showGrid
  rw [get_bind]
  cases hl : live.stage.layout with
  | none => exact ⟨live.stage.display, rfl, hobliging, rfl, fun _ _ _ => rfl⟩
  | some l =>
    -- the layout is that of some display, so the viewport lies within it and nothing is out of range
    obtain ⟨m, display, rfl⟩ := hlayout l hl
    obtain ⟨d, hd, hd', hsize, hpicture⟩ := hobliging.drawn
      (Grid.inRange_showing (OutputDecoder.grid live.stage.engine) m display)
    have hdrawn : draw (Grid.showing (OutputDecoder.grid live.stage.engine)
          (Layout.of m display).viewport) live
        = .ok () { live with stage := live.stage.withDisplay d } := by
      unfold draw
      rw [hd]
      rfl
    refine ⟨d, ?_, hd', hsize, ?_⟩
    · -- with a grid or without, the strokes are those of `Grid.showing`
      dsimp only
      cases hg : OutputDecoder.grid live.stage.engine with
      | none =>
        rw [hg] at hdrawn
        exact hdrawn
      | some g =>
        rw [hg] at hdrawn
        exact hdrawn
    · -- the strokes stay in the viewport
      intro r c haround
      rw [cell?_eq_cellAt, hpicture, rows_foldl_stroked]
      exact Grid.cellAt_showing_of_outside _ _ _ fun v hv => haround _ v hl hv

theorem parallel_showGrid :
    Parallel (showGrid : Act Canvas ε κ π Unit) (showGrid : Act Canvas ε' κ π Unit) := by
  intro live live' h
  have hlayout' : ∀ l, live'.stage.layout = some l → ∃ m display, l = Layout.of m display := by
    rw [h.stage.layout_eq]
    exact h.stage.layout_of
  obtain ⟨d, hd, hob, hsize, hcell⟩ := showGrid_around h.stage.obliging h.stage.layout_of
  obtain ⟨d', hd', hob', hsize', hcell'⟩ := showGrid_around h.stage.obliging' hlayout'
  rw [hd, hd']
  refine .ok () ⟨h.stage.withDisplay ?_ ?_ hob hob', h.session_eq⟩
  · -- drawing keeps the sizes, which were equal
    rw [hsize, hsize', h.stage.displaySize_eq]
  · -- the layouts are equal, so the cell is around the viewport of both
    intro r c haround
    have haround' : live'.stage.IsAround r c := by
      unfold Stage.IsAround
      rw [h.stage.layout_eq]
      exact haround
    rw [hcell' r c haround', hcell r c haround, h.stage.cell_eq r c haround]

variable [Master π]

/-- **The relay follows the display alike** whatever the engine: an engine is told sizes and is not
asked for anything. -/
theorem follow_engine (r : SizeRelay) (display : Size) (s : Session π) (engine : ε)
    (engine' : ε') :
    (r.follow display s engine').relay = (r.follow display s engine).relay ∧
      (r.follow display s engine').target = (r.follow display s engine).target := by
  unfold SizeRelay.follow SizeRelay.offer
  dsimp only
  -- the ways of following differ in what is offered, and none of them looks at the engine
  split
  · exact ⟨rfl, rfl⟩
  · split
    · exact ⟨rfl, rfl⟩
    · split <;> exact ⟨rfl, rfl⟩

omit [OutputDecoder ε'] in
/-- A size that is taken up is painted if its layout is not the one the relay has seen last. -/
theorem takeUpSize_eq (size : Size) (live : Live Canvas ε κ π) :
    takeUpSize size live
      = (if live.stage.relay.lastLayout ≠ some (Layout.of live.stage.relay.measures size) then
            (do paint (Layout.of live.stage.relay.measures size); showGrid)
          else pure () : Act Canvas ε κ π Unit) (relayed size live) := by
  have hlayout := live.stage.relay.layout_follow size live.session live.stage.engine
  have hrepaint := live.stage.relay.repaint_follow size live.session live.stage.engine
  change (if (live.stage.relay.follow size live.session live.stage.engine).repaint = true then
      (do
        paint (live.stage.relay.follow size live.session live.stage.engine).layout
        showGrid)
    else pure () : Act Canvas ε κ π Unit) (relayed size live) = _
  -- what is repainted depends on the last layout alone
  rw [hlayout, hrepaint]
  simp only [decide_eq_true_eq]

/-- The relay leaves the same parts behind. -/
theorem sameParts_relayed {live : Live Canvas ε κ π} {live' : Live Canvas ε' κ π}
    (h : live.Alike live') (size : Size) :
    (relayed size live).stage.SameParts (relayed size live').stage ∧
      (relayed size live').session = (relayed size live).session := by
  obtain ⟨hrelay, htarget⟩ :=
    follow_engine live.stage.relay size live.session live.stage.engine live'.stage.engine
  have hlayout := live.stage.relay.layout_follow size live.session live.stage.engine
  have hlayout' := live'.stage.relay.layout_follow size live'.session live'.stage.engine
  have hlast := (live.stage.relay.follow_outcome size live.session live.stage.engine).lastLayout
  unfold relayed
  -- the relays were equal before, and follow to the same layout
  rw [h.stage.relay_eq, h.session_eq] at hlayout' ⊢
  dsimp only
  refine ⟨?_, htarget⟩
  exact { h.stage.toSameParts with
    relay_eq := hrelay
    layout_eq := congrArg some (hlayout'.trans hlayout.symm)
    size_eq := rfl
    layout_of := fun l hl => ⟨_, _, (Option.some.inj hl).symm.trans hlayout⟩
    lastLayout_eq := hlast.trans (congrArg some hlayout.symm) }

omit [OutputDecoder ε] [OutputDecoder ε'] [Master π] in
/-- **Painting makes the same parts alike**: both displays have the cells of the picture. -/
theorem paint_alike {live : Live Canvas ε κ π} {live' : Live Canvas ε' κ π}
    (h : live.stage.SameParts live'.stage) (hsession : live'.session = live.session) (m : Measures)
    (size : Size) :
    AlikeResults (paint (Layout.of m size) live) (paint (Layout.of m size) live') := by
  obtain ⟨d, notices, hpaint, hd, hsize, hrows⟩ := h.obliging.painted live.stage.painter m size
  obtain ⟨d', notices', hpaint', hd', hsize', hrows'⟩ := h.obliging'.painted live'.stage.painter m size
  unfold paint
  rw [hpaint, hpaint']
  refine .ok () ⟨?_, hsession⟩
  -- the picture is that of equal painters on equal sizes, whatever was shown
  have hcells : d'.picture.rows = d.picture.rows := by
    rw [hrows, hrows', h.painter_eq, h.displaySize_eq]
  exact { h with
    painter_eq := congrArg (Painter.informed · _) h.painter_eq
    displaySize_eq := by rw [hsize, hsize', h.displaySize_eq]
    obliging := hd
    obliging' := hd'
    cell_eq := fun r c _ => by rw [cell?_eq_cellAt, cell?_eq_cellAt, hcells] }

/-- **Taking up a size** ends alike: a new layout is painted on a cleared display, and an old one
leaves the viewport where it was. -/
theorem parallel_takeUpSize (size : Size) :
    Parallel (takeUpSize size : Act Canvas ε κ π Unit) (takeUpSize size : Act Canvas ε' κ π Unit) := by
  intro live live' h
  obtain ⟨hparts, hsession⟩ := sameParts_relayed h size
  rw [takeUpSize_eq, takeUpSize_eq, h.stage.relay_eq]
  split
  · -- a new layout is painted, and the grid is shown on it
    exact (paint_alike hparts hsession _ size).bind fun _ => parallel_showGrid
  · rename_i hold
    have hlayout := live.stage.relay.layout_follow size live.session live.stage.engine
    refine .ok () ⟨{ hparts with cell_eq := ?_ }, hsession⟩
    -- nothing is painted, so the cells around the viewport are those from before
    intro r c haround
    refine h.stage.cell_eq r c ?_
    -- the layout is the one that was there before
    have hsame : (relayed size live).stage.layout = live.stage.layout := by
      rw [← h.stage.lastLayout_eq, Decidable.not_not.1 hold, ← hlayout]
      rfl
    unfold Stage.IsAround at haround ⊢
    rw [hsame] at haround
    exact haround

theorem parallel_followDisplay :
    Parallel (followDisplay : Act Canvas ε κ π Unit) (followDisplay : Act Canvas ε' κ π Unit) := by
  have hask : Parallel (askSize : Act Canvas ε κ π Size) (askSize : Act Canvas ε' κ π Size) := by
    intro live live' h
    unfold askSize
    rw [h.stage.obliging.size_eq, h.stage.obliging'.size_eq, h.stage.displaySize_eq]
    exact .ok _ ⟨h.stage.asked, h.session_eq⟩
  -- the size that was answered is taken up if it is not the one that was known
  refine parallel_bind hask fun size => parallel_get_bind fun live live' h => ?_
  rw [h.stage.size_eq]
  split
  · exact parallel_takeUpSize size
  · exact parallel_pure ()

omit [OutputDecoder ε] [OutputDecoder ε'] in
theorem parallel_readOutput :
    Parallel (readOutput : Act Canvas ε κ π _) (readOutput : Act Canvas ε' κ π _) := by
  refine parallel_get_bind fun live live' h => ?_
  rw [h.stage.pollInterval_eq]
  refine parallel_bind (parallel_onSession _) fun r => ?_
  match r with
  | .ok true => exact parallel_onSession _
  | .ok false => exact parallel_pure _
  | .error e => exact parallel_pure _

omit [OutputDecoder ε] [OutputDecoder ε'] in
theorem parallel_endingOfOutput :
    Parallel (endingOfOutput : Act Canvas ε κ π _) (endingOfOutput : Act Canvas ε' κ π _) := by
  refine parallel_bind (parallel_onSession _) fun r => ?_
  match r with
  | .ok (some exit) => exact parallel_pure _
  | .ok none => exact parallel_pure _
  | .error e => exact parallel_bind (parallel_note _ _) fun _ => parallel_pure _

theorem parallel_drainOutput (n : Nat) :
    Parallel (drainOutput n : Act Canvas ε κ π Bool) (drainOutput n : Act Canvas ε' κ π Bool) := by
  induction n with
  | zero => exact parallel_pure false
  | succ n ih =>
    refine parallel_bind (parallel_onSession _) fun r => ?_
    -- what is read depends on the session, and goes to the engine
    match r with
    | .ok (.data bytes) =>
      exact parallel_bind (parallel_decode bytes) fun _ =>
        parallel_bind ih fun _ => parallel_pure true
    | .ok .empty => exact parallel_pure false
    | .ok .endOfStream => exact parallel_pure false
    | .error e => exact parallel_bind (parallel_note _ _) fun _ => parallel_pure false

theorem parallel_checkExit :
    Parallel (checkExit : Act Canvas ε κ π _) (checkExit : Act Canvas ε' κ π _) := by
  have hdrain : Parallel (drain : Act Canvas ε κ π Unit) (drain : Act Canvas ε' κ π Unit) := by
    refine parallel_bind (parallel_drainOutput _) fun fed => ?_
    cases fed with
    | true => exact parallel_showGrid
    | false => exact parallel_pure ()
  refine parallel_bind (parallel_onSession _) fun r => ?_
  -- output of a dead child is shown before the loop ends
  match r with
  | .ok (some exit) => exact parallel_bind hdrain fun _ => parallel_pure _
  | .ok none => exact parallel_pure none
  | .error e => exact parallel_bind (parallel_note _ _) fun _ => parallel_pure none

variable [KeySource κ]

omit [OutputDecoder ε] [OutputDecoder ε'] in
/-- **The keyboard is served alike**, also where the keys cannot be read. -/
theorem parallel_serveKeyboard :
    Parallel (serveKeyboard : Act Canvas ε κ π Unit) (serveKeyboard : Act Canvas ε' κ π Unit) := by
  have hnext : Parallel (nextKey : Act Canvas ε κ π _) (nextKey : Act Canvas ε' κ π _) := by
    intro live live' h
    unfold nextKey
    rw [h.stage.keys_eq]
    rcases KeySource.next live.stage.keys with ⟨answer, keys⟩
    have halike : Stage.Alike { live.stage with keys := keys } { live'.stage with keys := keys } :=
      { h.stage with keys_eq := rfl }
    cases answer with
    | ok key => exact .ok key ⟨halike, h.session_eq⟩
    | error e => exact .error _ ⟨halike, h.session_eq⟩
  have hsend : ∀ key, Parallel (sendKey key : Act Canvas ε κ π Unit)
      (sendKey key : Act Canvas ε' κ π Unit) := by
    intro key
    unfold sendKey
    split
    · -- a key that stands for bytes is sent to the child
      refine parallel_bind (parallel_onSession _) fun r => ?_
      match r with
      | .error e => exact parallel_note _ _
      | .ok () =>
        refine parallel_get_bind fun live live' h => ?_
        rw [h.session_eq]
        split
        · exact parallel_note _ _
        · exact parallel_pure ()
    · -- a key that stands for none is passed over
      exact parallel_pure ()
  have htake : Parallel (takeKey : Act Canvas ε κ π Unit) (takeKey : Act Canvas ε' κ π Unit) := by
    refine parallel_bind hnext fun key => ?_
    cases key with
    | some key => exact hsend key
    | none => exact parallel_pure ()
  -- input that could not be written is tried again first, and a failure there is only reported
  refine parallel_bind (parallel_onSession _) fun r => ?_
  match r with
  | .ok () => exact htake
  | .error e => exact parallel_bind (parallel_note _ _) fun _ => htake

/-- **Steps are parallel.** -/
theorem parallel_step : Parallel (step : Act Canvas ε κ π _) (step : Act Canvas ε' κ π _) := by
  have hserve : Parallel (do serveKeyboard; checkExit : Act Canvas ε κ π _)
      (do serveKeyboard; checkExit : Act Canvas ε' κ π _) :=
    parallel_bind parallel_serveKeyboard fun _ => parallel_checkExit
  have hend : Parallel (some <$> endingOfOutput : Act Canvas ε κ π (Option Ending))
      (some <$> endingOfOutput : Act Canvas ε' κ π (Option Ending)) :=
    parallel_bind parallel_endingOfOutput fun _ => parallel_pure _
  refine parallel_bind parallel_followDisplay fun _ => ?_
  refine parallel_bind parallel_readOutput fun r => ?_
  -- output is shown and the keyboard served; the end of the output ends the run
  match r with
  | .ok (.data bytes) =>
    exact parallel_bind (parallel_decode bytes) fun _ =>
      parallel_bind parallel_showGrid fun _ => hserve
  | .ok .empty => exact hserve
  | .ok .endOfStream => exact parallel_bind (parallel_note _ _) fun _ => hend
  | .error e => exact parallel_bind (parallel_note _ _) fun _ => hend

omit [KeySource κ] in
/-- **Opening the window** ends alike where no layout was taken up before. -/
theorem opening_alike (initial size : Size) {live : Live Canvas ε κ π} {live' : Live Canvas ε' κ π}
    (h : live.Alike live') (hnone : live.stage.layout = none) :
    AlikeResults (opening initial size live) (opening initial size live') := by
  -- the relay is new on both sides
  have hrelay : SizeRelay.new live'.stage.measures initial
      = SizeRelay.new live.stage.measures initial := by rw [h.stage.measures_eq]
  unfold opening
  -- the window of the child is set first, and a refusal of it is only reported
  rw [onSession_bind, onSession_bind, h.session_eq]
  cases (live.session.setSize initial).result with
  | ok _ =>
    exact parallel_takeUpSize size _ _
      ⟨{ h.stage with relay_eq := hrelay, lastLayout_eq := hnone.symm }, rfl⟩
  | error e =>
    exact parallel_takeUpSize size _ _
      ⟨{ h.stage with relay_eq := hrelay, lastLayout_eq := hnone.symm }, rfl⟩

end

end Live

/-! ### Loops and runs side by side -/

section

variable {ε ε' κ π : Type}

/-- **Two loops are alike**: they are in the same state, with equal sessions and stages that are
alike. The session of a recorded master holds all that was asked of it and answered. -/
structure Loop.Alike (loop : Loop Canvas ε κ π) (loop' : Loop Canvas ε' κ π) : Prop where
  state_eq : loop'.state = loop.state
  session_eq : loop'.session = loop.session
  stage : loop.stage.Alike loop'.stage

namespace Loop

variable {loop : Loop Canvas ε κ π} {loop' : Loop Canvas ε' κ π}

theorem alike_opened {r : EStateM.Result LoopFault (Live Canvas ε κ π) Unit}
    {r' : EStateM.Result LoopFault (Live Canvas ε' κ π) Unit} (h : loop.Alike loop')
    (hr : Live.AlikeResults r r') : (loop.opened r).state.Alike (loop'.opened r').state := by
  cases hr with
  | ok x hlive => exact ⟨h.state_eq, congrArg some hlive.session_eq, hlive.stage⟩
  | error e hlive => exact ⟨h.state_eq, congrArg some hlive.session_eq, hlive.stage⟩

theorem alike_stepped {r : EStateM.Result LoopFault (Live Canvas ε κ π) (Option Ending)}
    {r' : EStateM.Result LoopFault (Live Canvas ε' κ π) (Option Ending)} (h : loop.Alike loop')
    (hr : Live.AlikeResults r r') : (loop.stepped r).state.Alike (loop'.stepped r').state := by
  cases hr with
  | ok answer hlive =>
    -- an answer ends the loop, in the same state on both sides
    cases answer with
    | none => exact ⟨h.state_eq, congrArg some hlive.session_eq, hlive.stage⟩
    | some ending => exact ⟨rfl, congrArg some hlive.session_eq, hlive.stage⟩
  | error e hlive => exact ⟨h.state_eq, congrArg some hlive.session_eq, hlive.stage⟩

variable [OutputDecoder ε] [OutputDecoder ε'] [Master π]

/-- **Loops that are alike start alike**, whether or not the child can be spawned. -/
theorem Alike.start (h : loop.Alike loop') (hnone : loop.stage.layout = none)
    (spawn : Size → Except PtyError π) :
    (loop.start spawn).state.Alike (loop'.start spawn).state := by
  have hsize := h.stage.obliging.size_eq
  have hsize' := h.stage.obliging'.size_eq
  rw [h.stage.displaySize_eq] at hsize'
  -- the child is asked for with the same window, so both are spawned or neither is
  cases hspawn : spawn (firstWindow loop.stage.measures loop.stage.display.size) with
  | error e =>
    have hspawn' := hspawn
    rw [← h.stage.measures_eq] at hspawn'
    rw [start_of_unspawned hsize hspawn, start_of_unspawned hsize' hspawn']
    exact ⟨rfl, h.session_eq, h.stage.asked⟩
  | ok master =>
    have hspawn' := hspawn
    rw [← h.stage.measures_eq] at hspawn'
    rw [start_of_spawned hsize hspawn, start_of_spawned hsize' hspawn', h.stage.measures_eq]
    refine alike_opened h (Live.opening_alike _ _ ⟨h.stage.asked, ?_⟩ hnone)
    unfold spawned
    rw [h.stage.measures_eq]

variable [KeySource κ]

/-- **Loops that are alike step alike.** -/
theorem Alike.step (h : loop.Alike loop') : loop.step.state.Alike loop'.step.state := by
  cases hstate : loop.state with
  -- a loop that has ended does nothing more
  | terminated t =>
    have hstate' : loop'.state = .terminated t := h.state_eq.trans hstate
    rw [step_of_terminated hstate, step_of_terminated hstate']
    exact h
  | running =>
    have hstate' : loop'.state = .running := h.state_eq.trans hstate
    cases hs : loop.session with
    -- without a session there is nothing to do
    | none =>
      have hs' : loop'.session = none := h.session_eq.trans hs
      rw [step_of_session_none hs, step_of_session_none hs']
      exact h
    | some session =>
      -- the step of a session is parallel
      have hs' : loop'.session = some session := h.session_eq.trans hs
      rw [step_of_running hstate hs, step_of_running hstate' hs']
      exact alike_stepped h (Live.parallel_step _ _ ⟨h.stage, rfl⟩)

end Loop

/-- **The display changes by itself with its size only.** Keys and child are free to do anything. -/
def Turn.OnlyResizes : Turn Canvas κ π → Prop
  | .step => True
  | .world display _ _ =>
    (∀ canvas, display canvas = canvas) ∨ ∃ size, ∀ canvas, display canvas = canvas.resize size

/-- Stages that are alike stay so while the world changes both. A display of another size is blank. -/
theorem Stage.Alike.stir {stage : Stage Canvas ε (RecordedKeys κ)}
    {stage' : Stage Canvas ε' (RecordedKeys κ)} (h : stage.Alike stage') {display : Canvas → Canvas}
    (hdisplay : (∀ canvas, display canvas = canvas) ∨
      ∃ size, ∀ canvas, display canvas = canvas.resize size) (keys : κ → κ) :
    (stage.stir display keys).Alike (stage'.stir display keys) := by
  have hkeys : { stage'.keys with source := keys stage'.keys.source }
      = { stage.keys with source := keys stage.keys.source } := by
    rw [h.keys_eq]
  have hstirred : (stage.withDisplay (display stage.display)).Alike
      (stage'.withDisplay (display stage'.display)) := by
    obtain hsame | ⟨size, hresize⟩ := hdisplay
    · rw [hsame, hsame]
      exact h
    · rw [hresize, hresize]
      exact h.withDisplay rfl (fun _ _ _ => rfl) h.obliging h.obliging'
  exact { hstirred with keys_eq := hkeys }

variable [OutputDecoder ε] [OutputDecoder ε'] [KeySource κ] [Master π]

/-- **Loops that are alike stay so in every turn.** -/
theorem Loop.Alike.turn {loop : Loop Canvas ε (RecordedKeys κ) (Recorded π)}
    {loop' : Loop Canvas ε' (RecordedKeys κ) (Recorded π)} (h : loop.Alike loop')
    {turn : Turn Canvas κ π} (hturn : turn.OnlyResizes) :
    (loop.turn turn).Alike (loop'.turn turn) := by
  cases turn with
  | step => exact h.step
  | world display keys master =>
    exact ⟨h.state_eq, congrArg (Option.map _) h.session_eq, h.stage.stir hturn keys⟩

/-- The same circumstances with another engine. -/
def Outset.withEngine (o : Outset Canvas ε κ π) (engine : ε') : Outset Canvas ε' κ π :=
  ⟨o.display, o.keys, engine, o.measures, o.theme, o.pollInterval, o.spawn⟩

omit [OutputDecoder ε] [OutputDecoder ε'] [KeySource κ] [Master π] in
/-- **A fresh stage is alike to itself with another engine**: there is no layout yet, so all cells lie
around the viewport, and both displays are the one that was handed over. -/
theorem Outset.alike_freshStage (o : Outset Canvas ε κ π) (engine : ε') (hdisplay : o.display.Obliging) :
    o.fresh.stage.Alike (o.withEngine engine).fresh.stage where
  keys_eq := rfl
  painter_eq := rfl
  measures_eq := rfl
  relay_eq := rfl
  layout_eq := rfl
  size_eq := rfl
  pollInterval_eq := rfl
  displaySize_eq := rfl
  obliging := hdisplay
  obliging' := hdisplay
  layout_of := nofun
  lastLayout_eq := rfl
  cell_eq _ _ _ := rfl

omit [OutputDecoder ε] [OutputDecoder ε'] [KeySource κ] [Master π] in
/-- A fresh loop is alike to itself with another engine. -/
theorem Outset.alike_fresh (o : Outset Canvas ε κ π) (engine : ε') (hdisplay : o.display.Obliging) :
    o.fresh.Alike (o.withEngine engine).fresh where
  state_eq := rfl
  session_eq := rfl
  stage := o.alike_freshStage engine hdisplay

/-- **The engine is seen in the viewport only.** Two runs that differ in their engines are alike at
all times, as long as their displays refuse nothing and change with their sizes only. -/
theorem engine_unseen (o : Outset Canvas ε κ π) (engine : ε') (hdisplay : o.display.Obliging)
    (turns : List (Turn Canvas κ π)) (hturns : ∀ turn ∈ turns, turn.OnlyResizes) :
    (o.run turns).Alike ((o.withEngine engine).run turns) := by
  induction turns using List.reverseRecOn with
  | nil =>
    -- both are started with the same child
    exact (o.alike_fresh engine hdisplay).start rfl _
  | append_singleton turns turn ih =>
    rw [Outset.run_append, Outset.run_append]
    exact (ih fun t ht => hturns t (List.mem_append_left _ ht)).turn
      (hturns turn (List.mem_append_right _ (List.mem_singleton_self turn)))

end

open Outset in
/-- A greeting and a larger display, with the emulator and without. -/
theorem engine_unseen_greeting :
    (rehearsal ⟨24, 80⟩ []).display.Obliging ∧ (∀ turn ∈ greeting, turn.OnlyResizes) ∧
      ((rehearsal ⟨24, 80⟩ []).run greeting).Alike
        (((rehearsal ⟨24, 80⟩ []).withEngine Engine.off).run greeting) := by
  have hdisplay : (rehearsal ⟨24, 80⟩ []).display.Obliging := obliging_blank _
  have hturns : ∀ turn ∈ greeting, turn.OnlyResizes := by
    simp only [greeting, List.forall_mem_cons]
    exact ⟨.inl fun _ => rfl, trivial, .inr ⟨_, fun _ => rfl⟩, trivial, nofun⟩
  exact ⟨hdisplay, hturns, engine_unseen _ _ hdisplay _ hturns⟩

end FramedShell
