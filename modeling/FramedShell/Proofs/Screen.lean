import FramedShell.Proofs.Picture
import FramedShell.Proofs.Run

/-!
# The screen follows the state

As long as the display refuses nothing, the screen shows what the state of the loop says: after the
start and after every step, the cells and the cursor are those of the engine's grid in the picture
for the size of the display, and no trace is left of what was drawn before (`screen_shows`).

Within a step the screen may lag behind. A stage is *framed* while only the viewport does, and
*faithful* once the grid was shown; output frames, showing the grid makes faithful, and a new size
of the display is painted over whatever was there. What follows after a refused call is left open by
these contracts: the fault is then a refusal (`LoopFault.IsRefusal`), which a run on an undisturbed
display does not have.

## Main definitions

* `Stage.IsFramed`, `Stage.IsFaithful` — what holds of a stage within and after a step;
* `Stage.Ready` — what holds before a step, when the display may have changed its size;
* `Outset.Undisturbed` — the runs that `screen_shows` is about.
-/

namespace FramedShell

/-- **The display has refused a call.** -/
def LoopFault.IsRefusal : LoopFault → Prop
  | .sizeUnknown (.refused _) => True
  | .sizeUnknown .overflow => False
  | .drawing (.refused _) => True
  | .drawing .overflow => False
  | .keyboard _ => False

namespace Stage

variable {κ : Type} (m : Measures) (theme : Theme)

/-- The grid of the engine. -/
def grid (stage : Stage Canvas Engine κ) : Option Grid := Engine.grid stage.engine

/-- **The parts that drawing relies on**: the layout of the size taken up last, and a painter that
is like a fresh one. -/
structure IsSet (stage : Stage Canvas Engine κ) : Prop where
  takenUp : stage.TakenUp m
  painter_eq : stage.painter
    = { Painter.fresh m theme with degraded := stage.painter.degraded }

/-- **The picture around the viewport is right.** -/
structure IsFramed (stage : Stage Canvas Engine κ) : Prop extends IsSet m theme stage where
  size_eq : stage.display.size = stage.size
  framed : Framed m theme stage.grid stage.display

/-- **The screen shows the grid of the engine.** -/
structure IsFaithful (stage : Stage Canvas Engine κ) : Prop extends IsFramed m theme stage where
  shows : Shows m theme stage.grid stage.display

/-- **The stage is ready for a step**: the screen is faithful, or the display has another size. -/
structure Ready (stage : Stage Canvas Engine κ) : Prop extends IsSet m theme stage where
  faithful : stage.display.size = stage.size →
    Framed m theme stage.grid stage.display ∧ Shows m theme stage.grid stage.display

/-- **Two stages with the same screen**, and the same parts that drawing relies on. -/
structure SameScreen (stage stage' : Stage Canvas Engine κ) : Prop where
  relay_eq : stage'.relay = stage.relay
  layout_eq : stage'.layout = stage.layout
  size_eq : stage'.size = stage.size
  painter_eq : stage'.painter = stage.painter
  engine_eq : stage'.engine = stage.engine
  displaySize_eq : stage'.display.size = stage.display.size
  picture_eq : stage'.display.picture = stage.display.picture

/-- Display and engine are no parts of it. -/
theorem IsSet.of_same {m : Measures} {theme : Theme} {stage stage' : Stage Canvas Engine κ}
    (h : stage.IsSet m theme) (hrelay : stage'.relay = stage.relay)
    (hlayout : stage'.layout = stage.layout) (hsize : stage'.size = stage.size)
    (hpainter : stage'.painter = stage.painter) : stage'.IsSet m theme := by
  refine ⟨⟨?_, ?_, ?_⟩, ?_⟩
  · -- layout, size, relay and painter are the parts that are kept
    rw [hrelay]
    exact h.takenUp.measures_eq
  · rw [hlayout, hsize]
    exact h.takenUp.layout_eq
  · rw [hrelay, hlayout]
    exact h.takenUp.lastLayout_eq
  · rw [hpainter]
    exact h.painter_eq

section

variable {m theme} {stage stage' : Stage Canvas Engine κ} (hsame : SameScreen stage stage')

include hsame

theorem IsFaithful.of_same (h : stage.IsFaithful m theme) : stage'.IsFaithful m theme := by
  have hset : stage'.IsSet m theme :=
    h.toIsSet.of_same hsame.relay_eq hsame.layout_eq hsame.size_eq hsame.painter_eq
  have hgrid : stage'.grid = stage.grid := congrArg Engine.grid hsame.engine_eq
  -- the size, the picture and the grid are the same in both
  refine ⟨⟨hset, ?_, ?_⟩, ?_⟩
  · rw [hsame.displaySize_eq, hsame.size_eq]
    exact h.size_eq
  · rw [hgrid]
    exact h.framed.of_same hsame.displaySize_eq hsame.picture_eq
  · rw [hgrid]
    exact h.shows.of_same hsame.displaySize_eq hsame.picture_eq

theorem Ready.of_same (h : stage.Ready m theme) : stage'.Ready m theme := by
  have hset : stage'.IsSet m theme :=
    h.toIsSet.of_same hsame.relay_eq hsame.layout_eq hsame.size_eq hsame.painter_eq
  have hgrid : stage'.grid = stage.grid := congrArg Engine.grid hsame.engine_eq
  refine ⟨hset, ?_⟩
  -- only where the display has the size taken up last is anything asked of the screen
  intro hsize
  rw [hsame.displaySize_eq, hsame.size_eq] at hsize
  rw [hgrid]
  obtain ⟨hframed, hshows⟩ := h.faithful hsize
  exact ⟨hframed.of_same hsame.displaySize_eq hsame.picture_eq,
    hshows.of_same hsame.displaySize_eq hsame.picture_eq⟩

end

/-- A faithful stage is ready for the next step. -/
theorem IsFaithful.ready {m : Measures} {theme : Theme} {stage : Stage Canvas Engine κ}
    (h : stage.IsFaithful m theme) : stage.Ready m theme :=
  ⟨h.toIsSet, fun _ => ⟨h.framed, h.shows⟩⟩

end Stage

/-! ### The contracts of the actions -/

namespace Live

variable {κ π : Type} (m : Measures) (theme : Theme)

/-- What holds of the ways in which an action can fail: the display has refused a call, or the keys
could not be read on a faithful screen. -/
def Fails (e : LoopFault) (live : Live Canvas Engine κ π) : Prop :=
  e.IsRefusal ∨ (∃ cause, e = .keyboard cause) ∧ live.stage.IsFaithful m theme

variable {m theme}

/-- Drawing strokes in range on a canvas. -/
theorem draw_cases {strokes : List Stroke} (h : Stroke.InRange strokes)
    (live : Live Canvas Engine κ π) :
    (∃ d, draw strokes live = .ok () { live with stage := { live.stage with display := d } } ∧
      d.size = live.stage.display.size ∧
      d.picture
        = strokes.foldl (Canvas.stroked live.stage.display.size) live.stage.display.picture) ∨
    ∃ call live', draw strokes live = .error (.drawing (.refused call)) live' := by
  unfold draw
  obtain ⟨d, hd, hsize, hpicture⟩ | ⟨call, d, hd⟩ := Canvas.drawAll_cases h live.stage.display
  · -- all strokes are drawn
    rw [hd]
    exact .inl ⟨d, rfl, hsize, hpicture⟩
  · -- one of them is refused, and the drawing stops
    rw [hd]
    exact .inr ⟨call, _, rfl⟩

/-- **Showing the grid makes a framed screen faithful.** -/
theorem meets_showGrid :
    Meets (fun live => live.stage.IsFramed m theme) (showGrid : Act Canvas Engine κ π Unit)
      (fun _ live => live.stage.IsFaithful m theme) (Fails m theme) := by
  refine meets_get_bind fun live₀ h₀ => ?_
  rw [h₀.takenUp.layout_eq]
  dsimp only
  -- with a grid or without, the strokes are those of `Grid.showing`
  have hdraw : Meets (fun live => live = live₀)
      (draw (Grid.showing live₀.stage.grid (Layout.of m live₀.stage.size).viewport)
        : Act Canvas Engine κ π Unit)
      (fun _ live => live.stage.IsFaithful m theme) (Fails m theme) := by
    rintro live rfl
    obtain ⟨d, hd, hsize, hpicture⟩ | ⟨call, live', hd⟩ :=
      draw_cases (Grid.inRange_showing live.stage.grid m live.stage.size) live
    · -- the drawing shows the grid on what was framed before
      rw [hd]
      rw [← h₀.size_eq] at hpicture
      obtain ⟨hframed, hshows⟩ := h₀.framed.shows hsize hpicture
      exact ⟨⟨h₀.toIsSet.of_same rfl rfl rfl rfl, hsize.trans h₀.size_eq, hframed⟩, hshows⟩
    · -- the display has refused a stroke
      rw [hd]
      exact .inl trivial
  cases hg : OutputDecoder.grid live₀.stage.engine with
  | none =>
    have hgrid : live₀.stage.grid = none := hg
    rw [hgrid] at hdraw
    exact hdraw
  | some g =>
    have hgrid : live₀.stage.grid = some g := hg
    rw [hgrid] at hdraw
    exact hdraw

/-- **Painting frames the screen**, whatever it showed. -/
theorem meets_paint (size : Size) :
    Meets (fun live => live.stage.IsSet m theme ∧ live.stage.display.size = live.stage.size ∧
        live.stage.size = size)
      (paint (Layout.of m size) : Act Canvas Engine κ π Unit)
      (fun _ live => live.stage.IsFramed m theme) (Fails m theme) := by
  rintro live ⟨hset, hdisplay, rfl⟩
  -- the picture is that of the display, which has the size that was taken up
  rw [show Layout.of m live.stage.size = Layout.of m live.stage.display.size from
    congrArg _ hdisplay.symm]
  obtain ⟨degraded, hpainter⟩ := painter_paint live.stage.painter
    (Layout.of m live.stage.display.size) live.stage.display
  unfold paint
  -- the painting goes through, or is refused
  obtain ⟨hok, hsize, hpicture⟩ | ⟨call, hrefused⟩ :=
    live.stage.painter.paint_cases m live.stage.display
  · simp only [hok]
    refine ⟨⟨⟨hset.takenUp.1, hset.takenUp.2, hset.takenUp.3⟩, ?_⟩, hsize.trans hdisplay, ?_⟩
    · dsimp only
      rw [hpainter, hset.painter_eq]
    · exact framed_of_painted hset.painter_eq hsize hpicture _
  · simp only [hrefused]
    exact .inl trivial

variable [Master π]

/-- **A new size is painted over whatever was there.** -/
theorem meets_takeUpSize (size : Size) :
    Meets (fun live => live.stage.relay.measures = m ∧
        live.stage.painter
          = { Painter.fresh m theme with degraded := live.stage.painter.degraded } ∧
        live.stage.display.size = size ∧ live.stage.relay.lastLayout ≠ some (Layout.of m size))
      (takeUpSize size : Act Canvas Engine κ π Unit)
      (fun _ live => live.stage.IsFaithful m theme) (Fails m theme) := by
  refine meets_bind (Q := fun answer live => answer = (Layout.of m size, true) ∧
    live.stage.IsSet m theme ∧ live.stage.display.size = live.stage.size ∧
    live.stage.size = size) ?_ ?_
  · -- the size is passed on, and the display is as it was
    rintro live ⟨rfl, hpainter, hsize, hlast⟩
    refine ⟨?_, ⟨takenUp_relayed live rfl size, hpainter⟩, hsize, rfl⟩
    -- the layout is another one, so the picture is painted again
    refine Prod.ext (SizeRelay.layout_follow _ _ _ _) ?_
    exact (SizeRelay.repaint_follow _ _ _ _).trans (decide_eq_true hlast)
  · -- the picture is painted for the new layout, and the grid is shown in it
    rintro ⟨l, repaint⟩ live ⟨hanswer, hstage⟩
    cases hanswer
    exact meets_bind (meets_paint size) (fun _ => meets_showGrid) live hstage

/-- **Following the display makes a ready stage faithful.** -/
theorem meets_followDisplay :
    Meets (fun live => live.stage.Ready m theme) (followDisplay : Act Canvas Engine κ π Unit)
      (fun _ live => live.stage.IsFaithful m theme) (Fails m theme) := by
  refine meets_bind
    (Q := fun size live => live.stage.Ready m theme ∧ live.stage.display.size = size) ?_ ?_
  · -- the display tells its size, or refuses to, and the screen stays the same
    intro live hready
    unfold askSize
    obtain ⟨d, hd, hsize, hpicture⟩ | ⟨call, d, hd⟩ := Canvas.size_cases live.stage.display
    · rw [hd]
      have hsame : Stage.SameScreen live.stage { live.stage with display := d } :=
        ⟨rfl, rfl, rfl, rfl, rfl, hsize, hpicture⟩
      exact ⟨hready.of_same hsame, hsize⟩
    · rw [hd]
      exact .inl trivial
  · -- the size that it told decides whether anything is taken up
    intro size
    refine meets_get_bind ?_
    rintro live₀ ⟨hready, rfl⟩
    split
    · -- another size has another layout, so that the picture is painted again
      rename_i hne
      refine (meets_takeUpSize live₀.stage.display.size).restrict ?_
      rintro live rfl
      refine ⟨hready.takenUp.measures_eq, hready.painter_eq, rfl, ?_⟩
      rw [hready.takenUp.lastLayout_eq, hready.takenUp.layout_eq]
      intro heq
      have hdisplay := congrArg Layout.display (Option.some.inj heq)
      rw [Layout.display_of, Layout.display_of] at hdisplay
      exact hne hdisplay.symm
    · -- the same size: a ready stage is faithful then
      rename_i heq
      refine meets_pure ?_
      rintro live rfl
      have hsame : live.stage.display.size = live.stage.size := Decidable.not_not.1 heq
      obtain ⟨hframed, hshows⟩ := hready.faithful hsame
      exact ⟨⟨⟨hready.takenUp, hready.painter_eq⟩, hsame, hframed⟩, hshows⟩

/-- Output changes the grid, and with it the viewport only. -/
theorem framed_of_decode {stage : Stage Canvas Engine κ} (h : stage.IsFramed m theme)
    (bytes : List UInt8) :
    Stage.IsFramed m theme { stage with engine := OutputDecoder.feed bytes stage.engine } := by
  refine ⟨h.toIsSet.of_same rfl rfl rfl rfl, h.size_eq, ?_⟩
  refine h.framed.of_isSome ?_
  -- an engine has a grid by its kind, whatever it reads
  unfold Stage.grid
  cases stage.engine <;> rfl

omit [Master π] in
/-- A framed screen stays framed when output is read. -/
theorem meets_decode (bytes : List UInt8) :
    Meets (fun live => live.stage.IsFramed m theme) (decode bytes : Act Canvas Engine κ π Unit)
      (fun _ live => live.stage.IsFramed m theme) (Fails m theme) :=
  fun _ h => framed_of_decode h bytes

theorem offStage_readOutput : OffStage (readOutput : Act Canvas Engine κ π _) := by
  refine offStage_bind offStage_get fun live => offStage_bind (offStage_onSession _) fun r => ?_
  match r with
  | .ok true => exact offStage_onSession _
  | .ok false => exact offStage_pure _
  | .error e => exact offStage_pure _

theorem offStage_endingOfOutput : OffStage (endingOfOutput : Act Canvas Engine κ π _) := by
  refine offStage_bind (offStage_onSession _) fun r => ?_
  match r with
  | .ok (some exit) => exact offStage_pure _
  | .ok none => exact offStage_pure _
  | .error e => exact offStage_bind (offStage_note _) fun _ => offStage_pure _

theorem offStage_sendKey (key : Key) : OffStage (sendKey key : Act Canvas Engine κ π Unit) := by
  unfold sendKey
  split
  · -- the key is sent, and what became of it is at most reported
    refine offStage_bind (offStage_onSession _) fun r => ?_
    match r with
    | .error e => exact offStage_note _
    | .ok () =>
      refine offStage_bind offStage_get fun live => ?_
      split
      · exact offStage_note _
      · exact offStage_pure _
  · -- a change of the size is no input
    exact offStage_pure _

/-- The last output of a child that has ended keeps a framed screen framed. -/
theorem meets_drainOutput (n : Nat) :
    Meets (fun live => live.stage.IsFramed m theme) (drainOutput n : Act Canvas Engine κ π Bool)
      (fun _ live => live.stage.IsFramed m theme) (Fails m theme) := by
  -- each chunk goes to the engine, and the screen lags behind from the first one on
  induction n with
  | zero => exact (offStage_pure false).meets _ _
  | succ n ih =>
    refine meets_bind ((offStage_onSession _).meets _ _) fun r => ?_
    match r with
    | .ok (.data bytes) =>
      refine meets_bind (meets_decode bytes) fun _ => ?_
      exact meets_bind ih fun _ => (offStage_pure true).meets _ _
    | .ok .empty => exact (offStage_pure false).meets _ _
    | .ok .endOfStream => exact (offStage_pure false).meets _ _
    | .error e =>
      exact (offStage_bind (offStage_note _) fun _ => offStage_pure false).meets _ _

/-- **Draining leaves a faithful screen**: if there was any output the grid is shown again. -/
theorem meets_drain :
    Meets (fun live => live.stage.IsFaithful m theme) (drain : Act Canvas Engine κ π Unit)
      (fun _ live => live.stage.IsFaithful m theme) (Fails m theme) := by
  -- whether the screen lags behind is what the answer of the draining tells
  refine meets_bind (Q := fun fed live =>
    if fed = true then live.stage.IsFramed m theme else live.stage.IsFaithful m theme) ?_ ?_
  · -- the first reading decides whether there is any output
    refine meets_bind (Q := fun _ live => live.stage.IsFaithful m theme)
      ((offStage_onSession _).meets _ _) fun r => ?_
    match r with
    | .ok (.data bytes) =>
      refine meets_bind ((meets_decode bytes).restrict fun _ h => h.toIsFramed) fun _ => ?_
      exact meets_bind (meets_drainOutput _) fun _ => meets_pure fun _ h => h
    | .ok .empty => exact meets_pure fun _ h => h
    | .ok .endOfStream => exact meets_pure fun _ h => h
    | .error e =>
      exact meets_bind ((offStage_note _).meets _ _) fun _ => meets_pure fun _ h => h
  · -- if there was none, the screen is faithful still
    intro fed
    cases fed with
    | true => exact meets_showGrid
    | false => exact meets_pure fun _ h => h

theorem meets_checkExit_screen :
    Meets (fun live => live.stage.IsFaithful m theme) (checkExit : Act Canvas Engine κ π _)
      (fun _ live => live.stage.IsFaithful m theme) (Fails m theme) := by
  refine meets_bind ((offStage_onSession _).meets _ _) fun r => ?_
  match r with
  | .ok (some exit) => exact meets_bind meets_drain fun _ => (offStage_pure _).meets _ _
  | .ok none => exact (offStage_pure _).meets _ _
  | .error e => exact (offStage_bind (offStage_note _) fun _ => offStage_pure _).meets _ _

variable [KeySource κ]

/-- Keys are no matter of the screen. If they cannot be read, it stays faithful. -/
theorem meets_serveKeyboard :
    Meets (fun live => live.stage.IsFaithful m theme) (serveKeyboard : Act Canvas Engine κ π Unit)
      (fun _ live => live.stage.IsFaithful m theme) (Fails m theme) := by
  have hkeys : ∀ (stage : Stage Canvas Engine κ) (keys : κ), stage.IsFaithful m theme →
      Stage.IsFaithful m theme { stage with keys := keys } := by
    intro stage keys h
    have hsame : Stage.SameScreen stage { stage with keys := keys } :=
      ⟨rfl, rfl, rfl, rfl, rfl, rfl, rfl⟩
    exact h.of_same hsame
  -- the keys are read after what is pending was offered, whether that went well or not
  have htake : Meets (fun live => live.stage.IsFaithful m theme)
      (takeKey : Act Canvas Engine κ π Unit)
      (fun _ live => live.stage.IsFaithful m theme) (Fails m theme) := by
    refine meets_bind (Q := fun _ live => live.stage.IsFaithful m theme) ?_ ?_
    · intro live h
      unfold nextKey
      rcases hn : KeySource.next live.stage.keys with ⟨answer, k⟩
      cases answer with
      | ok key => exact hkeys live.stage k h
      | error e => exact .inr ⟨⟨e, rfl⟩, hkeys live.stage k h⟩
    · intro key
      cases key with
      | some key => exact (offStage_sendKey key).meets _ _
      | none => exact (offStage_pure ()).meets _ _
  refine meets_bind ((offStage_onSession _).meets _ _) fun r => ?_
  cases r with
  | ok _ => exact htake
  | error e => exact meets_bind ((offStage_note _).meets _ _) fun _ => htake

/-- **A step makes a ready stage faithful**, also where it ends the run. -/
theorem meets_step_screen :
    Meets (fun live => live.stage.Ready m theme) (step : Act Canvas Engine κ π _)
      (fun _ live => live.stage.IsFaithful m theme) (Fails m theme) := by
  have hserve : Meets (fun live => live.stage.IsFaithful m theme)
      (do serveKeyboard; checkExit : Act Canvas Engine κ π _)
      (fun _ live => live.stage.IsFaithful m theme) (Fails m theme) :=
    meets_bind meets_serveKeyboard fun _ => meets_checkExit_screen
  have hend : OffStage (some <$> endingOfOutput : Act Canvas Engine κ π (Option Ending)) :=
    offStage_bind offStage_endingOfOutput fun _ => offStage_pure _
  -- output makes the screen lag behind until the grid is shown; nothing else does
  refine meets_bind meets_followDisplay fun _ => ?_
  refine meets_bind (offStage_readOutput.meets _ _) fun r => ?_
  match r with
  | .ok (.data bytes) =>
    -- the output makes the screen lag behind, and showing the grid catches up
    refine meets_bind ((meets_decode bytes).restrict fun _ h => h.toIsFramed) fun _ => ?_
    exact meets_bind meets_showGrid fun _ => hserve
  | .ok .empty => exact hserve
  -- the end of the output leaves the stage alone, and so does a failure of the child's side
  | .ok .endOfStream => exact (offStage_bind (offStage_note _) fun _ => hend).meets _ _
  | .error e => exact (offStage_bind (offStage_note _) fun _ => hend).meets _ _

omit [KeySource κ] in
/-- **Opening the window makes the screen faithful**, whatever the display showed before. -/
theorem meets_opening (initial size : Size) :
    Meets (fun live => live.stage.measures = m ∧
        live.stage.painter
          = { Painter.fresh m theme with degraded := live.stage.painter.degraded } ∧
        live.stage.display.size = size)
      (opening initial size : Act Canvas Engine κ π Unit)
      (fun _ live => live.stage.IsFaithful m theme) (Fails m theme) := by
  rintro live ⟨hmeasures, hpainter, hsize⟩
  -- the relay is new and knows no layout, so that the first one is painted
  have hfirst : (none : Option Layout) ≠ some (Layout.of m size) := nofun
  unfold opening
  rw [onSession_bind]
  -- whatever the child says to its first size, the display is taken up
  cases (live.session.setSize initial).result with
  | ok _ => exact meets_takeUpSize size _ ⟨hmeasures, hpainter, hsize, hfirst⟩
  | error e => exact meets_takeUpSize size _ ⟨hmeasures, hpainter, hsize, hfirst⟩

end Live

/-! ### Along a run -/

/-- **No call of the display was refused.** -/
def Unrefused (r : Except LoopFault Unit) : Prop := ∀ e, r = .error e → ¬ e.IsRefusal

theorem unrefused_of_ok {r : Except LoopFault Unit} (h : r.toBool = true) : Unrefused r := by
  rintro e rfl
  cases h

namespace Loop

variable {κ π : Type} [Master π] {m : Measures} {theme : Theme} {loop : Loop Canvas Engine κ π}

theorem faithful_start {spawn : Size → Except PtyError π} (hmeasures : loop.stage.measures = m)
    (hpainter : loop.stage.painter
      = { Painter.fresh m theme with degraded := loop.stage.painter.degraded })
    (hnone : loop.session = none) (hsession : (loop.start spawn).state.session.isSome = true)
    (hr : Unrefused (loop.start spawn).result) :
    (loop.start spawn).state.stage.IsFaithful m theme := by
  have hanswer := Canvas.size_cases loop.stage.display
  have hstarts := loop.start_cases spawn
  generalize loop.start spawn = started at hsession hr hstarts ⊢
  cases hstarts with
  | unsized e display hsize =>
    -- a canvas keeps its size to itself only by refusing the call
    obtain ⟨d, hd, -⟩ | ⟨call, d, hd⟩ := hanswer <;> rw [hsize] at hd <;> cases hd
    exact absurd trivial (hr _ rfl)
  -- a child that was not spawned brings no session about
  | unspawned =>
    change loop.session.isSome = true at hsession
    rw [hnone] at hsession
    cases hsession
  -- the display has told its size, and the opening takes it up
  | spawned size display master hsize hspawn =>
    obtain ⟨d, hd, hsame, -⟩ | ⟨call, d, hd⟩ := hanswer <;> rw [hsize] at hd <;> cases hd
    have hopening := Live.meets_opening (firstWindow loop.stage.measures loop.stage.display.size)
      loop.stage.display.size (loop.spawned display loop.stage.display.size master)
      ⟨hmeasures, hpainter, hsame⟩
    rw [stage_opened]
    cases hlive : Live.opening (firstWindow loop.stage.measures loop.stage.display.size)
        loop.stage.display.size (loop.spawned display loop.stage.display.size master) with
    | ok _ live =>
      rw [hlive] at hopening
      exact hopening
    | error e live =>
      rw [hlive] at hopening hr
      -- the opening has failed: by a refusal, which is excluded, or on a faithful screen
      obtain hrefused | ⟨-, hfaithful⟩ := hopening
      · exact absurd hrefused (hr e rfl)
      · exact hfaithful

variable [KeySource κ]

/-- **A step of a loop that runs makes the screen faithful.** -/
theorem faithful_step {session : Session π} (hrun : loop.state = .running)
    (hsession : loop.session = some session) (h : loop.stage.Ready m theme)
    (hr : Unrefused loop.step.result) : loop.step.state.stage.IsFaithful m theme := by
  have hstep := Live.meets_step_screen (⟨loop.stage, session, []⟩ : Live Canvas Engine κ π) h
  rw [step_of_running hrun hsession] at hr ⊢
  rw [stage_stepped]
  cases hlive : Live.step (⟨loop.stage, session, []⟩ : Live Canvas Engine κ π) with
  | ok answer live =>
    rw [hlive] at hstep
    exact hstep
  | error e live =>
    rw [hlive] at hstep hr
    -- the same two ways for a step to fail
    obtain hrefused | ⟨-, hfaithful⟩ := hstep
    · exact absurd hrefused (hr e rfl)
    · exact hfaithful

end Loop

/-- **A change of the display by itself leaves the screen alone**, or gives it another size than was
taken up last. -/
def Stage.Considerate {κ : Type} (stage : Stage Canvas Engine κ) (display : Canvas) : Prop :=
  (display.size = stage.display.size ∧ display.picture = stage.display.picture) ∨
    display.size ≠ stage.size

theorem Stage.Ready.stir {κ : Type} {m : Measures} {theme : Theme}
    {stage : Stage Canvas Engine (RecordedKeys κ)} (h : stage.Ready m theme)
    {display : Canvas → Canvas}
    (hd : stage.Considerate (display stage.display)) (keys : κ → κ) :
    (stage.stir display keys).Ready m theme := by
  obtain ⟨hsize, hpicture⟩ | hsize := hd
  · -- nothing has happened on the screen
    have hsame : SameScreen stage (stage.stir display keys) :=
      ⟨rfl, rfl, rfl, rfl, rfl, hsize, hpicture⟩
    exact h.of_same hsame
  · -- the next step takes the new size up, so nothing is asked of the screen
    refine ⟨h.toIsSet.of_same rfl rfl rfl rfl, ?_⟩
    intro heq
    exact absurd heq hsize

namespace Outset

variable {κ π : Type} [Master π] [KeySource κ]

/-- **A run on an undisturbed display**: no call is refused, and by itself the screen changes with
its size only. The keys, the child and its window are free to do anything. -/
inductive Undisturbed (o : Outset Canvas Engine κ π) : List (Turn Canvas κ π) → Prop where
  | start (h : Unrefused o.started.result) : Undisturbed o []
  | step (turns : List (Turn Canvas κ π)) (older : Undisturbed o turns)
      (h : Unrefused (o.run turns).step.result) : Undisturbed o (turns ++ [.step])
  | world (turns : List (Turn Canvas κ π)) (older : Undisturbed o turns) (display : Canvas → Canvas)
      (keys : κ → κ) (master : π → π)
      (h : (o.run turns).stage.Considerate (display (o.run turns).stage.display)) :
      Undisturbed o (turns ++ [.world display keys master])

/-- **The loop was at work last**: it was just started, or it has taken a step as it ran. -/
def WasAtWork (o : Outset Canvas Engine κ π) (turns : List (Turn Canvas κ π)) : Prop :=
  turns = [] ∨ ∃ older, turns = older ++ [.step] ∧ (o.run older).state = .running

variable {o : Outset Canvas Engine κ π} {turns : List (Turn Canvas κ π)}

/-- **The stage is ready at all times** of a run on an undisturbed display, and faithful where the
loop was at work last. -/
theorem ready_run (hspawns : o.Spawns) (h : o.Undisturbed turns) :
    (o.run turns).stage.Ready o.measures o.theme ∧
      (o.WasAtWork turns → (o.run turns).stage.IsFaithful o.measures o.theme) := by
  induction h with
  | start hr =>
    have hfaithful : (o.run []).stage.IsFaithful o.measures o.theme :=
      Loop.faithful_start rfl rfl rfl hspawns hr
    exact ⟨hfaithful.ready, fun _ => hfaithful⟩
  | step turns _ hr ih =>
    rw [run_append]
    change (o.run turns).step.state.stage.Ready o.measures o.theme ∧
      (_ → (o.run turns).step.state.stage.IsFaithful o.measures o.theme)
    cases hstate : (o.run turns).state with
    | running =>
      obtain ⟨session, hs⟩ := hspawns.session turns
      have hfaithful := Loop.faithful_step hstate hs ih.1 hr
      exact ⟨hfaithful.ready, fun _ => hfaithful⟩
    | terminated t =>
      rw [Loop.step_of_terminated hstate]
      refine ⟨ih.1, ?_⟩
      -- a step after the end is no work
      rintro (hnil | ⟨older, hlast, hrun⟩)
      · exact absurd hnil (List.append_ne_nil_of_right_ne_nil _ (List.cons_ne_nil _ _))
      · obtain rfl := List.append_cancel_right hlast
        cases hstate.symm.trans hrun
  | world turns _ display keys master hd ih =>
    rw [run_append]
    refine ⟨ih.1.stir hd keys, ?_⟩
    -- the loop was not at work in a turn of the world
    rintro (hnil | ⟨older, hlast, -⟩)
    · exact absurd hnil (List.append_ne_nil_of_right_ne_nil _ (List.cons_ne_nil _ _))
    · cases (List.append_inj' hlast rfl).2

end Outset

/-- **The screen is a function of the state.** On an undisturbed display it shows the grid of the
engine in the picture for its size, after the start and after every step that a running loop takes.
-/
theorem screen_shows {κ π : Type} [Master π] [KeySource κ] (o : Outset Canvas Engine κ π)
    (hspawns : o.Spawns) (turns : List (Turn Canvas κ π)) (h : o.Undisturbed turns)
    (hwork : o.WasAtWork turns) :
    Shows o.measures o.theme (o.run turns).stage.engine.grid (o.run turns).stage.display :=
  ((Outset.ready_run hspawns h).2 hwork).shows

/-- The child of a rehearsed run greets, and then the display becomes larger. -/
def Outset.greeting : List (Turn Canvas Rehearsal.KeyQueue Rehearsal.Child) :=
  [.world id id (·.say [104, 105]), .step, .world (·.resize ⟨30, 100⟩) id id, .step]

open Outset in
theorem screen_shows_greeting :
    (rehearsal ⟨24, 80⟩ []).Spawns ∧ (rehearsal ⟨24, 80⟩ []).Undisturbed greeting ∧
      (rehearsal ⟨24, 80⟩ []).WasAtWork greeting ∧
      Shows {} {} ((rehearsal ⟨24, 80⟩ []).run greeting).stage.engine.grid
        ((rehearsal ⟨24, 80⟩ []).run greeting).stage.display := by
  have hspawns := spawns_rehearsal ⟨24, 80⟩ []
  have hundisturbed : (rehearsal ⟨24, 80⟩ []).Undisturbed greeting := by
    refine .step (greeting.take 3) (.world (greeting.take 2) (.step (greeting.take 1)
      (.world [] (.start ?_) id id _ ?_) ?_) (·.resize ⟨30, 100⟩) id id ?_) ?_
    · exact unrefused_of_ok (by decide +kernel)
    · exact .inl ⟨rfl, rfl⟩
    · exact unrefused_of_ok (by decide +kernel)
    · exact .inr (by decide +kernel)
    · exact unrefused_of_ok (by decide +kernel)
  have hwork : (rehearsal ⟨24, 80⟩ []).WasAtWork greeting :=
    .inr ⟨greeting.take 3, rfl, by decide +kernel⟩
  exact ⟨hspawns, hundisturbed, hwork, screen_shows _ hspawns greeting hundisturbed hwork⟩

example : ((Outset.rehearsal ⟨24, 80⟩ []).run Outset.greeting).stage.display.cell? 7 4
    = some (.drawn ['i'] .plain) := by decide +kernel

end FramedShell
