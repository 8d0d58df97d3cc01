import FramedShell.Proofs.Effect
import FramedShell.Proofs.Layout

/-!
# What following the display leads to

`SizeRelay.follow` either makes no offer — there is no viewport, or its size is the accepted one —
or it offers the viewport's size, which the target accepts or refuses. `follow_outcome` states these
four ways once, so that what is kept along a run can be checked way by way.

Whichever way it went, the stage then has the layout of the size that was taken up
(`Stage.TakenUp`).
-/

namespace FramedShell

namespace SizeRelay

variable {τ ε : Type} [WindowTarget τ] [OutputDecoder ε]

/-- **The ways in which a new layout is passed on**: the relay, the target and the engine after it.
-/
inductive Outcome (r : SizeRelay) (l : Layout) (target : τ) (engine : ε) :
    SizeRelay → τ → ε → Prop where
  /-- There is no viewport, and nothing is offered. -/
  | unplaced (h : l.viewportSize = none) :
      Outcome r l target engine { r with lastLayout := some l } target engine
  /-- The viewport has the accepted size, and nothing is offered. -/
  | settled (h : l.viewportSize = some r.accepted) :
      Outcome r l target engine { r with lastLayout := some l } target engine
  /-- The size of the viewport is accepted. -/
  | accepted (size : Size) (h : l.viewportSize = some size) (hne : size ≠ r.accepted)
      (hok : (WindowTarget.setSize size target).result = .ok ()) :
      Outcome r l target engine ⟨r.measures, size, some l⟩ (WindowTarget.setSize size target).state
        (OutputDecoder.resize size engine).1
  /-- The size of the viewport is refused. -/
  | refused (size : Size) (e : PtyError) (h : l.viewportSize = some size) (hne : size ≠ r.accepted)
      (herr : (WindowTarget.setSize size target).result = .error e) :
      Outcome r l target engine { r with lastLayout := some l }
        (WindowTarget.setSize size target).state engine

section

variable (r : SizeRelay) (display : Size) (target : τ) (engine : ε)

@[simp] theorem layout_follow :
    (r.follow display target engine).layout = Layout.of r.measures display := by
  unfold follow offer
  dsimp only
  -- the layout is that of the display, whatever is offered and whatever becomes of the offer
  split
  · rfl
  · split
    · rfl
    · split <;> rfl

/-- The picture is painted again if and only if the layout is another one. -/
@[simp] theorem repaint_follow :
    (r.follow display target engine).repaint
      = decide (r.lastLayout ≠ some (Layout.of r.measures display)) := by
  unfold follow offer
  dsimp only
  -- the layout is compared with the one before it, whatever becomes of an offer
  split
  · rfl
  · split
    · rfl
    · split <;> rfl

/-- **Following the display has one of four outcomes.** -/
theorem follow_outcome :
    r.Outcome (Layout.of r.measures display) target engine
      (r.follow display target engine).relay (r.follow display target engine).target
      (r.follow display target engine).engine := by
  unfold follow
  dsimp only
  -- the case splits are those of `follow`, and of `offer` in it
  split
  · -- the display has no room for a viewport
    rename_i h
    exact .unplaced h
  · rename_i size h
    split
    · -- the size of the viewport is the accepted one already
      rename_i heq
      rw [heq] at h
      exact .settled h
    · rename_i hne
      unfold offer
      split
      · -- the target accepts the size
        rename_i target' told hset
        have haccepted : r.Outcome (Layout.of r.measures display) target engine _ _ _ :=
          .accepted size h hne (by rw [hset])
        rw [hset] at haccepted
        exact haccepted
      · -- the target refuses the size
        rename_i e target' told hset
        have hrefused : r.Outcome (Layout.of r.measures display) target engine _ _ _ :=
          .refused size e h hne (by rw [hset])
        rw [hset] at hrefused
        exact hrefused

end

/-- What the relay learns of a layout does not depend on what came of it. -/
theorem Outcome.lastLayout {r r' : SizeRelay} {l : Layout} {target target' : τ} {engine engine' : ε}
    (h : r.Outcome l target engine r' target' engine') : r'.lastLayout = some l := by
  cases h <;> rfl

theorem Outcome.measures {r r' : SizeRelay} {l : Layout} {target target' : τ} {engine engine' : ε}
    (h : r.Outcome l target engine r' target' engine') : r'.measures = r.measures := by
  cases h <;> rfl

/-- Of the target nothing is asked but a window size. -/
theorem Outcome.target {r r' : SizeRelay} {l : Layout} {target target' : τ} {engine engine' : ε}
    (h : r.Outcome l target engine r' target' engine') :
    target' = target ∨ ∃ size, target' = (WindowTarget.setSize size target).state := by
  cases h with
  | unplaced => exact .inl rfl
  | settled => exact .inl rfl
  | accepted size => exact .inr ⟨size, rfl⟩
  | refused size => exact .inr ⟨size, rfl⟩

/-- Of the engine nothing is asked but another size. -/
theorem Outcome.engine {r r' : SizeRelay} {l : Layout} {target target' : τ} {engine engine' : ε}
    (h : r.Outcome l target engine r' target' engine') :
    engine' = engine ∨ ∃ size, engine' = (OutputDecoder.resize size engine).1 := by
  cases h with
  | unplaced => exact .inl rfl
  | settled => exact .inl rfl
  | accepted size => exact .inr ⟨size, rfl⟩
  | refused => exact .inl rfl

end SizeRelay

/-! ### The layout of a stage -/

/-- **The stage has the layout of the size that was taken up last**, and so has the relay. -/
structure Stage.TakenUp {δ ε κ : Type} (measures : Measures) (stage : Stage δ ε κ) : Prop where
  measures_eq : stage.relay.measures = measures
  layout_eq : stage.layout = some (Layout.of measures stage.size)
  lastLayout_eq : stage.relay.lastLayout = stage.layout

namespace Live

variable {δ ε κ π : Type} [OutputDecoder ε] [Master π] {measures : Measures}
variable {live live' : Live δ ε κ π}

/-- The session after a size was taken up. -/
theorem session_relayed (size : Size) (live : Live δ ε κ π) :
    (relayed size live).session = live.session ∨
      ∃ window, (relayed size live).session = (live.session.setSize window).state :=
  (live.stage.relay.follow_outcome size live.session live.stage.engine).target

/-- The engine after a size was taken up. -/
theorem engine_relayed (size : Size) (live : Live δ ε κ π) :
    (relayed size live).stage.engine = live.stage.engine ∨
      ∃ grid, (relayed size live).stage.engine = (OutputDecoder.resize grid live.stage.engine).1 :=
  (live.stage.relay.follow_outcome size live.session live.stage.engine).engine

/-- Taking up a size brings the layout about. -/
theorem takenUp_relayed (live : Live δ ε κ π) (h : live.stage.relay.measures = measures)
    (size : Size) :
    (relayed size live).stage.TakenUp measures := by
  have ho := live.stage.relay.follow_outcome size live.session live.stage.engine
  have hl := live.stage.relay.layout_follow size live.session live.stage.engine
  refine ⟨ho.measures.trans h, ?_, ?_⟩
  · exact congrArg some (hl.trans (by rw [h]; rfl))
  · exact ho.lastLayout.trans (congrArg some hl.symm)

/-- Every effect keeps it. -/
theorem Effect.takenUp [KeySource κ] (he : Effect live live') (h : live.stage.TakenUp measures) :
    live'.stage.TakenUp measures := by
  cases he with
  | relayed size => exact takenUp_relayed _ h.measures_eq size
  | _ =>
    -- no other effect is about the layout
    exact ⟨h.measures_eq, h.layout_eq, h.lastLayout_eq⟩

end Live

end FramedShell
