import FramedShell.Proofs.Record
import FramedShell.Proofs.Relay
import Mathlib.Data.List.Chain

/-!
# The child does not notice small displays

A display may become too small for the frame and large again. The relay then makes no offer, and
what it makes of the sizes after it is what it would have made without it: of all that the relay
remembers, only the size accepted last decides about an offer. `small_displays_unnoticed` compares
the relay on a sequence of displays with the relay on those of them that have room for the frame.
Target and engine are recorded, so that equal targets were asked the same and have answered the
same.

It also says what the offers are like. The engine is given the accepted sizes and no others, each
with the display whose offer was accepted, and every accepted size differs from the one before it,
the first from the size that the child was started with.

## Main definitions

* `RecordedTarget` — a target with all sizes that it was offered;
* `Relaying` — a relay with its target and its engine, along several displays;
* `Relaying.Alike` — equal but for the layout that the relay has seen last;
* `Relaying.Orderly` — what the records of target and engine are like.
-/

namespace FramedShell

/-- **A recorded target.** It answers like the target in it. -/
structure RecordedTarget (τ : Type) where
  target : τ
  /-- All sizes that it was offered, with its answers, oldest first. -/
  offers : List (Size × Except PtyError Unit) := []

namespace RecordedTarget

variable {τ : Type}

instance [WindowTarget τ] : WindowTarget (RecordedTarget τ) where
  setSize size t :=
    ⟨(WindowTarget.setSize size t.target).result,
      ⟨(WindowTarget.setSize size t.target).state,
        t.offers ++ [(size, (WindowTarget.setSize size t.target).result)]⟩,
      (WindowTarget.setSize size t.target).notices⟩

/-- The size of an offer that was accepted. -/
def accepted? : Size × Except PtyError Unit → Option Size
  | (size, .ok ()) => some size
  | (_, .error _) => none

/-- The sizes that the target has accepted, oldest first. -/
def accepted (t : RecordedTarget τ) : List Size := t.offers.filterMap accepted?

variable [WindowTarget τ] {t : RecordedTarget τ} {size : Size}

theorem accepted_setSize_of_ok (h : (WindowTarget.setSize size t).result = .ok ()) :
    (WindowTarget.setSize size t).state.accepted = t.accepted ++ [size] := by
  change (t.offers ++ [(size, (WindowTarget.setSize size t).result)]).filterMap accepted? = _
  rw [h, List.filterMap_append]
  rfl

theorem accepted_setSize_of_error {e : PtyError}
    (h : (WindowTarget.setSize size t).result = .error e) :
    (WindowTarget.setSize size t).state.accepted = t.accepted := by
  change (t.offers ++ [(size, (WindowTarget.setSize size t).result)]).filterMap accepted? = _
  rw [h, List.filterMap_append]
  exact List.append_nil _

end RecordedTarget

/-- What the relay remembers of the last layout decides about painting, and nothing else. -/
theorem SizeRelay.follow_lastLayout {τ ε : Type} [WindowTarget τ] [OutputDecoder ε] (r : SizeRelay)
    (last : Option Layout) (display : Size) (target : τ) (engine : ε) :
    { r with lastLayout := last }.follow display target engine
      = { r.follow display target engine with
          repaint := decide (last ≠ some (Layout.of r.measures display)) } := by
  -- the layout, the offer and its outcome do not look at what is remembered of the last layout
  unfold follow offer
  dsimp only
  split
  · rfl
  · split
    · rfl
    · -- an offer is made, and accepted or refused
      split <;> rfl

/-- Without a viewport nothing is offered. -/
theorem SizeRelay.Outcome.of_unplaced {τ ε : Type} [WindowTarget τ] [OutputDecoder ε]
    {r r' : SizeRelay} {l : Layout} {target target' : τ} {engine engine' : ε}
    (h : r.Outcome l target engine r' target' engine') (hnone : l.viewportSize = none) :
    r'.accepted = r.accepted ∧ target' = target ∧ engine' = engine := by
  cases h with
  | unplaced => exact ⟨rfl, rfl, rfl⟩
  -- in all other outcomes there is a viewport to offer
  | settled hsome => cases hnone.symm.trans hsome
  | accepted size hsome => cases hnone.symm.trans hsome
  | refused size e hsome => cases hnone.symm.trans hsome

/-- **A relay at work**: with the target and the engine that it passes sizes on to. -/
structure Relaying (τ ε : Type) where
  relay : SizeRelay
  target : τ
  engine : ε

namespace Relaying

variable {τ ε : Type}

/-- The display has room for the frame. -/
def isRoomy (measures : Measures) (display : Size) : Bool :=
  !(Layout.of measures display).isTooSmall

/-- **Two relays are alike** if they differ in the layout seen last at most. -/
structure Alike (r s : Relaying τ ε) : Prop where
  measures_eq : r.relay.measures = s.relay.measures
  accepted_eq : r.relay.accepted = s.relay.accepted
  target_eq : r.target = s.target
  engine_eq : r.engine = s.engine

namespace Alike

variable {r s t : Relaying τ ε}

theorem refl (r : Relaying τ ε) : r.Alike r := ⟨rfl, rfl, rfl, rfl⟩

theorem trans (h : r.Alike s) (h' : s.Alike t) : r.Alike t :=
  ⟨h.measures_eq.trans h'.measures_eq, h.accepted_eq.trans h'.accepted_eq,
    h.target_eq.trans h'.target_eq, h.engine_eq.trans h'.engine_eq⟩

theorem relay_eq (h : r.Alike s) :
    s.relay = { r.relay with lastLayout := s.relay.lastLayout } := by
  dsimp only
  rw [h.measures_eq, h.accepted_eq]

end Alike

variable [WindowTarget τ] [OutputDecoder ε]

/-- The relay has followed the display to a size. -/
def follow (r : Relaying τ ε) (display : Size) : Relaying τ ε :=
  let f := r.relay.follow display r.target r.engine
  ⟨f.relay, f.target, f.engine⟩

/-- The relay has followed the display to several sizes, one after the other. -/
def followAll (r : Relaying τ ε) (displays : List Size) : Relaying τ ε := displays.foldl follow r

section

variable {r s : Relaying τ ε}

theorem measures_follow (r : Relaying τ ε) (display : Size) :
    (r.follow display).relay.measures = r.relay.measures :=
  (r.relay.follow_outcome display r.target r.engine).measures

/-- Relays that are alike stay so. -/
theorem Alike.follow (h : r.Alike s) (display : Size) :
    (r.follow display).Alike (s.follow display) := by
  -- the second relay is the first with another layout seen last, so it makes the same offer
  have hf : s.relay.follow display s.target s.engine
      = { r.relay.follow display r.target r.engine with
          repaint := decide (s.relay.lastLayout ≠ some (Layout.of r.relay.measures display)) } := by
    rw [h.relay_eq, ← h.target_eq, ← h.engine_eq]
    exact r.relay.follow_lastLayout s.relay.lastLayout display r.target r.engine
  unfold Relaying.follow
  rw [hf]
  exact .refl _

/-- A display without room for the frame makes no difference but for the layout seen last. -/
theorem alike_follow_of_small {display : Size} (h : isRoomy r.relay.measures display = false) :
    (r.follow display).Alike r := by
  have hnone : (Layout.of r.relay.measures display).viewportSize = none := by
    simpa [isRoomy, Layout.isTooSmall, Layout.viewportSize] using h
  obtain ⟨haccepted, htarget, hengine⟩ :=
    (r.relay.follow_outcome display r.target r.engine).of_unplaced hnone
  exact ⟨r.measures_follow display, haccepted, htarget, hengine⟩

/-- **Displays without room for the frame can be left out.** -/
theorem Alike.followAll_filter (h : r.Alike s) (displays : List Size) :
    (r.followAll displays).Alike (s.followAll (displays.filter (isRoomy s.relay.measures))) := by
  -- the two relays are alike after every display, one of them at rest where it is left out
  induction displays generalizing r s with
  | nil => exact h
  | cons display displays ih =>
    cases hroom : isRoomy s.relay.measures display with
    -- both relays follow the display
    | true =>
      rw [List.filter_cons_of_pos hroom]
      have hnext := ih (h.follow display)
      rw [s.measures_follow] at hnext
      exact hnext
    -- only the first one follows it, and stays like the other
    | false =>
      have hsmall : isRoomy s.relay.measures display ≠ true := by rw [hroom]; decide
      rw [List.filter_cons_of_neg hsmall]
      rw [← h.measures_eq] at hroom
      exact ih ((alike_follow_of_small hroom).trans h)

end

/-! ### The offers -/

/-- **The records are in order**: the engine was given the accepted sizes, the relay remembers the
last of them, and each differs from the one before. -/
structure Orderly (initial : Size) (r : Relaying (RecordedTarget τ) (RecordedEngine ε)) : Prop where
  resized_eq : r.engine.resized = r.target.accepted
  last_eq : (initial :: r.target.accepted).getLast? = some r.relay.accepted
  changes : (initial :: r.target.accepted).IsChain (· ≠ ·)

namespace Orderly

variable {initial : Size} {r : Relaying (RecordedTarget τ) (RecordedEngine ε)}

/-- The records stay in order, whichever outcome there is. -/
theorem outcome (h : r.Orderly initial) {l : Layout} {relay' : SizeRelay}
    {target' : RecordedTarget τ} {engine' : RecordedEngine ε}
    (ho : r.relay.Outcome l r.target r.engine relay' target' engine') :
    Orderly initial ⟨relay', target', engine'⟩ := by
  cases ho with
  -- nothing is offered, and the records stay as they are
  | unplaced => exact ⟨h.resized_eq, h.last_eq, h.changes⟩
  | settled => exact ⟨h.resized_eq, h.last_eq, h.changes⟩
  | accepted size hv hne hok =>
    -- the new size goes to both records, and differs from the one remembered
    have haccepted := RecordedTarget.accepted_setSize_of_ok hok
    refine ⟨?_, ?_, ?_⟩
    · rw [haccepted, ← h.resized_eq]
      rfl
    · rw [haccepted, ← List.cons_append, List.getLast?_concat]
    · -- only the link between the last size and the new one has to be looked at
      rw [haccepted, ← List.cons_append, List.isChain_append]
      refine ⟨h.changes, List.isChain_singleton size, ?_⟩
      rw [h.last_eq]
      rintro last hlast next hnext
      obtain rfl := Option.some.inj hlast
      obtain rfl := Option.some.inj hnext
      exact hne.symm
  -- a refused offer is in the record of offers, and in none of these
  | refused size e hv hne herr =>
    have haccepted := RecordedTarget.accepted_setSize_of_error herr
    refine ⟨?_, ?_, ?_⟩
    · exact h.resized_eq.trans haccepted.symm
    · rw [haccepted]
      exact h.last_eq
    · rw [haccepted]
      exact h.changes

theorem follow (h : r.Orderly initial) (display : Size) : (r.follow display).Orderly initial :=
  h.outcome (r.relay.follow_outcome display r.target r.engine)

theorem followAll (h : r.Orderly initial) (displays : List Size) :
    (r.followAll displays).Orderly initial := by
  induction displays generalizing r with
  | nil => exact h
  | cons display displays ih => exact ih (h.follow display)

end Orderly

/-- The relay for a child that was started with a window of the given size, on records that are
empty. -/
def begun (measures : Measures) (initial : Size) (target : τ) (engine : ε) :
    Relaying (RecordedTarget τ) (RecordedEngine ε) :=
  ⟨.new measures initial, ⟨target, []⟩, ⟨engine, [], []⟩⟩

end Relaying

/-! ### Displays left out -/

open Relaying in
/-- **Small displays are not noticed.** What a relay on some displays offers and is answered, what
it gives to the engine and what it remembers as accepted, is the same on those of the displays that
have room for the frame. -/
structure Unnoticed {τ ε : Type} [WindowTarget τ] [OutputDecoder ε] (measures : Measures)
    (initial : Size) (target : τ) (engine : ε) (displays : List Size) : Prop where
  offers_eq : ((begun measures initial target engine).followAll displays).target.offers
    = ((begun measures initial target engine).followAll
        (displays.filter (isRoomy measures))).target.offers
  resized_eq : ((begun measures initial target engine).followAll displays).engine.resized
    = ((begun measures initial target engine).followAll
        (displays.filter (isRoomy measures))).engine.resized
  accepted_eq : ((begun measures initial target engine).followAll displays).relay.accepted
    = ((begun measures initial target engine).followAll
        (displays.filter (isRoomy measures))).relay.accepted
  /-- After every one of the displays, the engine was given the accepted sizes and no others. -/
  resized_accepted : ∀ n,
    ((begun measures initial target engine).followAll (displays.take n)).engine.resized
      = ((begun measures initial target engine).followAll (displays.take n)).target.accepted
  /-- Each accepted size differs from the one before it, the first from the initial one. -/
  changes : (initial ::
    ((begun measures initial target engine).followAll displays).target.accepted).IsChain (· ≠ ·)

open Relaying in
/-- **The child does not notice small displays**, whatever it answers to the sizes offered, and the
sizes that it accepts are changes. -/
theorem small_displays_unnoticed {τ ε : Type} [WindowTarget τ] [OutputDecoder ε]
    (measures : Measures) (initial : Size) (target : τ) (engine : ε) (displays : List Size) :
    Unnoticed measures initial target engine displays := by
  have halike := (Alike.refl (begun measures initial target engine)).followAll_filter displays
  have hbegun : (begun measures initial target engine).Orderly initial :=
    ⟨rfl, rfl, List.isChain_singleton initial⟩
  exact ⟨congrArg _ halike.target_eq, congrArg _ halike.engine_eq, halike.accepted_eq,
    fun n => (hbegun.followAll (displays.take n)).resized_eq, (hbegun.followAll displays).changes⟩

end FramedShell
