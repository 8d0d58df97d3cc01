import FramedShell.Proofs.Loop
import FramedShell.Proofs.Relay
import FramedShell.Display.Canvas
import FramedShell.Rehearsal.Child
import FramedShell.Rehearsal.Keys
import Mathlib.Data.List.Induction

/-!
# Runs, and what holds along them

A run begins with the start of the loop (`Outset.started`) and goes on in *turns*: the loop takes a
step, or the world changes, that is, other things happen on the display, at the keyboard and in the
child than the loop did. Nothing is assumed of these changes, nor of what the display, the keys and
the child answer, so a statement about `Outset.run` covers every run.

`Outset.Invariant.holds` is the induction over the turns of a run: a property that the start
establishes and that every effect and every change of the world keeps, holds at all times.
`Outset.Kept.holds_append` is the same from a later time on.
-/

namespace FramedShell

/-- **The circumstances in which a run begins.** -/
structure Outset (δ ε κ π : Type) where
  display : δ
  keys : κ
  engine : ε
  measures : Measures
  theme : Theme
  pollInterval : Nat
  /-- Start the child in a window of the given size. -/
  spawn : Size → Except PtyError π

/-- **One turn of a run.** -/
inductive Turn (δ κ π : Type) where
  /-- The loop takes a step. -/
  | step
  /-- The display, the keys and the child change by themselves. -/
  | world (display : δ → δ) (keys : κ → κ) (master : π → π)

section

variable {δ ε κ π : Type}

/-- The stage after a change of the world. The record of keys stays what it is. -/
def Stage.stir (display : δ → δ) (keys : κ → κ) (stage : Stage δ ε (RecordedKeys κ)) :
    Stage δ ε (RecordedKeys κ) :=
  { stage with
    display := display stage.display
    keys := { stage.keys with source := keys stage.keys.source } }

/-- The session after a change of the world. The record of exchanges stays what it is. -/
def Session.stir (master : π → π) (s : Session (Recorded π)) : Session (Recorded π) :=
  { s with master := { s.master with master := master s.master.master } }

/-- The loop after a change of the world. -/
def Loop.stir (display : δ → δ) (keys : κ → κ) (master : π → π)
    (loop : Loop δ ε (RecordedKeys κ) (Recorded π)) : Loop δ ε (RecordedKeys κ) (Recorded π) :=
  { loop with
    stage := loop.stage.stir display keys
    session := loop.session.map (Session.stir master) }

variable [Display δ] [OutputDecoder ε] [KeySource κ] [Master π]

/-- The loop after a turn. -/
def Loop.turn (loop : Loop δ ε (RecordedKeys κ) (Recorded π)) :
    Turn δ κ π → Loop δ ε (RecordedKeys κ) (Recorded π)
  | .step => loop.step.state
  | .world display keys master => loop.stir display keys master

namespace Outset

variable (o : Outset δ ε κ π)

/-- The loop before it is started, with empty records. -/
def fresh : Loop δ ε (RecordedKeys κ) (Recorded π) :=
  .new o.display ⟨o.keys, []⟩ o.engine o.measures o.theme o.pollInterval

/-- **The start of the run**, and what it reports. -/
def started : Noticed (Loop δ ε (RecordedKeys κ) (Recorded π)) (Except LoopFault Unit) :=
  o.fresh.start fun size => (o.spawn size).map fun master => ⟨master, []⟩

/-- **The run**: the loop after its start and the turns that followed. -/
def run (turns : List (Turn δ κ π)) : Loop δ ε (RecordedKeys κ) (Recorded π) :=
  turns.foldl Loop.turn o.started.state

/-- The run spawns its child. -/
def Spawns : Prop := o.started.state.session.isSome = true

end Outset

end

/-! ### Along a run -/

namespace Outset

variable {δ ε κ π : Type} [Display δ] [OutputDecoder ε] [KeySource κ] [Master π]
variable {o : Outset δ ε κ π}

theorem run_append (turns more : List (Turn δ κ π)) :
    o.run (turns ++ more) = more.foldl Loop.turn (o.run turns) :=
  List.foldl_append

/-- The parts of a run when the window of its child got its first size. -/
def firstParts (o : Outset δ ε κ π) (display : δ) (size : Size) (master : π)
    (notices : List Notice) : Live δ ε (RecordedKeys κ) (Recorded π) :=
  .windowed (Loop.firstWindow o.measures size)
    ⟨{ o.fresh.stage with display := display },
      { master := ⟨master, []⟩, size := Loop.firstWindow o.measures size }, notices⟩

/-- **A property that is kept**, by effects and by changes of the world. -/
structure Kept (P : Live δ ε (RecordedKeys κ) (Recorded π) → Prop) : Prop where
  effect : ∀ live live', Live.Effect live live' → P live → P live'
  world : ∀ display keys master stage session,
    P ⟨stage, session, []⟩ → P ⟨stage.stir display keys, session.stir master, []⟩

/-- **An invariant of a run**: it is kept, and it holds of the first parts once the relay has taken
up the display. -/
structure Invariant (o : Outset δ ε κ π) (P : Live δ ε (RecordedKeys κ) (Recorded π) → Prop) : Prop
    extends Kept P where
  opened : ∀ display size master notices,
    P (Live.relayed size (o.firstParts display size master notices))

section

variable {P : Live δ ε (RecordedKeys κ) (Recorded π) → Prop}

/-- What is kept holds from a time on, whether or not the steps go through. -/
theorem Kept.holds_append (h : Kept P) {turns : List (Turn δ κ π)} (hP : (o.run turns).Holds P)
    (more : List (Turn δ κ π)) : (o.run (turns ++ more)).Holds P := by
  rw [run_append]
  -- of the loop nothing is known but that the property holds of it
  generalize o.run turns = loop at hP
  induction more generalizing loop with
  | nil => exact hP
  | cons turn more ih =>
    refine ih (loop.turn turn) ?_
    cases turn with
    | step => exact hP.step h.effect
    | world display keys master =>
      -- the world changes the session, but whether there is one is the loop's own affair
      intro session hs
      obtain ⟨s, hs', rfl⟩ := Option.map_eq_some_iff.1 hs
      exact h.world display keys master _ s (hP s hs')

/-- **An invariant holds at all times.** -/
theorem Invariant.holds (h : o.Invariant P) (turns : List (Turn δ κ π)) :
    (o.run turns).Holds P := by
  have hstart : (o.run []).Holds P := by
    refine Loop.holds_start h.effect rfl ?_
    intro display size master notices hspawn
    -- the record of a child that was just spawned is empty
    change Except.map _ (o.spawn (Loop.firstWindow o.measures size)) = _ at hspawn
    cases hm : o.spawn (Loop.firstWindow o.measures size) with
    | error e =>
      rw [hm] at hspawn
      cases hspawn
    | ok m =>
      rw [hm] at hspawn
      cases hspawn
      exact h.opened display size m notices
  exact h.toKept.holds_append hstart turns

end

/-- A run has its session from the start on, or never. -/
theorem isSome_session_run (o : Outset δ ε κ π) (turns : List (Turn δ κ π)) :
    (o.run turns).session.isSome = o.started.state.session.isSome := by
  -- on the last turn: neither a step nor the world brings a session or takes it away
  induction turns using List.reverseRecOn with
  | nil => rfl
  | append_singleton turns turn ih =>
    rw [run_append, ← ih]
    cases turn with
    | step => exact Loop.isSome_session_step
    | world display keys master => exact Option.isSome_map

/-- **Without a session nothing happens on the stage** but what the world does. -/
theorem stage_run_of_none {P : Stage δ ε (RecordedKeys κ) → Prop} {turns : List (Turn δ κ π)}
    (hstart : ∀ display, P { o.fresh.stage with display := display })
    (hworld : ∀ display keys stage, P stage → P (stage.stir display keys))
    (h : (o.run turns).session = none) : P (o.run turns).stage := by
  induction turns using List.reverseRecOn with
  | nil =>
    have hnone : o.started.state.session = none := h
    obtain ⟨display, hstage⟩ := Loop.stage_start_of_none hnone
    exact hstage ▸ hstart display
  | append_singleton turns turn ih =>
    -- there was no session before the last turn either
    have hnone : (o.run turns).session = none := by
      rw [← Option.not_isSome_iff_eq_none, isSome_session_run] at h ⊢
      exact h
    rw [run_append]
    cases turn with
    | step =>
      change P (o.run turns).step.state.stage
      rw [Loop.step_of_session_none hnone]
      exact ih hnone
    | world display keys master => exact hworld display keys _ (ih hnone)

/-- Without a session no key is taken. -/
theorem taken_run_of_none (o : Outset δ ε κ π) {turns : List (Turn δ κ π)}
    (h : (o.run turns).session = none) : (o.run turns).stage.keys.taken = [] :=
  stage_run_of_none (P := fun stage => stage.keys.taken = []) (fun _ => rfl) (fun _ _ _ h => h) h

/-- A run that spawned its child has a session with it. -/
theorem Spawns.session (h : o.Spawns) (turns : List (Turn δ κ π)) :
    ∃ session, (o.run turns).session = some session := by
  rw [← Option.isSome_iff_exists, isSome_session_run]
  exact h

omit [Display δ] in
theorem takenUp_invariant (o : Outset δ ε κ π) :
    o.Invariant fun live => live.stage.TakenUp o.measures where
  opened display size master notices :=
    Live.takenUp_relayed (o.firstParts display size master notices) rfl size
  effect _ _ he h := he.takenUp h
  world _ _ _ _ _ h := ⟨h.measures_eq, h.layout_eq, h.lastLayout_eq⟩

/-- **The layout of a run is that of the size taken up last.** -/
theorem takenUp_run (o : Outset δ ε κ π) (turns : List (Turn δ κ π)) :
    (o.run turns).Holds fun live => live.stage.TakenUp o.measures :=
  o.takenUp_invariant.holds turns

omit [KeySource κ] in
/-- **A run spawns its child** if the display tells its size and the child can be started. -/
theorem spawns_of {o : Outset δ ε κ π} {size : Size} {display : δ} {master : π}
    (hsize : Display.size o.display = (.ok size, display))
    (hspawn : o.spawn (Loop.firstWindow o.measures size) = .ok master) : o.Spawns :=
  Loop.isSome_session_start hsize (congrArg (Except.map _) hspawn)

/-! ### A rehearsed run -/

open Rehearsal in
/-- **A rehearsed run**: on a canvas, with a queue of keys and a child that follows a script. -/
def rehearsal (display : Size) (keys : List Key) : Outset Canvas Engine KeyQueue Child where
  display := .blank display
  keys := { keys := keys }
  engine := .new .emulator display
  measures := {}
  theme := {}
  pollInterval := 10
  spawn size := .ok { command := { program := "/bin/sh" }, window := size }

theorem spawns_rehearsal (display : Size) (keys : List Key) : (rehearsal display keys).Spawns :=
  spawns_of rfl rfl

end Outset

end FramedShell
