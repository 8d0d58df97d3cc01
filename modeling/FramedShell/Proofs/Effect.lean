import FramedShell.Proofs.Act
import Mathlib.Logic.Relation

/-!
# The effects a step is made of

A step of the loop is a sequence of *effects*: the display is asked or drawn on, the relay follows
it to a size, a key is taken and sent, pending input is offered again, output is read, the child is
watched. `effects_step` says so once for all steps, whether or not they go through. A property of
the parts of a run that every effect keeps is then kept by every step (`Leads.keeps`).

An effect is as large as the program lets nothing come in between: the bytes of a key are sent with
the key, and output goes to the engine with the reading of it.
-/

namespace FramedShell.Live

variable {δ ε κ π : Type} [OutputDecoder ε] [Master π]

/-- The parts after the relay has followed the display to a size. -/
def relayed (size : Size) (live : Live δ ε κ π) : Live δ ε κ π :=
  let f := live.stage.relay.follow size live.session live.stage.engine
  { stage := { live.stage with
      size := size
      layout := some f.layout
      relay := f.relay
      engine := f.engine }
    session := f.target
    notices := live.notices ++ f.notices }

variable [KeySource κ]

/-- **One effect** on the parts of a run. -/
inductive Effect : Live δ ε κ π → Live δ ε κ π → Prop where
  /-- Something was reported. -/
  | noted (live : Live δ ε κ π) (notices : List Notice) :
      Effect live { live with notices := notices }
  /-- The display was asked for its size or drawn on. -/
  | displayed (live : Live δ ε κ π) (display : δ) (degraded : Bool) :
      Effect live
        { live with
          stage := { live.stage with
            display := display
            painter := { live.stage.painter with degraded := degraded } } }
  /-- The relay followed the display to a size. -/
  | relayed (live : Live δ ε κ π) (size : Size) : Effect live (relayed size live)
  /-- The keys were asked, and none was taken. -/
  | idled (live : Live δ ε κ π)
      (h : ∀ key, (KeySource.next live.stage.keys).1 ≠ .ok (some key)) :
      Effect live
        { live with stage := { live.stage with keys := (KeySource.next live.stage.keys).2 } }
  /-- A key was taken, and its bytes were sent. -/
  | typed (live : Live δ ε κ π) (key : Key)
      (h : (KeySource.next live.stage.keys).1 = .ok (some key)) :
      Effect live
        { live with
          stage := { live.stage with keys := (KeySource.next live.stage.keys).2 }
          session := (live.session.write key.bytes).state }
  /-- The pending input was offered again. -/
  | flushed (live : Live δ ε κ π) : Effect live (live.withSession live.session.flushPending.state)
  /-- The master was asked whether there is output. -/
  | awaited (live : Live δ ε κ π) (milliseconds : Nat) :
      Effect live (live.withSession (live.session.waitReadable milliseconds).state)
  /-- Reading yielded no output. -/
  | unheard (live : Live δ ε κ π)
      (h : ∀ bytes, live.session.read.result ≠ .ok (.data bytes)) :
      Effect live (live.withSession live.session.read.state)
  /-- Output was read and went to the engine. -/
  | heard (live : Live δ ε κ π) (bytes : List UInt8)
      (h : live.session.read.result = .ok (.data bytes)) :
      Effect live
        { live with
          stage := { live.stage with engine := OutputDecoder.feed bytes live.stage.engine }
          session := live.session.read.state }
  /-- It was checked whether the child has ended. -/
  | watched (live : Live δ ε κ π) : Effect live (live.withSession live.session.pollExit.state)

/-- The parts `live'` come about from `live` through effects. -/
abbrev Leads : Live δ ε κ π → Live δ ε κ π → Prop := Relation.ReflTransGen Effect

/-- What every effect keeps, sequences of effects keep. -/
theorem Leads.keeps {P : Live δ ε κ π → Prop}
    (hP : ∀ live live', Effect live live' → P live → P live')
    {live live' : Live δ ε κ π} (h : Leads live live') (hl : P live) : P live' := by
  -- one effect after the other, from the first parts on
  induction h with
  | refl => exact hl
  | tail _ he ih => exact hP _ _ he ih

/-- **An action made of effects**, whether or not it fails. -/
def Effects {α : Type} (a : Act δ ε κ π α) : Prop := ∀ live, Leads live (final (a live))

/-- What every effect keeps is a contract of every action that is made of effects. -/
theorem Effects.meets {α : Type} {a : Act δ ε κ π α} (ha : Effects a) {P : Live δ ε κ π → Prop}
    (hP : ∀ live live', Effect live live' → P live → P live') :
    Meets P a (fun _ => P) (fun _ => P) := by
  intro live hl
  have h := (ha live).keeps hP hl
  cases hr : a live with
  | ok x live' =>
    rw [hr] at h
    exact h
  | error e live' =>
    rw [hr] at h
    exact h

/-! ### Small actions -/

theorem effects_pure {α : Type} (x : α) : Effects (pure x : Act δ ε κ π α) := fun _ => .refl

theorem effects_get : Effects (MonadState.get : Act δ ε κ π (Live δ ε κ π)) := fun _ => .refl

theorem effects_bind {α β : Type} {a : Act δ ε κ π α} {f : α → Act δ ε κ π β} (ha : Effects a)
    (hf : ∀ x, Effects (f x)) : Effects (a >>= f) := by
  intro live
  have h := ha live
  cases hr : a live with
  | ok x live' =>
    rw [hr] at h
    rw [bind_ok hr]
    exact h.trans (hf x live')
  | error e live' =>
    rw [hr] at h
    rw [bind_error hr]
    exact h

theorem effects_note (n : Notice) : Effects (note n : Act δ ε κ π Unit) :=
  fun live => .single (.noted live _)

theorem effects_onSession {α : Type} {f : Session π → Noticed (Session π) α}
    (h : ∀ live : Live δ ε κ π, Leads live (live.withSession (f live.session).state)) :
    Effects (onSession f : Act δ ε κ π α) :=
  fun live => .tail (h live) (.noted (live.withSession (f live.session).state) _)

section

variable [Display δ]

theorem effects_askSize : Effects (askSize : Act δ ε κ π Size) := by
  intro live
  unfold askSize
  -- the display may be another one even where it refuses to answer
  split <;> exact .single (.displayed live _ live.stage.painter.degraded)

theorem effects_draw (strokes : List Stroke) : Effects (draw strokes : Act δ ε κ π Unit) := by
  intro live
  unfold draw
  -- strokes before a failing one are carried out all the same
  split <;> exact .single (.displayed live _ live.stage.painter.degraded)

/-- Painting changes nothing of the painter but whether the last display was too small. -/
theorem painter_paint (p : Painter) (l : Layout) (d : δ) :
    ∃ degraded, (p.paint l d).painter = { p with degraded := degraded } := by
  unfold Painter.paint
  split
  · exact ⟨_, rfl⟩
  · split <;> exact ⟨_, rfl⟩

theorem effects_paint (l : Layout) : Effects (paint l : Act δ ε κ π Unit) := by
  intro live
  obtain ⟨degraded, hp⟩ := painter_paint live.stage.painter l live.stage.display
  have h : Leads live
      { live with
        stage := { live.stage with
          painter := (live.stage.painter.paint l live.stage.display).painter
          display := (live.stage.painter.paint l live.stage.display).display }
        notices := live.notices ++ (live.stage.painter.paint l live.stage.display).notices } := by
    rw [hp]
    exact .tail (.single (.displayed live _ degraded)) (.noted _ _)
  unfold paint
  dsimp only
  -- a failure of the drawing leaves the same parts behind as its success
  split <;> exact h

theorem effects_showGrid : Effects (showGrid : Act δ ε κ π Unit) := by
  refine effects_bind effects_get fun live => ?_
  split
  · exact effects_pure ()
  · split <;> exact effects_draw _

/-! ### The parts of a step -/

/-- A size that is taken up goes to the relay first; what follows is drawing. -/
theorem leads_takeUpSize (size : Size) (live : Live δ ε κ π) :
    Leads (relayed size live) (final (takeUpSize size live)) := by
  have hr : (relaySize size : Act δ ε κ π (Layout × Bool)) live
      = .ok ((live.stage.relay.follow size live.session live.stage.engine).layout,
          (live.stage.relay.follow size live.session live.stage.engine).repaint)
          (relayed size live) := rfl
  unfold takeUpSize
  -- the relay cannot fail, and its report is part of the effect
  rw [bind_ok hr]
  dsimp only
  split
  · exact effects_bind (effects_paint _) (fun _ => effects_showGrid) _
  · exact effects_pure () _

theorem effects_takeUpSize (size : Size) : Effects (takeUpSize size : Act δ ε κ π Unit) :=
  fun live => .head (.relayed live size) (leads_takeUpSize size live)

theorem effects_followDisplay : Effects (followDisplay : Act δ ε κ π Unit) := by
  refine effects_bind effects_askSize fun size => effects_bind effects_get fun live => ?_
  split
  · exact effects_takeUpSize size
  · exact effects_pure ()

omit [Display δ] in
/-- What follows a reading is made of effects if output that was read goes to the engine at once. -/
theorem effects_read_bind {α : Type} {k : Except PtyError ReadOutcome → Act δ ε κ π α}
    (hdata : ∀ bytes, ∃ k' : Act δ ε κ π α,
      k (.ok (.data bytes)) = (do decode bytes; k') ∧ Effects k')
    (hrest : ∀ r, (∀ bytes, r ≠ .ok (.data bytes)) → Effects (k r)) :
    Effects (onSession Session.read >>= k) := by
  intro live
  by_cases hr : ∃ bytes, live.session.read.result = .ok (.data bytes)
  · -- output: one effect covers the reading and the engine's part of what follows
    obtain ⟨bytes, hb⟩ := hr
    obtain ⟨k', hk, hk'⟩ := hdata bytes
    have h := Effect.heard live bytes hb
    rw [onSession_bind, hb, hk]
    exact ((Relation.ReflTransGen.single h).tail (.noted _ _)).trans (hk' _)
  · -- no output: the engine is not involved
    have h := Effect.unheard live (not_exists.1 hr)
    rw [onSession_bind]
    exact ((Relation.ReflTransGen.single h).tail (.noted _ _)).trans (hrest _ (not_exists.1 hr) _)

omit [Display δ] in
theorem effects_drainOutput (n : Nat) : Effects (drainOutput n : Act δ ε κ π Bool) := by
  -- the recursion of `drainOutput`: another reading follows only where there was output
  induction n with
  | zero => exact effects_pure false
  | succ n ih =>
    refine effects_read_bind (fun bytes => ⟨_, rfl, effects_bind ih fun _ => effects_pure true⟩) ?_
    intro r hr
    match r with
    | .ok (.data bytes) => exact absurd rfl (hr bytes)
    | .ok .empty => exact effects_pure false
    | .ok .endOfStream => exact effects_pure false
    | .error e => exact effects_bind (effects_note _) fun _ => effects_pure false

theorem effects_drain : Effects (drain : Act δ ε κ π Unit) := by
  refine effects_bind (effects_drainOutput _) fun fed => ?_
  cases fed with
  | true => exact effects_showGrid
  | false => exact effects_pure ()

theorem effects_checkExit : Effects (checkExit : Act δ ε κ π (Option Ending)) := by
  refine effects_bind (effects_onSession fun live => .single (.watched live)) fun r => ?_
  match r with
  | .ok (some exit) => exact effects_bind effects_drain fun _ => effects_pure _
  | .ok none => exact effects_pure none
  | .error e => exact effects_bind (effects_note _) fun _ => effects_pure none

omit [Display δ] in
/-- Waiting for the exit status is checking for it several times. -/
theorem leads_reapAttempts (more : Nat) (live : Live δ ε κ π) :
    Leads live (live.withSession (live.session.reapAttempts more).state) := by
  induction more generalizing live with
  | zero => exact .single (.watched live)
  | succ more ih =>
    unfold Session.reapAttempts
    split
    · -- there is no status yet, and the waiting goes on
      rename_i s' notices hs
      have h := Effect.watched live
      rw [hs] at h
      exact .head h (ih (live.withSession s'))
    · exact .single (.watched live)

omit [Display δ] in
theorem effects_endingOfOutput : Effects (endingOfOutput : Act δ ε κ π Ending) := by
  refine effects_bind (effects_onSession fun live => leads_reapAttempts _ live) fun r => ?_
  match r with
  | .ok (some exit) => exact effects_pure _
  | .ok none => exact effects_pure _
  | .error e => exact effects_bind (effects_note _) fun _ => effects_pure _

omit [Display δ] [OutputDecoder ε] [KeySource κ] in
/-- Sending a key changes the session, and nothing else but the reports. -/
theorem final_sendKey (key : Key) (live : Live δ ε κ π) :
    ∃ notices, final (sendKey key live)
      = { live with session := (live.session.write key.bytes).state, notices := notices } := by
  by_cases hk : key = .named .resize
  · -- this key is not sent, and it has no bytes that could be
    subst hk
    exact ⟨_, rfl⟩
  · unfold sendKey
    rw [if_pos hk, onSession_bind]
    cases (live.session.write key.bytes).result with
    | error e => exact ⟨_, rfl⟩
    | ok _ =>
      dsimp only
      rw [get_bind]
      split <;> exact ⟨_, rfl⟩

/-- Take the next key and send it, if there is one: what serving the keyboard ends with. -/
def takeKey {δ ε κ π : Type} [Master π] [KeySource κ] : Act δ ε κ π Unit :=
  nextKey >>= fun
    | some key => sendKey key
    | none => pure ()

omit [Display δ] in
/-- A key is taken and sent, or none is taken; nothing comes between taking and sending. -/
theorem effects_takeKey : Effects (takeKey : Act δ ε κ π Unit) := by
  intro live
  unfold takeKey
  rcases hn : KeySource.next live.stage.keys with ⟨answer, k⟩
  match answer with
  | .ok (some key) =>
    have hk : (nextKey : Act δ ε κ π _) live
        = .ok (some key) { live with stage := { live.stage with keys := k } } := by
      simp only [nextKey, hn]
    have h := Effect.typed live key (by rw [hn])
    rw [hn] at h
    obtain ⟨notices, hs⟩ := final_sendKey key { live with stage := { live.stage with keys := k } }
    -- the effect has taken the key and sent it; sending it adds reports only
    rw [bind_ok hk]
    change Leads live (final (sendKey key _))
    rw [hs]
    exact .tail (.single h) (.noted _ _)
  | .ok none =>
    have hk : (nextKey : Act δ ε κ π _) live
        = .ok none { live with stage := { live.stage with keys := k } } := by
      simp only [nextKey, hn]
    have h := Effect.idled live (by rw [hn]; simp)
    rw [hn] at h
    rw [bind_ok hk]
    exact .single h
  | .error e =>
    have hk : (nextKey : Act δ ε κ π _) live
        = .error (.keyboard e) { live with stage := { live.stage with keys := k } } := by
      simp only [nextKey, hn]
    have h := Effect.idled live (by rw [hn]; simp)
    rw [hn] at h
    rw [bind_error hk]
    exact .single h

omit [Display δ] in
theorem effects_serveKeyboard : Effects (serveKeyboard : Act δ ε κ π Unit) := by
  refine effects_bind (effects_onSession fun live => .single (.flushed live)) fun r => ?_
  match r with
  | .ok () => exact effects_takeKey
  | .error e => exact effects_bind (effects_note _) fun _ => effects_takeKey

/-! ### The step -/

omit [Display δ] in
/-- What follows the waiting and reading of a step, under the condition of `effects_read_bind`. -/
theorem effects_readOutput_bind {α : Type} {k : Except PtyError ReadOutcome → Act δ ε κ π α}
    (hdata : ∀ bytes, ∃ k' : Act δ ε κ π α,
      k (.ok (.data bytes)) = (do decode bytes; k') ∧ Effects k')
    (hrest : ∀ r, (∀ bytes, r ≠ .ok (.data bytes)) → Effects (k r)) :
    Effects (readOutput >>= k) := by
  unfold readOutput
  rw [bind_assoc]
  refine effects_bind effects_get fun live => ?_
  rw [bind_assoc]
  refine effects_bind (effects_onSession fun live => .single (.awaited live _)) fun r => ?_
  match r with
  | .ok true => exact effects_read_bind hdata hrest
  | .ok false => exact hrest _ (by simp)
  | .error e => exact hrest _ (by simp)

/-- **A step is made of effects**, whether or not it goes through. -/
theorem effects_step : Effects (step : Act δ ε κ π (Option Ending)) := by
  have hserve : Effects (do serveKeyboard; checkExit : Act δ ε κ π (Option Ending)) :=
    effects_bind effects_serveKeyboard fun _ => effects_checkExit
  have hend : Effects (some <$> endingOfOutput : Act δ ε κ π (Option Ending)) :=
    effects_bind effects_endingOfOutput fun _ => effects_pure _
  -- the ways of a step part after the reading
  refine effects_bind effects_followDisplay fun _ => effects_readOutput_bind ?_ ?_
  · intro bytes
    exact ⟨_, rfl, effects_bind effects_showGrid fun _ => hserve⟩
  · intro r hr
    match r with
    | .ok (.data bytes) => exact absurd rfl (hr bytes)
    | .ok .empty => exact hserve
    | .ok .endOfStream => exact effects_bind (effects_note _) fun _ => hend
    | .error e => exact effects_bind (effects_note _) fun _ => hend

end

end FramedShell.Live
