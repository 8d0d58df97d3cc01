import FramedShell.Proofs.Run

/-!
# Records disturb nothing

The runs of this library are on recorded masters and recorded keys. A *bare* run is on the master
and the keys themselves. Both take the same course: what is read off a record is what a bare run
exchanged with its child and which keys it took.

An action is *oblivious* of the records if it does to bare parts what it does to recorded ones
(`Live.Oblivious`). Oblivious actions compose, so the actions of a step are oblivious one by one,
and so are the step, the start and the run (`Outset.bare_run`).

## Main definitions

* `Session.bare`, `Stage.bare`, `Live.bare`, `Loop.bare` — the same without records;
* `Live.Oblivious` — actions to which records make no difference;
* `Outset.bareRun` — the run without records.
-/

namespace FramedShell

/-- The outcome with a function applied to the state. -/
def Noticed.mapState {σ τ α : Type} (f : σ → τ) (n : Noticed σ α) : Noticed τ α :=
  ⟨n.result, f n.state, n.notices⟩

/-! ### Sessions -/

section

variable {π : Type}

/-- The session without its record. -/
def Session.bare (s : Session (Recorded π)) : Session π :=
  ⟨s.master.master, s.size, s.exit, s.pending⟩

/-- A question to a recorded master is one to the master in it. -/
theorem Recorded.ask_eq {α : Type} {question : π → α × π} {m : Recorded π} {answer : α} {m' : π}
    (h : question m.master = (answer, m')) (entry : α → Exchange) :
    m.ask question entry = (answer, ⟨m', m.exchanges ++ [entry answer]⟩) := by
  unfold ask
  rw [h]

variable [Master π]

theorem Recorded.write_bare {m m' : Recorded π} {bytes : List UInt8} {answer : Except PtyError Nat}
    (h : Master.write bytes m = (answer, m')) :
    Master.write bytes m.master = (answer, m'.master) := by
  obtain ⟨rfl, rfl⟩ := Prod.mk.inj h
  rfl

namespace Session

variable (s : Session (Recorded π))

theorem bare_setSize (size : Size) : s.bare.setSize size = (s.setSize size).mapState bare := by
  -- the master in the record is asked, and the answer is all that the session goes by
  rcases h : Master.resize size s.master.master with ⟨answer, m⟩
  have hrecorded : Master.resize size s.master = _ := Recorded.ask_eq h _
  have hbare : Master.resize size s.bare.master = _ := h
  unfold setSize
  rw [hrecorded, hbare]
  cases answer <;> rfl

theorem bare_waitReadable (milliseconds : Nat) :
    s.bare.waitReadable milliseconds = (s.waitReadable milliseconds).mapState bare := rfl

theorem bare_read : s.bare.read = s.read.mapState bare := rfl

theorem bare_flushPending : s.bare.flushPending = s.flushPending.mapState bare := by
  -- the cases are those of the recorded session, whose master is asked the same question: nothing is
  -- pending, or what is pending is refused, not taken at all, or taken in part
  fun_induction flushPending s with
  | case1 s hnil =>
    rw [flushPending, if_pos (show s.bare.pending = [] from hnil)]
    rfl
  | case2 s hne e m hm =>
    have hbare : Master.write s.bare.pending s.bare.master = _ := Recorded.write_bare hm
    rw [flushPending, if_neg (show s.bare.pending ≠ [] from hne), hbare]
    rfl
  | case3 s hne m hm =>
    have hbare : Master.write s.bare.pending s.bare.master = _ := Recorded.write_bare hm
    rw [flushPending, if_neg (show s.bare.pending ≠ [] from hne), hbare]
    rfl
  | case4 s hne taken m hm ih =>
    have hbare : Master.write s.bare.pending s.bare.master = _ := Recorded.write_bare hm
    rw [flushPending, if_neg (show s.bare.pending ≠ [] from hne), hbare]
    exact ih

theorem bare_write (bytes : List UInt8) : s.bare.write bytes = (s.write bytes).mapState bare := by
  unfold write
  -- input is dropped if the child is known to be dead, and else it waits its turn
  split
  · rfl
  · exact bare_flushPending { s with pending := s.pending ++ bytes }

theorem bare_pollExit : s.bare.pollExit = s.pollExit.mapState bare := by
  cases hexit : s.exit with
  -- a status that is known is not asked for again
  | some exit =>
    rw [pollExit_of_some s hexit, pollExit_of_some s.bare hexit]
    rfl
  | none =>
    -- the master is asked, and the status that it tells is kept
    rcases h : Master.tryWait s.master.master with ⟨answer, m⟩
    have hrecorded : Master.tryWait s.master = _ := Recorded.ask_eq h _
    have hbare : Master.tryWait s.bare.master = _ := h
    have hexit' : s.bare.exit = none := hexit
    unfold pollExit
    rw [hexit, hexit', hrecorded, hbare]
    match answer with
    | .ok (some exit) => rfl
    | .ok none => rfl
    | .error e => rfl

theorem bare_reapAttempts (more : Nat) :
    s.bare.reapAttempts more = (s.reapAttempts more).mapState bare := by
  induction more generalizing s with
  -- one attempt after the other, until there is an answer
  | zero => exact bare_pollExit s
  | succ more ih =>
    unfold reapAttempts
    rw [bare_pollExit]
    rcases s.pollExit with ⟨answer, s', notices⟩
    cases answer with
    | error e => rfl
    | ok status =>
      cases status with
      | some exit => rfl
      | none =>
        -- there is no status yet, and the waiting goes on
        change Noticed.mk _ _ _ = Noticed.mk _ _ _
        rw [ih s']
        rfl

end Session

end

/-! ### Following the display -/

/-- The outcome of following the display, with a function applied to the target. -/
def Followed.mapTarget {τ τ' ε : Type} (f : τ → τ') (w : Followed τ ε) : Followed τ' ε :=
  ⟨w.layout, w.propagated, w.repaint, w.relay, f w.target, w.engine, w.notices⟩

theorem SizeRelay.bare_follow {ε π : Type} [OutputDecoder ε] [Master π] (r : SizeRelay)
    (display : Size) (s : Session (Recorded π)) (engine : ε) :
    r.follow display s.bare engine = (r.follow display s engine).mapTarget Session.bare := by
  unfold follow
  dsimp only
  split
  · rfl
  · rename_i size _
    split
    · rfl
    · -- an offer is made, and the answer decides
      have hset : WindowTarget.setSize size s.bare
          = (WindowTarget.setSize size s).mapState Session.bare := s.bare_setSize size
      unfold offer
      rw [hset]
      rcases WindowTarget.setSize size s with ⟨answer, s', told⟩
      cases answer <;> rfl

/-! ### Actions -/

variable {δ ε κ π : Type}

/-- The stage without the record of its keys. -/
def Stage.bare (stage : Stage δ ε (RecordedKeys κ)) : Stage δ ε κ :=
  ⟨stage.display, stage.keys.source, stage.engine, stage.painter, stage.measures, stage.relay,
    stage.layout, stage.size, stage.pollInterval⟩

/-- The parts of a run without their records. -/
def Live.bare (live : Live δ ε (RecordedKeys κ) (Recorded π)) : Live δ ε κ π :=
  ⟨live.stage.bare, live.session.bare, live.notices⟩

/-- The loop without its records. -/
def Loop.bare (loop : Loop δ ε (RecordedKeys κ) (Recorded π)) : Loop δ ε κ π :=
  ⟨loop.stage.bare, loop.session.map Session.bare, loop.state⟩

namespace Live

/-- The outcome of an action without the records. -/
def bareResult {α : Type} :
    EStateM.Result LoopFault (Live δ ε (RecordedKeys κ) (Recorded π)) α →
      EStateM.Result LoopFault (Live δ ε κ π) α
  | .ok x live => .ok x live.bare
  | .error e live => .error e live.bare

/-- **An action is oblivious of the records**: on bare parts it does the same. -/
def Oblivious {α : Type} (a : Act δ ε (RecordedKeys κ) (Recorded π) α) (b : Act δ ε κ π α) : Prop :=
  ∀ live, b live.bare = bareResult (a live)

section

variable {α β : Type}

theorem oblivious_pure (x : α) :
    Oblivious (pure x : Act δ ε (RecordedKeys κ) (Recorded π) α) (pure x) :=
  fun _ => rfl

/-- **Oblivious actions compose.** -/
theorem oblivious_bind {a : Act δ ε (RecordedKeys κ) (Recorded π) α} {b : Act δ ε κ π α}
    {f : α → Act δ ε (RecordedKeys κ) (Recorded π) β} {g : α → Act δ ε κ π β}
    (ha : Oblivious a b) (hf : ∀ x, Oblivious (f x) (g x)) : Oblivious (a >>= f) (b >>= g) := by
  intro live
  have h := ha live
  -- the first action leads to bare parts, from which the second one goes on
  cases hr : a live with
  | ok x live' =>
    rw [hr] at h
    rw [bind_ok hr, bind_ok h]
    exact hf x live'
  | error e live' =>
    rw [hr] at h
    rw [bind_error hr, bind_error h]
    rfl

/-- What follows may refer to the parts. -/
theorem oblivious_get_bind
    {f : Live δ ε (RecordedKeys κ) (Recorded π) → Act δ ε (RecordedKeys κ) (Recorded π) β}
    {g : Live δ ε κ π → Act δ ε κ π β} (h : ∀ live, Oblivious (f live) (g live.bare)) :
    Oblivious (MonadState.get >>= f) (MonadState.get >>= g) :=
  fun live => h live live

theorem oblivious_note (n : Notice) :
    Oblivious (note n : Act δ ε (RecordedKeys κ) (Recorded π) Unit) (note n) :=
  fun _ => rfl

/-- An operation of the session is oblivious if it is one of the bare session. -/
theorem oblivious_onSession {f : Session (Recorded π) → Noticed (Session (Recorded π)) α}
    {g : Session π → Noticed (Session π) α} (h : ∀ s, g s.bare = (f s).mapState Session.bare) :
    Oblivious (onSession f : Act δ ε (RecordedKeys κ) (Recorded π) α) (onSession g) := by
  intro live
  have hg : g live.bare.session = _ := h live.session
  change EStateM.Result.ok (g live.bare.session).result
    (Live.mk live.bare.stage (g live.bare.session).state
      (live.notices ++ (g live.bare.session).notices)) = _
  -- the session is the only part that changes
  rw [hg]
  rfl

end

/-! ### The parts of a step -/

theorem oblivious_decode [OutputDecoder ε] (bytes : List UInt8) :
    Oblivious (decode bytes : Act δ ε (RecordedKeys κ) (Recorded π) Unit) (decode bytes) :=
  fun _ => rfl

theorem oblivious_nextKey [KeySource κ] :
    Oblivious (nextKey : Act δ ε (RecordedKeys κ) (Recorded π) _) nextKey := by
  -- the record gets the key that the source gives, and the source is asked once
  intro live
  unfold nextKey
  rcases h : KeySource.next live.stage.keys.source with ⟨answer, k⟩
  have hbare : KeySource.next live.bare.stage.keys = _ := h
  have hrecorded : KeySource.next live.stage.keys
      = (answer, ⟨k, live.stage.keys.taken ++ takenKeys answer⟩) := by
    change ((KeySource.next live.stage.keys.source).1, RecordedKeys.mk _ _) = _
    rw [h]
  rw [hbare, hrecorded]
  cases answer <;> rfl

section

variable [Master π]

theorem oblivious_sendKey (key : Key) :
    Oblivious (sendKey key : Act δ ε (RecordedKeys κ) (Recorded π) Unit) (sendKey key) := by
  unfold sendKey
  split
  · -- the bytes of a key are written, and input that has to wait is reported
    refine oblivious_bind (oblivious_onSession fun s => s.bare_write _) fun r => ?_
    match r with
    | .error e => exact oblivious_note _
    | .ok () =>
      refine oblivious_get_bind fun live => ?_
      rw [show live.bare.session.pending = live.session.pending from rfl]
      split
      · exact oblivious_note _
      · exact oblivious_pure ()
  · -- a key without bytes is no input
    exact oblivious_pure ()

theorem oblivious_readOutput :
    Oblivious (readOutput : Act δ ε (RecordedKeys κ) (Recorded π) _) readOutput := by
  -- the wait takes as long as the stage says, which has no record
  refine oblivious_get_bind fun live => ?_
  refine oblivious_bind (oblivious_onSession fun s => s.bare_waitReadable _) fun r => ?_
  match r with
  | .ok true => exact oblivious_onSession fun s => s.bare_read
  | .ok false => exact oblivious_pure _
  | .error e => exact oblivious_pure _

theorem oblivious_endingOfOutput :
    Oblivious (endingOfOutput : Act δ ε (RecordedKeys κ) (Recorded π) _) endingOfOutput := by
  refine oblivious_bind (oblivious_onSession fun s => s.bare_reapAttempts _) fun r => ?_
  match r with
  | .ok (some exit) => exact oblivious_pure _
  | .ok none => exact oblivious_pure _
  | .error e => exact oblivious_bind (oblivious_note _) fun _ => oblivious_pure _

variable [OutputDecoder ε]

theorem oblivious_drainOutput (n : Nat) :
    Oblivious (drainOutput n : Act δ ε (RecordedKeys κ) (Recorded π) Bool) (drainOutput n) := by
  induction n with
  | zero => exact oblivious_pure false
  | succ n ih =>
    -- chunk after chunk is read and fed, up to a read that brings none
    refine oblivious_bind (oblivious_onSession fun s => s.bare_read) fun r => ?_
    match r with
    | .ok (.data bytes) =>
      exact oblivious_bind (oblivious_decode bytes) fun _ =>
        oblivious_bind ih fun _ => oblivious_pure true
    | .ok .empty => exact oblivious_pure false
    | .ok .endOfStream => exact oblivious_pure false
    | .error e => exact oblivious_bind (oblivious_note _) fun _ => oblivious_pure false

theorem oblivious_relaySize (size : Size) :
    Oblivious (relaySize size : Act δ ε (RecordedKeys κ) (Recorded π) _) (relaySize size) := by
  intro live
  have hfollow : live.bare.stage.relay.follow size live.bare.session live.bare.stage.engine = _ :=
    live.stage.relay.bare_follow size live.session live.stage.engine
  change EStateM.Result.ok
    ((live.bare.stage.relay.follow size live.bare.session live.bare.stage.engine).layout,
      (live.bare.stage.relay.follow size live.bare.session live.bare.stage.engine).repaint)
    (relayed size live.bare) = _
  -- the relay offers sizes to the bare session
  unfold relayed
  rw [hfollow]
  rfl

end

section

variable [Display δ]

theorem oblivious_askSize :
    Oblivious (askSize : Act δ ε (RecordedKeys κ) (Recorded π) Size) askSize := by
  intro live
  unfold askSize
  rcases h : Display.size live.stage.display with ⟨answer, d⟩
  have hbare : Display.size live.bare.stage.display = _ := h
  rw [hbare]
  cases answer <;> rfl

theorem oblivious_draw (strokes : List Stroke) :
    Oblivious (draw strokes : Act δ ε (RecordedKeys κ) (Recorded π) Unit) (draw strokes) := by
  intro live
  unfold draw
  rcases h : Display.drawAll strokes live.stage.display with ⟨answer, d⟩
  have hbare : Display.drawAll strokes live.bare.stage.display = _ := h
  rw [hbare]
  cases answer <;> rfl

theorem oblivious_paint (l : Layout) :
    Oblivious (paint l : Act δ ε (RecordedKeys κ) (Recorded π) Unit) (paint l) := by
  intro live
  unfold paint
  rcases h : live.stage.painter.paint l live.stage.display with ⟨outcome, painter, d, notices⟩
  have hbare : live.bare.stage.painter.paint l live.bare.stage.display = _ := h
  rw [hbare]
  cases outcome <;> rfl

variable [OutputDecoder ε]

theorem oblivious_showGrid :
    Oblivious (showGrid : Act δ ε (RecordedKeys κ) (Recorded π) Unit) showGrid := by
  refine oblivious_get_bind fun live => ?_
  -- layout and engine have no record, so the same strokes are drawn
  rw [show live.bare.stage.layout = live.stage.layout from rfl,
    show live.bare.stage.engine = live.stage.engine from rfl]
  cases live.stage.layout with
  | none => exact oblivious_pure ()
  | some l =>
    dsimp only
    cases OutputDecoder.grid live.stage.engine with
    | none => exact oblivious_draw _
    | some grid => exact oblivious_draw _

variable [Master π]

theorem oblivious_takeUpSize (size : Size) :
    Oblivious (takeUpSize size : Act δ ε (RecordedKeys κ) (Recorded π) Unit) (takeUpSize size) := by
  -- what is painted depends on the layout that the relay has made
  refine oblivious_bind (oblivious_relaySize size) ?_
  rintro ⟨l, repaint⟩
  cases repaint with
  | true => exact oblivious_bind (oblivious_paint l) fun _ => oblivious_showGrid
  | false => exact oblivious_pure ()

theorem oblivious_followDisplay :
    Oblivious (followDisplay : Act δ ε (RecordedKeys κ) (Recorded π) Unit) followDisplay := by
  refine oblivious_bind oblivious_askSize fun size => oblivious_get_bind fun live => ?_
  -- the size that was known is not part of a record
  rw [show live.bare.stage.size = live.stage.size from rfl]
  split
  · exact oblivious_takeUpSize size
  · exact oblivious_pure ()

theorem oblivious_drain :
    Oblivious (drain : Act δ ε (RecordedKeys κ) (Recorded π) Unit) drain := by
  -- the grid is shown once more if anything was fed
  refine oblivious_bind (oblivious_drainOutput _) fun fed => ?_
  cases fed with
  | true => exact oblivious_showGrid
  | false => exact oblivious_pure ()

theorem oblivious_checkExit :
    Oblivious (checkExit : Act δ ε (RecordedKeys κ) (Recorded π) _) checkExit := by
  refine oblivious_bind (oblivious_onSession fun s => s.bare_pollExit) fun r => ?_
  match r with
  | .ok (some exit) => exact oblivious_bind oblivious_drain fun _ => oblivious_pure _
  | .ok none => exact oblivious_pure none
  | .error e => exact oblivious_bind (oblivious_note _) fun _ => oblivious_pure none

theorem oblivious_opening (initial display : Size) :
    Oblivious (opening initial display : Act δ ε (RecordedKeys κ) (Recorded π) Unit)
      (opening initial display) := by
  -- the window is set, and the run goes on whether it could be or not
  refine oblivious_bind (oblivious_onSession fun s => s.bare_setSize initial) fun r => ?_
  match r with
  | .ok () => exact oblivious_bind (fun _ => rfl) fun _ => oblivious_takeUpSize display
  | .error e =>
    exact oblivious_bind (oblivious_note _) fun _ =>
      oblivious_bind (fun _ => rfl) fun _ => oblivious_takeUpSize display

variable [KeySource κ]

omit [Display δ] [OutputDecoder ε] in
theorem oblivious_serveKeyboard :
    Oblivious (serveKeyboard : Act δ ε (RecordedKeys κ) (Recorded π) Unit) serveKeyboard := by
  have htake : Oblivious (takeKey : Act δ ε (RecordedKeys κ) (Recorded π) Unit) takeKey := by
    refine oblivious_bind oblivious_nextKey fun key => ?_
    cases key with
    | some key => exact oblivious_sendKey key
    | none => exact oblivious_pure ()
  -- pending input is tried first, and its failure only reported
  refine oblivious_bind (oblivious_onSession fun s => s.bare_flushPending) fun r => ?_
  match r with
  | .ok () => exact htake
  | .error e => exact oblivious_bind (oblivious_note _) fun _ => htake

/-- **A step is oblivious of the records.** -/
theorem oblivious_step :
    Oblivious (step : Act δ ε (RecordedKeys κ) (Recorded π) _) step := by
  have hserve : Oblivious (do serveKeyboard; checkExit : Act δ ε (RecordedKeys κ) (Recorded π) _)
      (do serveKeyboard; checkExit) :=
    oblivious_bind oblivious_serveKeyboard fun _ => oblivious_checkExit
  have hend : Oblivious
      (some <$> endingOfOutput : Act δ ε (RecordedKeys κ) (Recorded π) (Option Ending))
      (some <$> endingOfOutput) :=
    oblivious_bind oblivious_endingOfOutput fun _ => oblivious_pure _
  -- display, output, and then what the output leads to
  refine oblivious_bind oblivious_followDisplay fun _ => ?_
  refine oblivious_bind oblivious_readOutput fun r => ?_
  match r with
  | .ok (.data bytes) =>
    exact oblivious_bind (oblivious_decode bytes) fun _ =>
      oblivious_bind oblivious_showGrid fun _ => hserve
  | .ok .empty => exact hserve
  | .ok .endOfStream => exact oblivious_bind (oblivious_note _) fun _ => hend
  | .error e => exact oblivious_bind (oblivious_note _) fun _ => hend

end

end Live

/-! ### The loop and the run -/

theorem Loop.bare_opened (loop : Loop δ ε (RecordedKeys κ) (Recorded π))
    (r : EStateM.Result LoopFault (Live δ ε (RecordedKeys κ) (Recorded π)) Unit) :
    loop.bare.opened (Live.bareResult r) = (loop.opened r).mapState bare := by
  cases r <;> rfl

theorem Loop.bare_stepped (loop : Loop δ ε (RecordedKeys κ) (Recorded π))
    (r : EStateM.Result LoopFault (Live δ ε (RecordedKeys κ) (Recorded π)) (Option Ending)) :
    loop.bare.stepped (Live.bareResult r) = (loop.stepped r).mapState bare := by
  match r with
  | .ok none live => rfl
  | .ok (some ending) live => rfl
  | .error e live => rfl

section

variable [Display δ] [OutputDecoder ε] [Master π]

/-- **The start is oblivious of the records**, which begin empty. -/
theorem Loop.bare_start (loop : Loop δ ε (RecordedKeys κ) (Recorded π))
    (spawn : Size → Except PtyError π) :
    loop.bare.start spawn
      = (loop.start fun size => (spawn size).map fun master => ⟨master, []⟩).mapState bare := by
  have hbare := loop.bare.start_cases spawn
  generalize loop.bare.start spawn = started at hbare ⊢
  cases hbare with
  | unsized e display hsize =>
    have hrecorded : Display.size loop.stage.display = _ := hsize
    rw [start_of_unsized hrecorded]
    rfl
  | unspawned size display e hsize hspawn =>
    have hrecorded : Display.size loop.stage.display = _ := hsize
    rw [start_of_unspawned hrecorded (congrArg (Except.map _) hspawn)]
    rfl
  | spawned size display master hsize hspawn =>
    have hrecorded : Display.size loop.stage.display = _ := hsize
    rw [start_of_spawned hrecorded (congrArg (Except.map _) hspawn), ← bare_opened]
    exact congrArg loop.bare.opened
      (Live.oblivious_opening _ size (loop.spawned display size ⟨master, []⟩))

variable [KeySource κ]

/-- **A step of the loop is oblivious of the records.** -/
theorem Loop.bare_step (loop : Loop δ ε (RecordedKeys κ) (Recorded π)) :
    loop.bare.step = loop.step.mapState bare := by
  cases hstate : loop.state with
  | terminated t =>
    have hbare : loop.bare.state = .terminated t := hstate
    rw [step_of_terminated hstate, step_of_terminated hbare]
    rfl
  | running =>
    cases hs : loop.session with
    | none =>
      have hnone : loop.bare.session = none := congrArg (Option.map Session.bare) hs
      rw [step_of_session_none hs, step_of_session_none hnone]
      rfl
    | some session =>
      have hrun : loop.bare.state = .running := hstate
      have hsome : loop.bare.session = some session.bare := congrArg (Option.map Session.bare) hs
      rw [step_of_running hstate hs, step_of_running hrun hsome, ← bare_stepped]
      exact congrArg loop.bare.stepped (Live.oblivious_step ⟨loop.stage, session, []⟩)

/-- The loop after a turn, without records. -/
def Loop.bareTurn (loop : Loop δ ε κ π) : Turn δ κ π → Loop δ ε κ π
  | .step => loop.step.state
  | .world display keys master =>
    { loop with
      stage := { loop.stage with
        display := display loop.stage.display
        keys := keys loop.stage.keys }
      session := loop.session.map fun s => { s with master := master s.master } }

theorem Loop.bare_turn (loop : Loop δ ε (RecordedKeys κ) (Recorded π)) (turn : Turn δ κ π) :
    (loop.turn turn).bare = loop.bare.bareTurn turn := by
  cases turn with
  | step => exact congrArg Noticed.state loop.bare_step.symm
  | world display keys master =>
    rcases loop with ⟨stage, session, state⟩
    cases session <;> rfl

namespace Outset

variable (o : Outset δ ε κ π)

/-- **The run without records.** -/
def bareRun (turns : List (Turn δ κ π)) : Loop δ ε κ π :=
  turns.foldl Loop.bareTurn
    ((Loop.new o.display o.keys o.engine o.measures o.theme o.pollInterval).start o.spawn).state

/-- **Records disturb nothing.** The run without records is at all times the recorded one, with its
records left out. -/
theorem bare_run (turns : List (Turn δ κ π)) : (o.run turns).bare = o.bareRun turns := by
  induction turns using List.reverseRecOn with
  | nil => exact congrArg Noticed.state (o.fresh.bare_start o.spawn).symm
  | append_singleton turns turn ih =>
    unfold bareRun at ih ⊢
    rw [run_append, List.foldl_append, ← ih]
    exact (o.run turns).bare_turn turn

end Outset

end

end FramedShell
