import FramedShell.Proofs.Record

/-!
# The ways of the loop

The start and the step of the loop carry out one action each, and make a loop of what it leaves
behind. `Loop.start_cases` names the three ways in which a start can go, and `step_of_running` is
the step of a loop that runs; any other loop does nothing. What is known of the actions becomes
known of the loop by these, and nothing below has to look into `Loop.start` or `Loop.step` again.

## Main definitions

* `Loop.opened`, `Loop.stepped` — the loop that comes of the outcome of an action;
* `Loop.Starts` — the ways in which a start can go;
* `Loop.Holds` — a property of the parts of a run, as one of the loop.
-/

namespace FramedShell

namespace Loop

/-! ### The step -/

section

variable {δ ε κ π : Type}

/-- The state of a loop after a step with the given answer. -/
def stateAfter : Option Ending → RunState
  | none => .running
  | some ending => .terminated (.ended ending)

/-- The loop after a step that had the given outcome. -/
def stepped (loop : Loop δ ε κ π) :
    EStateM.Result LoopFault (Live δ ε κ π) (Option Ending) →
      Noticed (Loop δ ε κ π) (Except LoopFault Unit)
  | .ok none live => loop.absorb live (.ok ())
  | .ok (some ending) live =>
    { loop with state := .terminated (.ended ending) }.absorb
      { live with notices := live.notices ++ [Notice.sessionEnded ending] } (.ok ())
  | .error e live => loop.absorb live (.error e)

section

variable (loop : Loop δ ε κ π) (r : EStateM.Result LoopFault (Live δ ε κ π) (Option Ending))

@[simp] theorem stage_stepped : (loop.stepped r).state.stage = (Live.final r).stage := by
  -- the step goes on, ends the run, or fails
  match r with
  | .ok none live => rfl
  | .ok (some ending) live => rfl
  | .error e live => rfl

@[simp] theorem session_stepped : (loop.stepped r).state.session = some (Live.final r).session := by
  match r with
  | .ok none live => rfl
  | .ok (some ending) live => rfl
  | .error e live => rfl

/-- The answer of an action that went through decides on the state. -/
theorem state_stepped_of_ok {loop : Loop δ ε κ π} (hrun : loop.state = .running)
    {answer : Option Ending} {live : Live δ ε κ π} :
    (loop.stepped (.ok answer live)).state.state = stateAfter answer := by
  -- a loop that goes on was running before
  cases answer with
  | none => exact hrun
  | some ending => rfl

/-- A failure leaves the state alone. -/
theorem state_stepped_of_error {loop : Loop δ ε κ π}
    {r : EStateM.Result LoopFault (Live δ ε κ π) (Option Ending)} {e : LoopFault}
    (h : (loop.stepped r).result = .error e) : (loop.stepped r).state.state = loop.state := by
  match r with
  -- a step that went through has no failure to report
  | .ok none live => cases h
  | .ok (some ending) live => cases h
  | .error e live => rfl

end

variable [Display δ] [OutputDecoder ε] [Master π] [KeySource κ] {loop : Loop δ ε κ π}

/-- **A step of a loop that runs** makes a loop of the outcome of its action. -/
theorem step_of_running {session : Session π} (hrun : loop.state = .running)
    (hs : loop.session = some session) :
    loop.step = loop.stepped (Live.step ⟨loop.stage, session, []⟩) := by
  unfold step
  simp only [hrun, hs]
  match Live.step ⟨loop.stage, session, []⟩ with
  | .ok none live => rfl
  | .ok (some ending) live => rfl
  | .error e live => rfl

/-- A loop that has terminated does nothing. -/
theorem step_of_terminated {t : Termination} (h : loop.state = .terminated t) :
    loop.step = ⟨.ok (), loop, []⟩ := by
  unfold step
  split
  · -- a loop that has terminated is not in the running state
    rename_i hrun _
    cases h.symm.trans hrun
  · rfl

/-- A loop without a session does nothing. -/
theorem step_of_session_none (h : loop.session = none) : loop.step = ⟨.ok (), loop, []⟩ := by
  unfold step
  split
  · rename_i hs
    cases h.symm.trans hs
  · rfl

/-- A step neither takes the session away nor brings one about. -/
theorem isSome_session_step : loop.step.state.session.isSome = loop.session.isSome := by
  cases hstate : loop.state with
  | terminated t => rw [step_of_terminated hstate]
  | running =>
    -- without a session there is nothing to step
    cases hs : loop.session with
    | none => rw [step_of_session_none hs, hs]
    | some session =>
      rw [step_of_running hstate hs, session_stepped]
      rfl

end

/-! ### The start -/

/-- The size that the window of the child begins with. -/
def firstWindow (measures : Measures) (display : Size) : Size :=
  (Layout.of measures display).viewportSize.getD minChildSize

section

variable {δ ε κ π : Type} [OutputDecoder ε]

/-- The report with which a run begins. -/
def beginning (loop : Loop δ ε κ π) (size : Size) : Notice :=
  .runBegins size (firstWindow loop.stage.measures size) (OutputDecoder.name loop.stage.engine)

/-- The loop with another display. -/
def withDisplay (loop : Loop δ ε κ π) (display : δ) : Loop δ ε κ π :=
  { loop with stage := { loop.stage with display := display } }

/-- The parts of a run with a child that was just spawned. -/
def spawned (loop : Loop δ ε κ π) (display : δ) (size : Size) (master : π) : Live δ ε κ π :=
  ⟨{ loop.stage with display := display },
    { master := master, size := firstWindow loop.stage.measures size }, [loop.beginning size]⟩

/-- The loop after a start that spawned the child and had the given outcome. -/
def opened (loop : Loop δ ε κ π) :
    EStateM.Result LoopFault (Live δ ε κ π) Unit → Noticed (Loop δ ε κ π) (Except LoopFault Unit)
  | .ok _ live => loop.absorb live (.ok ())
  | .error e live => loop.absorb live (.error e)

section

variable (loop : Loop δ ε κ π) (r : EStateM.Result LoopFault (Live δ ε κ π) Unit)

omit [OutputDecoder ε]

@[simp] theorem stage_opened : (loop.opened r).state.stage = (Live.final r).stage := by
  cases r <;> rfl

@[simp] theorem session_opened : (loop.opened r).state.session = some (Live.final r).session := by
  cases r <;> rfl

@[simp] theorem state_opened : (loop.opened r).state.state = loop.state := by
  cases r <;> rfl

end

variable [Display δ] [Master π]

/-- **The ways in which a start can go.** -/
inductive Starts (loop : Loop δ ε κ π) (spawn : Size → Except PtyError π) :
    Noticed (Loop δ ε κ π) (Except LoopFault Unit) → Prop where
  /-- The display does not tell its size. -/
  | unsized (e : DisplayFault) (display : δ)
      (hsize : Display.size loop.stage.display = (.error e, display)) :
      Starts loop spawn ⟨.error (.sizeUnknown e), loop.withDisplay display, []⟩
  /-- The child cannot be spawned. -/
  | unspawned (size : Size) (display : δ) (e : PtyError)
      (hsize : Display.size loop.stage.display = (.ok size, display))
      (hspawn : spawn (firstWindow loop.stage.measures size) = .error e) :
      Starts loop spawn
        ⟨.ok (), { loop.withDisplay display with state := .terminated (.spawnFailed e) },
          [loop.beginning size, .spawnFailed e]⟩
  /-- The child is spawned, and its window is opened. -/
  | spawned (size : Size) (display : δ) (master : π)
      (hsize : Display.size loop.stage.display = (.ok size, display))
      (hspawn : spawn (firstWindow loop.stage.measures size) = .ok master) :
      Starts loop spawn
        (loop.opened (Live.opening (firstWindow loop.stage.measures size) size
          (loop.spawned display size master)))

section

variable {loop : Loop δ ε κ π} {spawn : Size → Except PtyError π} {size : Size} {display : δ}

theorem start_of_unsized {e : DisplayFault}
    (hsize : Display.size loop.stage.display = (.error e, display)) :
    loop.start spawn = ⟨.error (.sizeUnknown e), loop.withDisplay display, []⟩ := by
  unfold start
  rw [hsize]
  rfl

theorem start_of_unspawned {e : PtyError}
    (hsize : Display.size loop.stage.display = (.ok size, display))
    (hspawn : spawn (firstWindow loop.stage.measures size) = .error e) :
    loop.start spawn
      = ⟨.ok (), { loop.withDisplay display with state := .terminated (.spawnFailed e) },
          [loop.beginning size, .spawnFailed e]⟩ := by
  unfold firstWindow at hspawn
  unfold start
  rw [hsize]
  dsimp only
  rw [hspawn]
  rfl

theorem start_of_spawned {master : π}
    (hsize : Display.size loop.stage.display = (.ok size, display))
    (hspawn : spawn (firstWindow loop.stage.measures size) = .ok master) :
    loop.start spawn
      = loop.opened (Live.opening (firstWindow loop.stage.measures size) size
          (loop.spawned display size master)) := by
  unfold firstWindow at hspawn
  unfold start
  rw [hsize]
  dsimp only
  rw [hspawn]
  dsimp only
  -- both outcomes of the opening are read off it by `opened`
  split <;> rename_i hr
  · exact (congrArg loop.opened hr).symm
  · exact (congrArg loop.opened hr).symm

end

/-- **A start goes in one of three ways.** -/
theorem start_cases (loop : Loop δ ε κ π) (spawn : Size → Except PtyError π) :
    loop.Starts spawn (loop.start spawn) := by
  -- the display is asked first, and the child is spawned at the size that it tells
  rcases hsize : Display.size loop.stage.display with ⟨answer, display⟩
  cases answer with
  | error e =>
    rw [start_of_unsized hsize]
    exact .unsized e display hsize
  | ok size =>
    cases hspawn : spawn (firstWindow loop.stage.measures size) with
    | error e =>
      rw [start_of_unspawned hsize hspawn]
      exact .unspawned size display e hsize hspawn
    | ok master =>
      rw [start_of_spawned hsize hspawn]
      exact .spawned size display master hsize hspawn

/-- The start brings a session about if the display tells its size and the child can be spawned. -/
theorem isSome_session_start {loop : Loop δ ε κ π} {spawn : Size → Except PtyError π} {size : Size}
    {display : δ} {master : π} (hsize : Display.size loop.stage.display = (.ok size, display))
    (hspawn : spawn (firstWindow loop.stage.measures size) = .ok master) :
    (loop.start spawn).state.session.isSome = true := by
  rw [start_of_spawned hsize hspawn, session_opened]
  rfl

/-- A start without a session leaves the stage alone, but for the display that was asked. -/
theorem stage_start_of_none {loop : Loop δ ε κ π} {spawn : Size → Except PtyError π}
    (h : (loop.start spawn).state.session = none) :
    ∃ display, (loop.start spawn).state.stage = { loop.stage with display := display } := by
  have hstarts := loop.start_cases spawn
  generalize loop.start spawn = started at h hstarts ⊢
  -- a start that fails before the child is spawned has only asked the display
  cases hstarts with
  | unsized e display hsize => exact ⟨display, rfl⟩
  | unspawned size display e hsize hspawn => exact ⟨display, rfl⟩
  | spawned =>
    rw [session_opened] at h
    cases h

end

end Loop

/-! ### Opening the window -/

namespace Live

variable {δ ε κ π : Type} [OutputDecoder ε] [Master π]

/-- The parts after the window of a new child got its first size, before the display is taken up. -/
def windowed (initial : Size) (live : Live δ ε κ π) : Live δ ε κ π :=
  { live with
    stage := { live.stage with
      engine := (OutputDecoder.resize initial live.stage.engine).1
      relay := .new live.stage.measures initial }
    session := (live.session.setSize initial).state }

variable [KeySource κ] [Display δ]

/-- Opening the window leads on from the parts with the first size, taken up by the relay. -/
theorem leads_opening (initial size : Size) (live : Live δ ε κ π) :
    ∃ notices, Leads (relayed size { live.windowed initial with notices := notices })
      (final (opening initial size live)) := by
  unfold opening
  rw [onSession_bind]
  -- the answer to the first size changes nothing but the reports
  cases (live.session.setSize initial).result with
  | ok _ => exact ⟨_, leads_takeUpSize size _⟩
  | error e => exact ⟨_, leads_takeUpSize size _⟩

end Live

/-! ### What holds of a loop -/

namespace Loop

variable {δ ε κ π : Type}

/-- A property of the parts of a run holds of a loop: of its stage with its session, if there is
one. -/
def Holds (P : Live δ ε κ π → Prop) (loop : Loop δ ε κ π) : Prop :=
  ∀ session, loop.session = some session → P ⟨loop.stage, session, []⟩

variable [OutputDecoder ε] [Master π] [KeySource κ] {P : Live δ ε κ π → Prop}

/-- What every effect keeps does not depend on the reports, which a loop does not have. -/
theorem holds_of_parts (hP : ∀ live live', Live.Effect live live' → P live → P live')
    {loop : Loop δ ε κ π} {live : Live δ ε κ π} (hstage : loop.stage = live.stage)
    (hsession : loop.session = some live.session) (h : P live) : loop.Holds P := by
  intro session hs
  obtain rfl := Option.some.inj (hsession.symm.trans hs)
  rw [hstage]
  exact hP live _ (.noted live []) h

variable [Display δ]

/-- **What every effect keeps, every step of the loop keeps**, whether or not it fails. -/
theorem Holds.step (hP : ∀ live live', Live.Effect live live' → P live → P live')
    {loop : Loop δ ε κ π} (h : loop.Holds P) : loop.step.state.Holds P := by
  cases hstate : loop.state with
  | terminated t =>
    rw [step_of_terminated hstate]
    exact h
  | running =>
    cases hs : loop.session with
    | none =>
      rw [step_of_session_none hs]
      exact h
    | some session =>
      rw [step_of_running hstate hs]
      refine holds_of_parts hP (stage_stepped _ _) (session_stepped _ _) ?_
      exact (Live.effects_step ⟨loop.stage, session, []⟩).keeps hP (h session hs)

/-- **What every effect keeps holds after the start**, if it holds of the parts with the first
window that the display was taken up with. -/
theorem holds_start (hP : ∀ live live', Live.Effect live live' → P live → P live')
    {loop : Loop δ ε κ π} {spawn : Size → Except PtyError π} (hnone : loop.session = none)
    (hopen : ∀ display size master notices,
      spawn (firstWindow loop.stage.measures size) = .ok master →
        P (Live.relayed size (Live.windowed (firstWindow loop.stage.measures size)
          ⟨{ loop.stage with display := display },
            { master := master, size := firstWindow loop.stage.measures size }, notices⟩))) :
    (loop.start spawn).state.Holds P := by
  have hstarts := loop.start_cases spawn
  generalize loop.start spawn = started at hstarts ⊢
  cases hstarts with
  | unsized e display hsize =>
    -- there is still no session, so nothing has to hold
    intro session hs
    cases hnone.symm.trans hs
  | unspawned size display e hsize hspawn =>
    intro session hs
    cases hnone.symm.trans hs
  | spawned size display master hsize hspawn =>
    -- all that the opening does after the display was taken up is made of effects
    obtain ⟨notices, hleads⟩ := Live.leads_opening (firstWindow loop.stage.measures size) size
      (loop.spawned display size master)
    refine holds_of_parts hP (stage_opened _ _) (session_opened _ _) ?_
    exact hleads.keeps hP (hopen display size master notices hspawn)

end Loop

/-! ### The record of a loop -/

namespace Loop

variable {δ ε κ π : Type}

/-- The exchanges of a loop with its child. -/
def exchanges {δ ε κ π : Type} (loop : Loop δ ε κ (Recorded π)) : List Exchange :=
  loop.session.elim [] Session.exchanges

/-- The input that the child of a loop has not taken yet. -/
def pending {δ ε κ π : Type} (loop : Loop δ ε κ π) : List UInt8 :=
  loop.session.elim [] Session.pending

theorem exchanges_of_session {loop : Loop δ ε κ (Recorded π)} {session : Session (Recorded π)}
    (h : loop.session = some session) : loop.exchanges = session.exchanges := by
  rw [exchanges, h]
  rfl

theorem exchanges_of_none {loop : Loop δ ε κ (Recorded π)} (h : loop.session = none) :
    loop.exchanges = [] := by
  rw [exchanges, h]
  rfl

theorem pending_of_session {loop : Loop δ ε κ π} {session : Session π}
    (h : loop.session = some session) : loop.pending = session.pending := by
  rw [pending, h]
  rfl

theorem pending_of_none {loop : Loop δ ε κ π} (h : loop.session = none) : loop.pending = [] := by
  rw [pending, h]
  rfl

end Loop

end FramedShell
