import FramedShell.Loop.Live

/-!
# The loop

The loop hosts one child: `Loop.start` spawns it and paints the first picture, `Loop.step` does a round
of its work, and the loop ends with the child, with its output, or because it could not be spawned. A
step that fails leaves the loop running, so that the next one goes on from there.

## Main definitions

* `RunState` — running, or terminated and why;
* `Loop` — a stage, the session if there is one, and the state;
* `Loop.start`, `Loop.step` — each with what it reports.
-/

namespace FramedShell

/-- **The state of a run.** -/
inductive RunState where
  | running
  | terminated (termination : Termination)
deriving DecidableEq, Inhabited

/-- The reason for which a run has stopped, if it has. -/
def RunState.termination? : RunState → Option Termination
  | .running => none
  | .terminated t => some t

/-- **The loop.** -/
structure Loop (δ ε κ π : Type) where
  stage : Stage δ ε κ
  session : Option (Session π) := none
  state : RunState := .running

namespace Loop

/-- The window of a child that is started while the display is too small. -/
def minChildSize : Size := ⟨2, 10⟩

section

variable {δ ε κ π : Type}

/-- A loop that has not been started. -/
def new (display : δ) (keys : κ) (engine : ε) (measures : Measures) (theme : Theme)
    (pollInterval : Nat) : Loop δ ε κ π :=
  { stage :=
      { display, keys, engine
        painter := ⟨theme, measures.bannerHeight, measures.frameHeight, false⟩
        measures
        relay := .new measures minChildSize
        pollInterval } }

/-- Whether the loop has not terminated. -/
def isRunning (loop : Loop δ ε κ π) : Bool := loop.state = .running

/-- The loop after an action, and what the action reported. -/
def absorb {α : Type} (loop : Loop δ ε κ π) (live : Live δ ε κ π) (result : α) : Noticed (Loop δ ε κ π) α :=
  ⟨result, { loop with stage := live.stage, session := some live.session }, live.notices⟩

end

variable {δ ε κ π : Type} [Display δ] [OutputDecoder ε] [Master π]

/-- **Start the child** and paint the first picture. A child that cannot be spawned terminates the loop
without touching the display. -/
def start (spawn : Size → Except PtyError π) (loop : Loop δ ε κ π) :
    Noticed (Loop δ ε κ π) (Except LoopFault Unit) :=
  match Display.size loop.stage.display with
  | (.error e, d) => ⟨.error (.sizeUnknown e), { loop with stage := { loop.stage with display := d } }, []⟩
  | (.ok size, d) =>
    let stage := { loop.stage with display := d }
    let initial := (Layout.of stage.measures size).viewportSize.getD minChildSize
    let begins := Notice.runBegins size initial (OutputDecoder.name stage.engine)
    match spawn initial with
    | .error e =>
      ⟨.ok (), { loop with stage := stage, state := .terminated (.spawnFailed e) },
        [begins, .spawnFailed e]⟩
    | .ok master =>
      match Live.opening initial size ⟨stage, { master := master, size := initial }, [begins]⟩ with
      | .ok () live => loop.absorb live (.ok ())
      | .error e live => loop.absorb live (.error e)

variable [KeySource κ]

/-- **One step.** A loop that has terminated, or has no child, does nothing. -/
def step (loop : Loop δ ε κ π) : Noticed (Loop δ ε κ π) (Except LoopFault Unit) :=
  match loop.state, loop.session with
  | .running, some session =>
    match Live.step ⟨loop.stage, session, []⟩ with
    | .ok none live => loop.absorb live (.ok ())
    | .ok (some ending) live =>
      { loop with state := .terminated (.ended ending) }.absorb
        { live with notices := live.notices ++ [Notice.sessionEnded ending] } (.ok ())
    | .error e live => loop.absorb live (.error e)
  | _, _ => ⟨.ok (), loop, []⟩

end Loop

end FramedShell
