import FramedShell.Keyboard.Key
import FramedShell.Painter
import FramedShell.SizeRelay

/-!
# The working parts of a run

A run draws on a display, takes keys, decodes the child's output and keeps the session. An action on
these parts may fail on the display or on the keyboard; what was done before it failed stays done.

## Main definitions

* `Stage` — everything but the session: display, keys, engine, painter, relay and layout;
* `Live` — a stage with a session and what was reported;
* `Live.Act` — an action on it, and the actions that a step is made of.
-/

namespace FramedShell

/-- **Why a step of the loop failed.** -/
inductive LoopFault where
  /-- The display did not tell its size. -/
  | sizeUnknown (cause : DisplayFault)
  /-- Drawing stopped. -/
  | drawing (cause : DisplayFault)
  /-- The keys could not be read. -/
  | keyboard (cause : String)
deriving DecidableEq, Inhabited

/-- The text of a fault, with its cause. -/
def LoopFault.message : LoopFault → String
  | .sizeUnknown cause => "Failed to query display size: " ++ cause.message
  | .drawing cause => cause.message
  | .keyboard cause => "Failed to read keyboard: " ++ cause

/-- **The stage of a run**: everything that it works with but the session. -/
structure Stage (δ ε κ : Type) where
  display : δ
  keys : κ
  engine : ε
  painter : Painter
  measures : Measures
  relay : SizeRelay
  /-- The layout of the last size that was taken up. -/
  layout : Option Layout := none
  /-- The size of the display that was last taken up. -/
  size : Size := ⟨0, 0⟩
  /-- How long to wait for output in each step, in milliseconds. -/
  pollInterval : Nat

/-- **A stage with a session.** -/
structure Live (δ ε κ π : Type) where
  stage : Stage δ ε κ
  session : Session π
  notices : List Notice := []

namespace Live

/-- How long to wait for an exit status once the output has ended, in milliseconds. -/
def reapGrace : Nat := 200

/-- How often to read the last output of a child that has ended. -/
def drainLimit : Nat := 64

section

variable {δ ε κ π : Type}

/-- **An action** on the parts of a run. -/
abbrev Act (δ ε κ π : Type) : Type → Type := EStateM LoopFault (Live δ ε κ π)

/-- Report something. -/
def note (n : Notice) : Act δ ε κ π Unit := modify fun live => { live with notices := live.notices ++ [n] }

/-- Change the stage. -/
def onStage (f : Stage δ ε κ → Stage δ ε κ) : Act δ ε κ π Unit :=
  modify fun live => { live with stage := f live.stage }

/-- Carry out an operation of the session. -/
def onSession {α : Type} (f : Session π → Noticed (Session π) α) : Act δ ε κ π α :=
  modifyGet fun live =>
    match f live.session with
    | ⟨a, session, notices⟩ =>
      (a, { live with session := session, notices := live.notices ++ notices })

end

section

variable {δ ε κ π : Type} [Display δ]

/-- Ask the display for its size. -/
def askSize : Act δ ε κ π Size := fun live =>
  match Display.size live.stage.display with
  | (.ok size, d) => .ok size { live with stage := { live.stage with display := d } }
  | (.error e, d) => .error (.sizeUnknown e) { live with stage := { live.stage with display := d } }

/-- Draw on the display. -/
def draw (strokes : List Stroke) : Act δ ε κ π Unit := fun live =>
  match Display.drawAll strokes live.stage.display with
  | (.ok (), d) => .ok () { live with stage := { live.stage with display := d } }
  | (.error e, d) => .error (.drawing e) { live with stage := { live.stage with display := d } }

/-- Paint the picture of a layout. -/
def paint (l : Layout) : Act δ ε κ π Unit := fun live =>
  match live.stage.painter.paint l live.stage.display with
  | ⟨outcome, painter, d, notices⟩ =>
    let live := { live with
      stage := { live.stage with painter := painter, display := d }
      notices := live.notices ++ notices }
    match outcome with
    | .ok () => .ok () live
    | .error e => .error (.drawing e) live

variable [OutputDecoder ε]

/-- **Show the engine's grid** in the viewport of the last layout. Before there is a layout nothing is
shown; without a grid the display is only flushed. -/
def showGrid : Act δ ε κ π Unit := do
  let live ← get
  match live.stage.layout with
  | none => pure ()
  | some l =>
    match OutputDecoder.grid live.stage.engine with
    | some grid => draw (grid.strokes l.viewport ++ [.flush])
    | none => draw [.flush]

/-- Let the engine read bytes. -/
def decode (bytes : List UInt8) : Act δ ε κ π Unit :=
  onStage fun stage => { stage with engine := OutputDecoder.feed bytes stage.engine }

variable [Master π]

/-- Let the relay follow the display to a size; whether the picture has to be painted again. -/
def relaySize (size : Size) : Act δ ε κ π (Layout × Bool) :=
  modifyGet fun live =>
    let f := live.stage.relay.follow size live.session live.stage.engine
    ((f.layout, f.repaint),
      { stage := { live.stage with
          size := size
          layout := some f.layout
          relay := f.relay
          engine := f.engine }
        session := f.target
        notices := live.notices ++ f.notices })

/-- **Take up a size of the display**: pass it on, and paint what it changed. -/
def takeUpSize (size : Size) : Act δ ε κ π Unit := do
  let (l, repaint) ← relaySize size
  if repaint then
    paint l
    showGrid

/-- Take up the display's size if it is not the one taken up last. -/
def followDisplay : Act δ ε κ π Unit := do
  let size ← askSize
  let live ← get
  if size ≠ live.stage.size then takeUpSize size

/-- Wait for output and read it. -/
def readOutput : Act δ ε κ π (Except PtyError ReadOutcome) := do
  let live ← get
  match ← onSession (Session.waitReadable live.stage.pollInterval) with
  | .ok true => onSession Session.read
  | .ok false => pure (.ok .empty)
  | .error e => pure (.error e)

/-- How the run ends once the output has ended: with the child's status, if it can still be had. -/
def endingOfOutput : Act δ ε κ π Ending := do
  match ← onSession (Session.reap reapGrace) with
  | .ok (some exit) => pure (.childExited exit)
  | .ok none => pure .endOfStream
  | .error e => do
    note (.ptyFailed e)
    pure .endOfStream

/-- Read what a child that has ended wrote last, at most so many times; whether there was anything. -/
def drainOutput : Nat → Act δ ε κ π Bool
  | 0 => pure false
  | n + 1 => do
    match ← onSession Session.read with
    | .ok (.data bytes) => do
      decode bytes
      let _ ← drainOutput n
      pure true
    | .ok .empty | .ok .endOfStream => pure false
    | .error e => do
      note (.drainFailed e)
      pure false

/-- Read and show what a child that has ended wrote last. -/
def drain : Act δ ε κ π Unit := do
  if ← drainOutput drainLimit then showGrid

/-- Check whether the child has ended; if so, how the run ends. -/
def checkExit : Act δ ε κ π (Option Ending) := do
  match ← onSession Session.pollExit with
  | .ok (some exit) => do
    drain
    pure (some (.childExited exit))
  | .ok none => pure none
  | .error e => do
    note (.ptyFailed e)
    pure none

variable [KeySource κ]

/-- Take the next key, if there is one. -/
def nextKey : Act δ ε κ π (Option Key) := fun live =>
  match KeySource.next live.stage.keys with
  | (.ok key, k) => .ok key { live with stage := { live.stage with keys := k } }
  | (.error e, k) => .error (.keyboard e) { live with stage := { live.stage with keys := k } }

/-- Send the bytes of a key to the child. A change of the display's size is no input. -/
def sendKey (key : Key) : Act δ ε κ π Unit := do
  if key ≠ .named .resize then
    match ← onSession (Session.write key.bytes) with
    | .error e => note (.ptyFailed e)
    | .ok () => do
      let live ← get
      if live.session.pending ≠ [] then note (.inputWaiting live.session.pending.length)

/-- **Serve the keyboard**: offer the pending input again, then take one key. -/
def serveKeyboard : Act δ ε κ π Unit := do
  match ← onSession Session.flushPending with
  | .ok () => pure ()
  | .error e => note (.ptyFailed e)
  match ← nextKey with
  | some key => sendKey key
  | none => pure ()

/-- **One step**: follow the display, show output, serve the keyboard, and check whether the child has
ended. The answer says how the run ends, if it does. -/
def step : Act δ ε κ π (Option Ending) := do
  followDisplay
  match ← readOutput with
  | .ok (.data bytes) => do
    decode bytes
    showGrid
    serveKeyboard
    checkExit
  | .ok .empty => do
    serveKeyboard
    checkExit
  | .ok .endOfStream => do
    note .outputEnded
    some <$> endingOfOutput
  | .error e => do
    note (.outputFailed e)
    some <$> endingOfOutput

/-- **Open the session's window** at its first size, and paint the first picture. -/
def opening (initial display : Size) : Act δ ε κ π Unit := do
  match ← onSession (Session.setSize initial) with
  | .ok () => pure ()
  | .error e => note (.ptyFailed e)
  modify fun live =>
    match OutputDecoder.resize initial live.stage.engine with
    | (engine, notices) =>
      { live with
        stage := { live.stage with
          engine := engine
          relay := .new live.stage.measures initial }
        notices := live.notices ++ notices }
  takeUpSize display

end

end Live

end FramedShell
