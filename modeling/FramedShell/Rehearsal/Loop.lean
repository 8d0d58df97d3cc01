import FramedShell.Loop
import FramedShell.Rehearsal.Child

/-!
# Rehearsing the loop

A rehearsal lets a loop run with a scripted child. Each cue — the child writes, keys are pressed, the
child ends — is followed by as many steps as it needs to take effect. A step that fails is followed by
the next one; the first failure is kept.

## Main definitions

* `Passage` — a loop with what it has reported and its first failure;
* `Passage.stepUntil` — stepping until something has come about;
* `childWrites`, `keysTaken`, `toTheEnd` — how far the cues run.
-/

namespace FramedShell.Rehearsal

/-- **A passage of a rehearsal**: the loop, what it reported, and the first failure. -/
structure Passage (δ ε κ : Type) where
  loop : FramedShell.Loop δ ε κ Child
  notices : List Notice := []
  fault : Option LoopFault := none

namespace Passage

variable {δ ε κ : Type}

/-- The passage after one more operation of the loop. -/
def after (p : Passage δ ε κ) (r : Noticed (FramedShell.Loop δ ε κ Child) (Except LoopFault Unit)) :
    Passage δ ε κ :=
  ⟨r.state, p.notices ++ r.notices,
    match p.fault, r.result with
    | some f, _ => some f
    | none, .error f => some f
    | none, .ok () => none⟩

/-- The child, if there is a session. -/
def child? (p : Passage δ ε κ) : Option Child := p.loop.session.map Session.master

/-- Let the child do something. -/
def cue (f : Child → Child) (p : Passage δ ε κ) : Passage δ ε κ :=
  { p with
    loop := { p.loop with
      session := p.loop.session.map fun s => { s with master := f s.master } } }

/-- Change the stage from outside. -/
def onStage (f : Stage δ ε κ → Stage δ ε κ) (p : Passage δ ε κ) : Passage δ ε κ :=
  { p with loop := { p.loop with stage := f p.loop.stage } }

/-- Whether everything that the child has written was read. -/
def isHeard (p : Passage δ ε κ) : Bool :=
  match p.child? with
  | some c => c.output.isEmpty
  | none => true

/-- The bytes that the child has written and nobody has read. -/
def unheard (p : Passage δ ε κ) : Nat :=
  match p.child? with
  | some c => c.output.length
  | none => 0

variable [Display δ] [OutputDecoder ε] [KeySource κ]

/-- One step. -/
def step (p : Passage δ ε κ) : Passage δ ε κ := p.after p.loop.step

/-- So many steps. -/
def steps : Nat → Passage δ ε κ → Passage δ ε κ
  | 0, p => p
  | n + 1, p => steps n p.step

/-- Steps until a condition holds or the loop has terminated, and at most so many. -/
def stepUntil (done : Passage δ ε κ → Bool) : Nat → Passage δ ε κ → Passage δ ε κ
  | 0, p => p
  | n + 1, p => if done p || !p.loop.isRunning then p else stepUntil done n p.step

/-- More steps than there can be failures that were ordered. -/
def spareSteps : Nat := 16

/-- **The child writes**, and the loop runs until all of it was read. -/
def hear (bytes : List UInt8) (p : Passage δ ε κ) : Passage δ ε κ :=
  let p := p.cue (Child.say bytes)
  p.stepUntil isHeard (p.unheard + spareSteps)

/-- **Keys are pressed**: the loop runs until `left` says that none is left of `count` keys. -/
def takeKeys (left : κ → Bool) (count : Nat) (p : Passage δ ε κ) : Passage δ ε κ :=
  (p.stepUntil (fun p => left p.loop.stage.keys) (count + spareSteps)).cue Child.listen

/-- **To the end**: the loop runs until it terminates. -/
def finish (p : Passage δ ε κ) : Passage δ ε κ := p.stepUntil (fun _ => false) (p.unheard + spareSteps)

end Passage

end FramedShell.Rehearsal
