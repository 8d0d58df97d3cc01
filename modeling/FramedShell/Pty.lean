import FramedShell.Geometry

/-!
# The pseudo terminal

The program talks to its child through the master side of a pseudo terminal. Nothing here waits: a read
may find nothing, and a write may take nothing.

## Main definitions

* `PtyError` — what can go wrong, with its text (`PtyError.message`) and cause (`PtyError.cause?`);
* `ReadOutcome`, `ChildExit` — what reading and waiting yield;
* `Master` — what a master side has to offer;
* `Command` — the program to run on the other side.
-/

namespace FramedShell

/-- **What can go wrong on a pseudo terminal.** -/
inductive PtyError where
  | openFailed (reason : String)
  | spawnFailed (command reason : String)
  | resizeFailed (reason : String)
  | readFailed (cause : String)
  | writeFailed (cause : String)
  | waitFailed (cause : String)
deriving DecidableEq, Inhabited

namespace PtyError

/-- The text of an error. -/
def message : PtyError → String
  | .openFailed reason => "Failed to open pseudo terminal: " ++ reason
  | .spawnFailed command reason => "Failed to spawn " ++ command ++ ": " ++ reason
  | .resizeFailed reason => "Failed to resize pseudo terminal: " ++ reason
  | .readFailed cause => "Failed to read from PTY: " ++ cause
  | .writeFailed cause => "Failed to write to PTY: " ++ cause
  | .waitFailed cause => "Failed to wait for child: " ++ cause

/-- The system error behind an error, for the three kinds that carry one. -/
def cause? : PtyError → Option String
  | .openFailed _ | .spawnFailed _ _ | .resizeFailed _ => none
  | .readFailed cause | .writeFailed cause | .waitFailed cause => some cause

end PtyError

/-- **The exit status of a child.** -/
structure ChildExit where
  code : UInt32
deriving DecidableEq, Inhabited

/-- A child succeeded when its code is zero. -/
def ChildExit.success (e : ChildExit) : Bool := e.code == 0

/-- **What one read of the master yields.** -/
inductive ReadOutcome where
  /-- Bytes that the child wrote. -/
  | data (bytes : List UInt8)
  /-- Nothing at the moment. -/
  | empty
  /-- The other side is closed. -/
  | endOfStream
deriving DecidableEq, Inhabited

/-- **The program to run**, its arguments, and what is added to its environment. A later entry for a
variable replaces an earlier one. -/
structure Command where
  program : String
  args : List String := []
  env : List (String × String) := []
deriving DecidableEq, Inhabited

/-- The value that the command gives to a variable. -/
def Command.lookup (c : Command) (key : String) : Option String :=
  (c.env.reverse.find? fun entry => entry.1 == key).map Prod.snd

/-- **The master side of a pseudo terminal.** Each answer comes with the master as it is afterwards, so
that a type of masters can answer in any way that depends on what it was asked before. -/
class Master (π : Type) where
  /-- Set the window size of the other side. -/
  resize : Size → π → Except PtyError Unit × π
  /-- Wait for output for some milliseconds; whether there is anything to read. -/
  waitReadable : Nat → π → Except PtyError Bool × π
  /-- Read what the child has written. -/
  read : π → Except PtyError ReadOutcome × π
  /-- Offer bytes; how many of them were taken. None taken means that the write would block. -/
  write : List UInt8 → π → Except PtyError Nat × π
  /-- The exit status, if the child has ended. -/
  tryWait : π → Except PtyError (Option ChildExit) × π

end FramedShell
