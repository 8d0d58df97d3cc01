import FramedShell.Pty

/-!
# How a run ends

A run ends with its child, with the end of the child's output, or because the child could not be
started. `Termination.exitCode` is the code of the run, `Termination.status` the byte that the program
itself exits with.
-/

namespace FramedShell

/-- **How a running session ends.** -/
inductive Ending where
  /-- The child's exit status was seen. -/
  | childExited (exit : ChildExit)
  /-- The output ended and no exit status was seen. -/
  | endOfStream
deriving DecidableEq, Inhabited

/-- **Why a run stopped.** -/
inductive Termination where
  | ended (ending : Ending)
  | spawnFailed (cause : PtyError)
deriving DecidableEq, Inhabited

namespace Ending

/-- The exit code of an ending: the bits of the child's code, read as a signed number. -/
def exitCode : Ending → Int32
  | .childExited exit => exit.code.toInt32
  | .endOfStream => 0

/-- The form of an ending in messages. -/
def text : Ending → String
  | .childExited exit =>
    "ChildExited(ChildExit \x7b code: " ++ toString exit.code.toNat ++ " \x7d)"
  | .endOfStream => "Eof"

end Ending

namespace Termination

/-- The exit code of a run. -/
def exitCode : Termination → Int32
  | .ended ending => ending.exitCode
  | .spawnFailed _ => 1

/-- A signed code brought into the range of an exit status. -/
def clampStatus (code : Int32) : UInt8 := UInt8.ofNat (min code.toInt.toNat 255)

/-- **The exit status of the program** after a run. -/
def status : Termination → UInt8
  | .ended ending => clampStatus ending.exitCode
  | .spawnFailed _ => 1

end Termination

end FramedShell
