import FramedShell.Termination
import FramedShell.Config.Fault
import FramedShell.Text.Quoted

/-!
# The log

Everything the program reports about itself is a *notice*: a value that says what happened. Its level
and its text are functions of it (`Notice.level`, `Notice.text`).
-/

namespace FramedShell

/-- **The levels of the log**, from the least to the most important. -/
inductive Level where
  | debug
  | info
  | warn
  | error
deriving DecidableEq, Inhabited

/-- The name of a level. -/
def Level.name : Level → String
  | .debug => "DEBUG"
  | .info => "INFO"
  | .warn => "WARN"
  | .error => "ERROR"

/-- **What the program reports.** -/
inductive Notice where
  /-- The display no longer holds the frame. -/
  | displayTooSmall (display : Size)
  /-- The display holds the frame again. -/
  | displayLargeEnough (display : Size)
  /-- The emulator's grid has a new size. -/
  | gridResized (size : Size)
  /-- The child and the engine have a new window size. -/
  | viewportResized (viewport display : Size)
  /-- The child did not take a new window size. -/
  | viewportRefused (viewport : Size) (cause : PtyError)
  /-- There is no viewport, so the child keeps its window size. -/
  | sizeNotPropagated (display : Size)
  /-- The session has a new window size. -/
  | sessionResized (before after : Size)
  /-- The child takes no input at the moment. -/
  | writeWouldBlock (pending : Nat)
  /-- Input that a dead child will never take is dropped. -/
  | inputDropped (count : Nat)
  /-- The run begins. -/
  | runBegins (display child : Size) (engine : String)
  /-- The child could not be started. -/
  | spawnFailed (cause : PtyError)
  /-- An operation on the pseudo terminal failed, and the run goes on. -/
  | ptyFailed (cause : PtyError)
  /-- The child's output ended. -/
  | outputEnded
  /-- Reading failed, which is taken for the end of the output. -/
  | outputFailed (cause : PtyError)
  /-- The child has not yet taken all of its input. -/
  | inputWaiting (count : Nat)
  /-- The last output of a dead child could not be read to its end. -/
  | drainFailed (cause : PtyError)
  /-- The session ended. -/
  | sessionEnded (ending : Ending)
  /-- The configuration file was read. -/
  | configLoaded (path : String)
  /-- The configuration file is not used. -/
  | configRejected (fault : ConfigFault)
  /-- A variable that should hold a number does not. -/
  | variableRejected (key value : String)
  /-- The configured shell cannot be run. -/
  | configuredShellRejected (path : String)
  /-- The login shell is run. -/
  | loginShellUsed (path : String)
  /-- The login shell cannot be run. -/
  | loginShellRejected (path : String)
  /-- The shell of last resort is run. -/
  | fallbackShellUsed (path : String)
deriving DecidableEq, Inhabited

namespace Notice

/-- The level of a notice. -/
def level : Notice → Level
  | .gridResized _ | .sizeNotPropagated _ | .sessionResized _ _ | .writeWouldBlock _ | .outputEnded
  | .inputWaiting _ | .drainFailed _ => .debug
  | .displayLargeEnough _ | .viewportResized _ _ | .runBegins _ _ _ | .sessionEnded _
  | .configLoaded _ | .loginShellUsed _ | .fallbackShellUsed _ => .info
  | .displayTooSmall _ | .viewportRefused _ _ | .inputDropped _ | .ptyFailed _ | .outputFailed _
  | .configRejected _ | .variableRejected _ _ | .configuredShellRejected _
  | .loginShellRejected _ => .warn
  | .spawnFailed _ => .error

/-- **The text of a notice.** -/
def text : Notice → String
  | .displayTooSmall display => "Display " ++ display.text ++ " too small for the frame"
  | .displayLargeEnough display => "Display " ++ display.text ++ " large enough again"
  | .gridResized size => "vt100 grid resized to " ++ size.text
  | .viewportResized viewport display =>
    "Viewport resized to " ++ viewport.text ++ " (display " ++ display.text ++ ")"
  | .viewportRefused viewport cause =>
    "Failed to resize child to " ++ viewport.text ++ ": " ++ cause.message
  | .sizeNotPropagated display => "Display " ++ display.text ++ " too small, size not propagated"
  | .sessionResized before after => "Session size " ++ before.text ++ " -> " ++ after.text
  | .writeWouldBlock pending =>
    "PTY write would block, " ++ toString pending ++ " bytes pending"
  | .inputDropped count => "Dropping " ++ toString count ++ " unwritten bytes"
  | .runBegins display child engine =>
    "Display " ++ display.text ++ ", child window " ++ child.text ++ ", engine " ++ engine
  | .spawnFailed cause => cause.message
  | .ptyFailed cause => cause.message
  | .outputEnded => "End of stream from child"
  | .outputFailed cause => cause.message ++ "; treating as end of stream"
  | .inputWaiting count => toString count ++ " input bytes waiting for the child"
  | .drainFailed cause => "Stopped draining: " ++ cause.message
  | .sessionEnded ending =>
    "Session ended: " ++ ending.text ++ " (exit code " ++ toString ending.exitCode.toInt ++ ")"
  | .configLoaded path => "Loaded config from " ++ path
  | .configRejected fault => fault.message ++ "; using defaults"
  | .variableRejected key value =>
    "Invalid value for " ++ key ++ ": " ++ String.ofList (Text.quoted value.toList)
  | .configuredShellRejected path => "Configured shell " ++ path ++ " is not an executable file"
  | .loginShellUsed path => "Using login shell " ++ path
  | .loginShellRejected path => "Login shell " ++ path ++ " is not an executable file"
  | .fallbackShellUsed path => "Falling back to " ++ path

/-- The line of a notice in the log. -/
def line (n : Notice) : String := n.level.name ++ " " ++ n.text

end Notice

/-- **What an operation leaves behind**: its result, the state after it, and what it reported. -/
structure Noticed (σ α : Type) where
  result : α
  state : σ
  notices : List Notice := []

end FramedShell
