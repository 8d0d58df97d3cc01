import FramedShell.CommandLine
import FramedShell.Loop
import FramedShell.Terminal.Surface

/-!
# From start to end

The program prepares the terminal, gives its window a title, runs the loop on it and restores it. What it
exits with is decided by the reason for which the loop ended.

## Main definitions

* `Launch.command` — the command of the child;
* `Launch.prepared` — the terminal on which the loop is started;
* `Launch.loop` — the loop before its start;
* `Launch.reply` — what the program exits with and writes at its end.
-/

namespace FramedShell.Launch

open Terminal (Surface)

/-- The command of the child: the program that was chosen, and the variables by which it can tell where
it runs. -/
def command (shell : String) : Command :=
  { program := shell
    env := [("SFTERM", "1"), ("SFTERM_VERSION", CommandLine.programVersion)] }

/-- The title of the terminal's window. -/
def title (shell : String) : String := CommandLine.programName ++ " - " ++ shell

/-- **The terminal, prepared**: it has its title, and its size has been asked for. -/
def prepared (window : Size) (shell : String) : Surface :=
  let s : Surface := { window := window }
  (Display.size (s.prepare.setTitle (title shell).toList)).2

/-- **The loop before its start.** -/
def loop {κ π : Type} (config : Config) (shell : String) (window : Size) (keys : κ) :
    Loop Surface Engine κ π :=
  .new (prepared window shell) keys (.new config.engine window) config.measures config.theme
    config.pollInterval

/-- **What the program exits with** and writes at its end. -/
def reply (t : Termination) : Reply :=
  match t with
  | .ended _ => ⟨t.status, ""⟩
  | .spawnFailed cause => ⟨t.status, CommandLine.complaint cause.message⟩

end FramedShell.Launch
