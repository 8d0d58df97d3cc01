import FramedShell.Config

/-!
# The command line

The arguments are read from the left. Help and version end the reading wherever they are found, and so
does the first argument that means nothing.

## Main definitions

* `Overrides` — what the arguments change in the configuration;
* `Request` — what the arguments ask for;
* `CommandLine.parse` — reading them;
* `Request.reply?` — the answer to a request that starts no session.
-/

namespace FramedShell

/-- **What the command line changes** in the configuration. -/
structure Overrides where
  shell : Option String := none
  engineOff : Bool := false
deriving DecidableEq, Inhabited

/-- **What can be wrong with the arguments.** -/
inductive ArgumentFault where
  /-- The program to run is missing after its option. -/
  | missingShell
  | unknown (argument : String)
deriving DecidableEq, Inhabited

/-- The text of a fault. -/
def ArgumentFault.message : ArgumentFault → String
  | .missingShell => "Missing shell argument"
  | .unknown argument => "Unknown argument: " ++ argument ++ ". Use -h for help."

/-- **What the arguments ask for.** -/
inductive Request where
  | session (overrides : Overrides)
  | help
  | version
  | rejected (fault : ArgumentFault)
deriving DecidableEq, Inhabited

/-- **How the program ends**: its exit status and what it writes to the error output. -/
structure Reply where
  status : UInt8
  errorOutput : String
deriving DecidableEq, Inhabited

/-- The configuration with what the command line changes. -/
def Config.withOverrides (o : Overrides) (c : Config) : Config :=
  { c with
    shell := o.shell.orElse fun _ => c.shell
    engine := if o.engineOff then .off else c.engine }

namespace CommandLine

/-- The name of the program. -/
def programName : String := "sfterm"

/-- The version of the program. -/
def programVersion : String := "0.1.0"

/-- Read the arguments after those that led to `o`. -/
def parseFrom (o : Overrides) : List String → Request
  | [] => .session o
  | a :: rest =>
    if a = "-h" ∨ a = "--help" then .help
    else if a = "-v" ∨ a = "--version" then .version
    else if a = "-s" ∨ a = "--shell" then
      match rest with
      | [] => .rejected .missingShell
      | shell :: rest => parseFrom { o with shell := some shell } rest
    else if a = "--no-engine" then parseFrom { o with engineOff := true } rest
    else .rejected (.unknown a)

/-- **Read the arguments**, without the name of the program. -/
def parse (arguments : List String) : Request := parseFrom {} arguments

/-- The text of a message that names the program. -/
def complaint (message : String) : String := programName ++ ": " ++ message ++ "\n"

/-- The line that gives the version. -/
def versionText : String := programName ++ " " ++ programVersion ++ "\n"

/-- **The help.** -/
def helpText : String :=
  String.join ([
    programName ++ " " ++ programVersion ++ " - A framed terminal for one interactive shell",
    "",
    "Usage: sfterm [OPTIONS]",
    "",
    "Options:",
    "  -s, --shell <CMD>     Program to run (must be an executable file)",
    "      --no-engine       Keep the session but do not render its output",
    "  -v, --version         Show version",
    "  -h, --help            Show this help",
    "",
    "Environment:",
    "  TOP_HEIGHT            Banner rows (default 6)",
    "  MID_HEIGHT            Frame rows, border included (default 12)",
    "  INSET_LEFT            Columns left of the frame (default 2)",
    "  INSET_RIGHT           Columns right of the frame (default 2)",
    "  SHELL_CMD             Program to run",
    "  SFTERM_LOG            Log filter (default info)",
    "",
    "Configuration: ~/.sfterm/config.toml",
    "Log file:      ~/.sfterm/sfterm.log",
    "",
    "Exit: leave the shell (exit or Ctrl+D)"].map (· ++ "\n"))

/-- What is written about arguments that are rejected. -/
def rejection (fault : ArgumentFault) : String :=
  "Error: " ++ fault.message ++ "\nUse --help for usage information\n"

/-- The system's text for a terminal that is not there. -/
def noTerminal : String := "No such device or address (os error 6)"

/-- What is written when the display cannot be prepared. -/
def displayFailure (cause : String) : String := complaint ("Failed to initialize the display: " ++ cause)

end CommandLine

open CommandLine in
/-- **The answer to a request** that starts no session. -/
def Request.reply? : Request → Option Reply
  | .session _ => none
  | .help => some ⟨0, helpText⟩
  | .version => some ⟨0, versionText⟩
  | .rejected fault => some ⟨1, rejection fault⟩

open CommandLine in
/-- The answer to a request where there is no terminal to draw on. -/
def Request.replyWithoutTerminal (r : Request) : Reply :=
  r.reply?.getD ⟨1, displayFailure noTerminal⟩

end FramedShell
