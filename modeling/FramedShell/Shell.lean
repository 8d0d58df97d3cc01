import FramedShell.Notice

/-!
# Which program to run

The configured program is run if it is an executable file, else the login shell if that is one, and else
the shell of last resort. Each choice that is passed over is reported.
-/

namespace FramedShell.Shell

/-- The shell of last resort. -/
def lastResort : String := "/bin/sh"

/-- The login shell if it can be run, else the shell of last resort. -/
def ofLogin (isExecutable : String → Bool) : Option String → String × List Notice
  | none => (lastResort, [.fallbackShellUsed lastResort])
  | some path =>
    if isExecutable path then (path, [.loginShellUsed path])
    else (lastResort, [.loginShellRejected path, .fallbackShellUsed lastResort])

/-- **The program to run**, given which paths are executable files. -/
def resolve (isExecutable : String → Bool) (configured login : Option String) : String × List Notice :=
  match configured with
  | none => ofLogin isExecutable login
  | some path =>
    if isExecutable path then (path, [])
    else
      let (shell, notices) := ofLogin isExecutable login
      (shell, .configuredShellRejected path :: notices)

end FramedShell.Shell
