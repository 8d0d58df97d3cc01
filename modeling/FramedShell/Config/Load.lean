import FramedShell.Config.Environment
import FramedShell.Text.Utf8

/-!
# Loading the configuration

The configuration file lies in the home directory. If there is none, the defaults hold; if it cannot be
used, that is reported and the defaults hold too. The environment is applied on top.

## Main definitions

* `FileState` — what is found at the place of the file;
* `Config.ofFile` — reading the file;
* `Config.load` — the configuration with everything that was reported.
-/

namespace FramedShell

/-- **What is found at a path.** -/
inductive FileState where
  | absent
  | directory
  | file (bytes : List UInt8)
deriving DecidableEq, Inhabited

/-- A path continued by a relative one. -/
def joinPath (directory rest : String) : String :=
  if directory = "" then rest
  else if directory.endsWith "/" then directory ++ rest
  else directory ++ "/" ++ rest

namespace Config

/-- The path of the configuration file in a home directory. -/
def pathIn (home : String) : String := joinPath home ".sfterm/config.toml"

/-- The text of a file. -/
def textOf (path : String) : FileState → Except ConfigFault (List Char)
  | .absent => .error (.unreadable path .notFound)
  | .directory => .error (.unreadable path .isDirectory)
  | .file bytes =>
    match Text.Utf8.text? bytes with
    | some text => .ok text
    | none => .error (.unreadable path .notText)

/-- **The settings of a file.** -/
def ofFile (path : String) (state : FileState) : Except ConfigFault Config :=
  match textOf path state with
  | .ok text => parse text
  | .error e => .error e

/-- The settings of the file in a home directory, if there is one. -/
def ofHome (home : Option String) (state : FileState) : Config × List Notice :=
  match home, state with
  | none, _ => ({}, [])
  | some _, .absent => ({}, [])
  | some home, state =>
    match ofFile (pathIn home) state with
    | .ok c => (c, [.configLoaded (pathIn home)])
    | .error e => ({}, [.configRejected e])

/-- **Load the configuration.** `state` is what is found at the path of the file. The variables of the
environment are read as texts. -/
def load (home : Option String) (state : FileState) (env : Environment) : Config × List Notice :=
  let (file, n₁) := ofHome home state
  let (config, n₂) := file.withVariables env.texts
  (config, n₁ ++ n₂)

end Config

end FramedShell
