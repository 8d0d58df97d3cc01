/-!
# What can be wrong with the configuration

Every fault of the configuration file and of the variables that override it, and its text.
-/

namespace FramedShell

/-- **Why a file cannot be read as text.** -/
inductive FileFault where
  | notFound
  | isDirectory
  | notText
deriving DecidableEq, Inhabited

/-- The system's text for a fault. -/
def FileFault.message : FileFault → String
  | .notFound => "No such file or directory (os error 2)"
  | .isDirectory => "Is a directory (os error 21)"
  | .notText => "stream did not contain valid UTF-8"

/-- **What can be wrong with the configuration.** -/
inductive ConfigFault where
  /-- The file at `path` cannot be read. -/
  | unreadable (path : String) (cause : FileFault)
  /-- The file is not a document of the configuration language, or a setting in it has a wrong value. -/
  | malformed
deriving DecidableEq, Inhabited

/-- The text of a fault. -/
def ConfigFault.message : ConfigFault → String
  | .unreadable path cause => "Failed to read " ++ path ++ ": " ++ cause.message
  | .malformed => "Failed to parse config: <toml>"

end FramedShell
