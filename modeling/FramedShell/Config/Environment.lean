import FramedShell.Config
import FramedShell.Notice
import FramedShell.Text.Blank
import FramedShell.Text.Utf8

/-!
# Settings from the environment

Four variables give the measures of the picture and a fifth one the program to run. A variable that
should hold a number and does not is reported and changes nothing; an empty program is no program.

The system keeps bytes. What is read of a variable is the text that its bytes encode, and a variable
whose bytes encode none is read as if it were not set, so it is not reported either.

## Main definitions

* `Environment` — the variables that are set, and `Environment.texts` — what is read of them;
* `Environment.number?` — the number in a variable;
* `Config.withVariables` — the configuration with what the variables say.
-/

namespace FramedShell

/-- **The environment**: the bytes of each variable that is set, whether or not they encode a text. -/
abbrev Environment := String → Option (List UInt8)

/-- **The variables that are read**: the text of each of them. -/
abbrev Variables := String → Option String

namespace Environment

/-- **What is read of an environment.** Of a variable that is not a text, nothing is. -/
def texts (env : Environment) : Variables := fun name =>
  (env name).bind fun bytes => (Text.Utf8.text? bytes).map String.ofList

/-- The number that decimal digits write. -/
def decimal (digits : List Char) : Nat := digits.foldl (fun n c => n * 10 + (c.toNat - 0x30)) 0

/-- The digits of a number, without the plus that may stand before them. -/
def unsigned : List Char → List Char
  | '+' :: rest => rest
  | text => text

/-- **The number that a text holds**: decimal digits, with an optional plus before them and white space
around, that write a coordinate. -/
def number? (text : List Char) : Option Coord :=
  let digits := unsigned (Text.trim text)
  if digits ≠ [] ∧ digits.all Char.isDigit then Coord.ofNat? (decimal digits) else none

end Environment

/-- The number in a variable, or `default` if it is not set or holds no number; the latter is reported. -/
def Variables.coord (vars : Variables) (name : String) (default : Coord) : Coord × List Notice :=
  match vars name with
  | none => (default, [])
  | some text =>
    match Environment.number? text.toList with
    | some n => (n, [])
    | none => (default, [.variableRejected name text])

namespace Config

/-- The measures with what the variables say. -/
def measuresIn (vars : Variables) (m : Measures) : Measures × List Notice :=
  let (bannerHeight, n₁) := vars.coord "TOP_HEIGHT" m.bannerHeight
  let (frameHeight, n₂) := vars.coord "MID_HEIGHT" m.frameHeight
  let (insetLeft, n₃) := vars.coord "INSET_LEFT" m.insetLeft
  let (insetRight, n₄) := vars.coord "INSET_RIGHT" m.insetRight
  (⟨bannerHeight, frameHeight, insetLeft, insetRight⟩, n₁ ++ n₂ ++ n₃ ++ n₄)

/-- The program to run with what the variables say. -/
def shellIn (vars : Variables) (shell : Option String) : Option String :=
  match vars "SHELL_CMD" with
  | some s => if s = "" then shell else some s
  | none => shell

/-- **The configuration with what the variables say.** -/
def withVariables (vars : Variables) (c : Config) : Config × List Notice :=
  let (measures, notices) := measuresIn vars c.measures
  ({ c with measures := measures, shell := shellIn vars c.shell }, notices)

end Config

end FramedShell
