import FramedShell.Pty

/-!
# A child that does what it is told

A rehearsal runs the program with a child that follows a script instead of a process on a pseudo
terminal. The child keeps what it was started with, what it has written and nobody has read, and what it
has received; it ends or closes its terminal on demand. Its terminal holds a limited amount of input that
the child has not read.

## Main definitions

* `Life` — whether the child lives, lives without its terminal, or has ended;
* `Child` — the child with both directions of its terminal, an instance of `Master`;
* `Child.spawn` — starting a program: the scripted child, or one of a few programs that are known.
-/

namespace FramedShell.Rehearsal

/-- **How far the life of a child has come.** -/
inductive Life where
  | alive
  /-- The child has closed its terminal and lives on. -/
  | detached
  | ended (exit : ChildExit)
deriving DecidableEq, Inhabited

/-- **A child that follows a script.** -/
structure Child where
  command : Command
  /-- The size of its window. -/
  window : Size
  /-- What the child has written and nobody has read. -/
  output : List UInt8 := []
  /-- What was sent to the child and it has not read. -/
  waiting : List UInt8 := []
  /-- What the child has read. -/
  received : List UInt8 := []
  life : Life := .alive
deriving Inhabited

namespace Child

/-- The most bytes that one read yields. -/
def readLimit : Nat := 8192

/-- The most bytes that wait for a child which does not read. -/
def inputCapacity : Nat := 65536

/-- The system's text for a write to a terminal that nobody holds open. -/
def writeFailure : String := "Input/output error (os error 5)"

instance : Master Child where
  resize size c := (.ok (), { c with window := size.atLeastOne })
  waitReadable _ c := (.ok (decide (c.output ≠ [] ∨ c.life ≠ .alive)), c)
  read c :=
    if c.output ≠ [] then
      (.ok (.data (c.output.take readLimit)), { c with output := c.output.drop readLimit })
    else if c.life = .alive then (.ok .empty, c)
    else (.ok .endOfStream, c)
  write bytes c :=
    if c.life = .alive then
      let taken := min bytes.length (inputCapacity - c.waiting.length)
      (.ok taken, { c with waiting := c.waiting ++ bytes.take taken })
    else (.error (.writeFailed writeFailure), c)
  tryWait c :=
    match c.life with
    | .ended exit => (.ok (some exit), c)
    | .alive | .detached => (.ok none, c)

/-- The child writes bytes. -/
def say (bytes : List UInt8) (c : Child) : Child := { c with output := c.output ++ bytes }

/-- The child reads all that waits for it. -/
def listen (c : Child) : Child := { c with waiting := [], received := c.received ++ c.waiting }

/-- The child forgets what it has read. -/
def forget (c : Child) : Child := { c with received := [] }

/-- The child ends with a code. -/
def exit (code : UInt32) (c : Child) : Child := { c with life := .ended ⟨code⟩ }

/-- The child dies of a signal, which is reported as the code one. -/
def die (c : Child) : Child := c.exit 1

/-- The child closes its terminal and lives on. -/
def detach (c : Child) : Child := { c with life := .detached }

end Child

/-! ### Programs -/

/-- What a shell command of one line writes and how it ends. -/
def shellCommand (words : List String) : List UInt8 × Option UInt32 :=
  match words with
  | ["exit"] => ([], some 0)
  | ["exit", n] => ([], some (UInt32.ofNat (n.toNat?.getD 2 % 256)))
  | ["printf", text] => (text.toUTF8.toList, none)
  | _ => ([], some 127)

/-- What a sequence of shell commands writes and the code it ends with. -/
def shellScript : List (List String) → List UInt8 × UInt32
  | [] => ([], 0)
  | words :: rest =>
    match shellCommand words with
    | (out, some code) => (out, code)
    | (out, none) => (out ++ (shellScript rest).1, (shellScript rest).2)

/-- The words of a line of shell commands. -/
def shellWords (line : String) : List (List String) :=
  (line.splitOn ";").map fun command => (command.splitOn " ").filter fun w => !w.isEmpty

/-- Whether a program is known not to be executable. -/
def isKnownFile (program : String) : Bool := program == "/etc/passwd" || program == "/dev/null"

/-- The text of a failure to start a program. -/
def spawnFailure (program cause : String) : PtyError :=
  .spawnFailed program
    ("Unable to spawn " ++ program ++
      " because it doesn't exist on the filesystem or is not executable (" ++ cause ++ ")")

/-- What a known program writes and the code it ends with. -/
def knownProgram? (c : Command) : Option (List UInt8 × UInt32) :=
  match c.program, c.args with
  | "/bin/true", _ => some ([], 0)
  | "/bin/false", _ => some ([], 1)
  | "/bin/sh", ["-c", line] => some (shellScript (shellWords line))
  | _, _ => none

namespace Child

/-- **Start a program** in a window of the given size. -/
def spawn (c : Command) (size : Size) : Except PtyError Child :=
  match knownProgram? c with
  | some (out, code) =>
    .ok { command := c, window := size.atLeastOne, output := out, life := .ended ⟨code⟩ }
  | none =>
    if isKnownFile c.program then .error (spawnFailure c.program "EACCES: Permission denied")
    else .error (spawnFailure c.program "ENOENT: No such file or directory")

/-- **Start the child that follows a script.** -/
def start (c : Command) (size : Size) : Except PtyError Child :=
  .ok { command := c, window := size.atLeastOne }

end Child

end FramedShell.Rehearsal
