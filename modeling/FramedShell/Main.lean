import FramedShell.CommandLine

/-!
# The program

The program reads its arguments and answers them. A session needs a terminal whose modes and size can be
controlled; nothing here gives access to one, so a session ends where the display would be prepared.
-/

open FramedShell in
/-- **The program.** -/
def main (arguments : List String) : IO UInt32 := do
  let reply := (CommandLine.parse arguments).replyWithoutTerminal
  IO.eprint reply.errorOutput
  return reply.status.toUInt32
