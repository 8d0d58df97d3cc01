import FramedShell.Launch
import FramedShell.Rehearsal.Keys
import FramedShell.Rehearsal.Loop

/-!
# Rehearsing a whole run

The program runs from its start to its end on a terminal whose user types and changes its size, with a
scripted child. What the terminal shows is found by reading everything that was written to it.

## Main definitions

* `Run` — a passage on a terminal;
* `Run.opening`, `Run.closing` — up to the first picture, and from the last one on;
* `screen`, `titleOf`, `beforeRestoration?` — what can be seen of what was written.
-/

namespace FramedShell.Rehearsal

open Terminal (Surface Instruction)

/-- **A run**: a passage on a terminal with a user who types. -/
abbrev Run := Passage Surface Engine Typing

namespace Run

/-- How often the loop goes on between two cues. -/
def pause : Nat := 2

/-- The terminal of a run. -/
def surface (r : Run) : Surface := r.loop.stage.display

/-- **Begin a run**, up to the first picture. -/
def opening (config : Config) (shell : String) (window : Size) : Run :=
  let p : Run := { loop := Launch.loop config shell window {} }
  p.after (p.loop.start (Child.start (Launch.command shell)))

/-- The user types bytes, and the loop takes all of them. -/
def type (bytes : List UInt8) (r : Run) : Run :=
  let r := (r.cue Child.forget).onStage fun s => { s with keys := s.keys.type bytes }
  r.takeKeys (fun t => t.events.isEmpty) r.loop.stage.keys.events.length

/-- The terminal changes its size, and the loop goes on. -/
def resize (size : Size) (r : Run) : Run :=
  (r.onStage fun s => { s with display := { s.display with window := size } }).steps pause

/-- **How the program ends**: the terminal is restored, and the run's reason to end gives the answer. A
run that failed, or did not end, has no reason. -/
def closing (r : Run) : Surface × Reply :=
  (r.surface.close,
    match r.fault, r.loop.state.termination? with
    | some f, _ => ⟨1, CommandLine.complaint f.message⟩
    | none, some t => Launch.reply t
    | none, none => ⟨1, CommandLine.complaint "Run loop stopped without a termination reason"⟩)

end Run

/-- The bytes of what was written. -/
def bytesOf (instructions : List Instruction) : List UInt8 :=
  (Instruction.encodeAll instructions).flatMap Text.Utf8.encode

/-- **What a terminal shows** after everything that was written to it. -/
def screen (size : Size) (instructions : List Instruction) : Emulator :=
  (Emulator.new size).feed (bytesOf instructions)

/-- The last title that was set. -/
def titleOf (instructions : List Instruction) : Option (List Char) :=
  instructions.reverse.findSome? fun i =>
    match i with
    | .title t => some t
    | _ => none

/-- What was written before the terminal was restored, if that was the last thing. -/
def beforeRestoration? (instructions : List Instruction) : Option (List Instruction) :=
  let n := instructions.length - Surface.restoration.length
  if instructions.drop n = Surface.restoration then some (instructions.take n) else none

end FramedShell.Rehearsal
