import FramedShell.Rehearsal.Child
import FramedShell.Session

/-!
# Rehearsing a session

A session with a scripted child, and the two exchanges that take more than one operation: a child that
takes in a long input bit by bit, and a session that reads everything its child has written.
-/

namespace FramedShell.Rehearsal

/-- Let the child of a session do something. -/
def cue (f : Child → Child) (s : Session Child) : Session Child := { s with master := f s.master }

/-- **The child takes in its input**: it reads what waits for it, and the session offers the rest, at
most so many times. -/
def takeIn : Nat → Session Child → Session Child
  | 0, s => cue Child.listen s
  | n + 1, s =>
    if s.pending = [] then cue Child.listen s else takeIn n (cue Child.listen s).flushPending.state

/-- **The session reads** until nothing comes, at most so many times. -/
def readAll : Nat → Session Child → List UInt8 × Session Child
  | 0, s => ([], s)
  | n + 1, s =>
    match s.read with
    | ⟨.ok (.data bytes), s', _⟩ =>
      match readAll n s' with
      | (more, s'') => (bytes ++ more, s'')
    | ⟨_, s', _⟩ => ([], s')

end FramedShell.Rehearsal
