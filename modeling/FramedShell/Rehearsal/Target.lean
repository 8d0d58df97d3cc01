import FramedShell.Session

/-!
# A window that can refuse its size

A target that notes every size it is offered, and refuses them while it is told to.
-/

namespace FramedShell.Rehearsal

/-- **A target of size changes.** -/
structure Target where
  /-- The sizes it was offered, refused ones included. -/
  offered : List Size := []
  refuses : Bool := false
deriving Inhabited

instance : WindowTarget Target where
  setSize size t :=
    ⟨if t.refuses then .error (.resizeFailed "refused") else .ok (),
      { t with offered := t.offered ++ [size] }, []⟩

end FramedShell.Rehearsal
