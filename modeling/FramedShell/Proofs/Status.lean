import FramedShell.Proofs.Run

/-!
# The exit status is seen once

The master is not asked for the exit status again once it has given one. The statuses in the record
are therefore the one that the session remembers, or none (`Outset.remembers_run`).
-/

namespace FramedShell

/-- The exit status in an exchange. -/
def Exchange.status? : Exchange → Option ChildExit
  | .tryWait answer => Session.statusOf answer
  | .resize _ _ => none
  | .waitReadable _ _ => none
  | .read _ => none
  | .write _ _ => none

namespace Session

variable {π : Type} (s : Session (Recorded π))

/-- The exit statuses that the master has given, oldest first. -/
def statuses (s : Session (Recorded π)) : List ChildExit := s.picked Exchange.status?

/-- **The session remembers what the record holds.** -/
def Remembers (s : Session (Recorded π)) : Prop := s.statuses = s.exit.toList

/-- The session after an exchange of another kind. -/
theorem Remembers.of_same {s s' : Session (Recorded π)} (h : s.Remembers)
    (hstatuses : s'.statuses = s.statuses) (hexit : s'.exit = s.exit) : s'.Remembers := by
  unfold Remembers
  rw [hstatuses, hexit]
  exact h

variable [Master π]

theorem Remembers.setSize {s : Session (Recorded π)} (h : s.Remembers) (size : Size) :
    (s.setSize size).state.Remembers :=
  h.of_same (picked_of_append_other (exchanges_setSize s size) rfl) (exit_setSize s size)

theorem Remembers.read {s : Session (Recorded π)} (h : s.Remembers) : s.read.state.Remembers :=
  h.of_same (picked_of_append_other (exchanges_read s) rfl) (exit_read s)

/-- **Checking for the exit** remembers the status it is given. -/
theorem Remembers.pollExit {s : Session (Recorded π)} (h : s.Remembers) :
    s.pollExit.state.Remembers := by
  cases hexit : s.exit with
  | some exit =>
    -- the status is known, and no question is added to the record
    rw [pollExit_of_some s hexit]
    exact h
  | none =>
    -- the record holds no status yet, and gets the one that is remembered
    unfold Remembers statuses at h ⊢
    rw [picked_of_append (exchanges_pollExit_of_none s hexit), h, hexit, exit_pollExit]
    rfl

end Session

variable {δ ε κ π : Type} [OutputDecoder ε] [KeySource κ] [Master π]

/-- A status that was seen stays. -/
theorem Live.Effect.exit {live live' : Live δ ε κ π} (he : Live.Effect live live') {c : ChildExit}
    (h : live.session.exit = some c) : live'.session.exit = some c := by
  cases he with
  | relayed size =>
    -- of the session nothing is asked but a window size, if anything
    obtain hs | ⟨window, hs⟩ := Live.session_relayed size live <;> rw [hs]
    · exact h
    · exact (Session.exit_setSize _ _).trans h
  | typed key => exact (Session.exit_write _ _).trans h
  | flushed => exact (Session.exit_flushPending _).trans h
  | watched =>
    -- a check gives the same status again
    change live.session.pollExit.state.exit = some c
    rw [Session.pollExit_of_some _ h]
    exact h
  | _ => exact h

/-- Every effect keeps it. -/
theorem Live.Effect.remembers {live live' : Live δ ε κ (Recorded π)} (he : Live.Effect live live')
    (h : live.session.Remembers) : live'.session.Remembers := by
  cases he with
  | noted => exact h
  | displayed => exact h
  | relayed size =>
    obtain hs | ⟨window, hs⟩ := Live.session_relayed size live <;> rw [hs]
    · exact h
    · exact h.setSize window
  | idled => exact h
  | typed key =>
    exact h.of_same (Session.picked_write _ (fun _ _ => rfl) _) (Session.exit_write _ _)
  | flushed =>
    exact h.of_same (Session.picked_flushPending _ fun _ _ => rfl) (Session.exit_flushPending _)
  | awaited ms =>
    exact h.of_same (Session.picked_of_append_other (Session.exchanges_waitReadable _ ms) rfl)
      (Session.exit_waitReadable _ ms)
  | unheard => exact h.read
  | heard => exact h.read
  | watched => exact h.pollExit

namespace Outset

theorem remembers_invariant (o : Outset δ ε κ π) :
    o.Invariant fun live => live.session.Remembers where
  opened display size master notices := by
    -- the new session has no status and an empty record; the first window adds none
    have hnew : (Session.mk ⟨master, []⟩ (Loop.firstWindow o.measures size) none []
        : Session (Recorded π)).Remembers := rfl
    exact Live.Effect.remembers (.relayed (o.firstParts display size master notices) size)
      (hnew.setSize _)
  effect _ _ he h := he.remembers h
  world _ _ _ _ _ h := h

/-- **The record holds the status that the session remembers**, and no other. -/
theorem remembers_run [Display δ] (o : Outset δ ε κ π) (turns : List (Turn δ κ π)) :
    (o.run turns).Holds fun live => live.session.Remembers :=
  o.remembers_invariant.holds turns

end Outset

end FramedShell
