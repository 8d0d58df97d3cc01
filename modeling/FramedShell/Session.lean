import FramedShell.Notice

/-!
# The session with the child

A session owns the master side of the pseudo terminal and everything that has to be remembered about the
child: the window size it was told, its exit status once that has been seen, and the input it has not
taken yet. Nothing here waits for the child, except `Session.reap` for a bounded number of checks.

## Main definitions

* `Session` — a master with the size, the exit status and the pending input;
* `Session.setSize`, `Session.write`, `Session.flushPending`, `Session.pollExit`, `Session.reap` — the
  operations, each with what it reports;
* `WindowTarget` — whatever accepts changes of its window size.
-/

namespace FramedShell

/-- **Whatever accepts changes of its window size.** -/
class WindowTarget (τ : Type) where
  setSize : Size → τ → Noticed τ (Except PtyError Unit)

/-- **A session** with a child on the other side of a pseudo terminal. -/
structure Session (π : Type) where
  master : π
  /-- The window size last sent to the child. -/
  size : Size
  /-- The exit status, once it has been seen. -/
  exit : Option ChildExit := none
  /-- The input that the child has not taken yet. -/
  pending : List UInt8 := []
deriving Inhabited

namespace Session

variable {π : Type} [Master π]

/-- Send a change of the window size to the child. If it is refused the session keeps its size. -/
def setSize (size : Size) (s : Session π) : Noticed (Session π) (Except PtyError Unit) :=
  match Master.resize size s.master with
  | (.ok (), m) =>
    ⟨.ok (), { s with master := m, size := size },
      if s.size = size then [] else [.sessionResized s.size size]⟩
  | (.error e, m) => ⟨.error e, { s with master := m }, []⟩

instance : WindowTarget (Session π) where
  setSize := setSize

/-- Wait for output for some milliseconds. -/
def waitReadable (milliseconds : Nat) (s : Session π) : Noticed (Session π) (Except PtyError Bool) :=
  match Master.waitReadable milliseconds s.master with
  | (r, m) => ⟨r, { s with master := m }, []⟩

/-- Read what the child has written. -/
def read (s : Session π) : Noticed (Session π) (Except PtyError ReadOutcome) :=
  match Master.read s.master with
  | (r, m) => ⟨r, { s with master := m }, []⟩

/-- **Offer the pending input** to the child until it is taken or the child takes no more. An error
discards what is pending. -/
def flushPending (s : Session π) : Noticed (Session π) (Except PtyError Unit) :=
  if s.pending = [] then ⟨.ok (), s, []⟩
  else
    match Master.write s.pending s.master with
    | (.error e, m) => ⟨.error e, { s with master := m, pending := [] }, []⟩
    | (.ok 0, m) => ⟨.ok (), { s with master := m }, [.writeWouldBlock s.pending.length]⟩
    | (.ok (taken + 1), m) =>
      flushPending { s with master := m, pending := s.pending.drop (taken + 1) }
termination_by s.pending.length
decreasing_by
  rename_i h
  have := List.length_pos_iff.2 h
  simp only [List.length_drop]
  omega

/-- **Send input** to the child, after what is still pending. -/
def write (bytes : List UInt8) (s : Session π) : Noticed (Session π) (Except PtyError Unit) :=
  if bytes = [] then ⟨.ok (), s, []⟩ else flushPending { s with pending := s.pending ++ bytes }

/-- **Check whether the child has ended.** Its status is remembered, and input that is still pending is
dropped when it is first seen. -/
def pollExit (s : Session π) : Noticed (Session π) (Except PtyError (Option ChildExit)) :=
  match s.exit with
  | some exit => ⟨.ok (some exit), s, []⟩
  | none =>
    match Master.tryWait s.master with
    | (.error e, m) => ⟨.error e, { s with master := m }, []⟩
    | (.ok none, m) => ⟨.ok none, { s with master := m }, []⟩
    | (.ok (some exit), m) =>
      ⟨.ok (some exit), { s with master := m, exit := some exit, pending := [] },
        if s.pending = [] then [] else [.inputDropped s.pending.length]⟩

/-- The milliseconds between two checks while waiting for the exit status. -/
def reapInterval : Nat := 5

/-- Check for the exit status once, and `more` times again as long as there is none. -/
def reapAttempts : Nat → Session π → Noticed (Session π) (Except PtyError (Option ChildExit))
  | 0, s => s.pollExit
  | more + 1, s =>
    match s.pollExit with
    | ⟨.ok none, s', notices⟩ =>
      let r := reapAttempts more s'
      { r with notices := notices ++ r.notices }
    | r => r

/-- **Wait for the exit status** for at most `grace` milliseconds. -/
def reap (grace : Nat) (s : Session π) : Noticed (Session π) (Except PtyError (Option ChildExit)) :=
  reapAttempts (grace / reapInterval) s

/-- The exit status in an answer. -/
def statusOf : Except PtyError (Option ChildExit) → Option ChildExit
  | .ok status => status
  | .error _ => none

/-! ### What the operations ask of the master -/

section

variable (s : Session π)

theorem result_setSize (size : Size) :
    (s.setSize size).result = (Master.resize size s.master).1 := by
  unfold setSize
  split <;> rename_i h <;> rw [h]

theorem master_setSize (size : Size) :
    (s.setSize size).state.master = (Master.resize size s.master).2 := by
  unfold setSize
  split <;> rename_i h <;> rw [h]

/-- A status that was seen is not asked for again. -/
theorem pollExit_of_some {exit : ChildExit} (h : s.exit = some exit) :
    s.pollExit = ⟨.ok (some exit), s, []⟩ := by
  unfold pollExit
  rw [h]

theorem result_pollExit_of_none (h : s.exit = none) :
    s.pollExit.result = (Master.tryWait s.master).1 := by
  unfold pollExit
  rw [h]
  dsimp only
  split <;> rename_i hw <;> rw [hw]

/-- Nothing stays pending once the status is seen. -/
theorem pending_pollExit_of_none (h : s.exit = none) :
    s.pollExit.state.pending = match s.pollExit.result with
      | .ok (some _) => []
      | .ok none => s.pending
      | .error _ => s.pending := by
  unfold pollExit
  rw [h]
  dsimp only
  split <;> rfl

/-- The session remembers what the check answers, and nothing after a failed one. -/
theorem exit_pollExit : s.pollExit.state.exit = statusOf s.pollExit.result := by
  cases h : s.exit with
  | some exit =>
    rw [pollExit_of_some s h]
    exact h
  | none =>
    unfold pollExit
    rw [h]
    dsimp only
    split <;> rfl

/-- So does waiting for the exit status. -/
theorem exit_reapAttempts (more : Nat) :
    (s.reapAttempts more).state.exit = statusOf (s.reapAttempts more).result := by
  induction more generalizing s with
  | zero => exact exit_pollExit s
  | succ more ih =>
    unfold reapAttempts
    split
    · exact ih _
    · exact exit_pollExit s

theorem master_pollExit_of_none (h : s.exit = none) :
    s.pollExit.state.master = (Master.tryWait s.master).2 := by
  unfold pollExit
  rw [h]
  dsimp only
  split <;> rename_i hw <;> rw [hw]

end

/-! ### What the operations leave alone -/

section

variable (s : Session π)

@[simp] theorem size_waitReadable (milliseconds : Nat) :
    (s.waitReadable milliseconds).state.size = s.size := rfl

@[simp] theorem exit_waitReadable (milliseconds : Nat) :
    (s.waitReadable milliseconds).state.exit = s.exit := rfl

@[simp] theorem pending_waitReadable (milliseconds : Nat) :
    (s.waitReadable milliseconds).state.pending = s.pending := rfl

@[simp] theorem size_read : s.read.state.size = s.size := rfl

@[simp] theorem exit_read : s.read.state.exit = s.exit := rfl

@[simp] theorem pending_read : s.read.state.pending = s.pending := rfl

@[simp] theorem size_flushPending : s.flushPending.state.size = s.size := by
  fun_induction flushPending s with
  | case4 _ _ _ _ _ ih => exact ih
  | _ => rfl

@[simp] theorem exit_flushPending : s.flushPending.state.exit = s.exit := by
  fun_induction flushPending s with
  | case4 _ _ _ _ _ ih => exact ih
  | _ => rfl

@[simp] theorem size_write (bytes : List UInt8) : (s.write bytes).state.size = s.size := by
  unfold write
  split
  · rfl
  · exact size_flushPending _

@[simp] theorem exit_write (bytes : List UInt8) : (s.write bytes).state.exit = s.exit := by
  unfold write
  split
  · rfl
  · exact exit_flushPending _

@[simp] theorem size_pollExit : s.pollExit.state.size = s.size := by
  unfold pollExit
  split
  · rfl
  · split <;> rfl

@[simp] theorem exit_setSize (size : Size) : (s.setSize size).state.exit = s.exit := by
  unfold setSize
  split <;> rfl

@[simp] theorem pending_setSize (size : Size) : (s.setSize size).state.pending = s.pending := by
  unfold setSize
  split <;> rfl

end

end Session

end FramedShell
