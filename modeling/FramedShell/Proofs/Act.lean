import FramedShell.Loop

/-!
# Running actions, and their contracts

An action of the loop runs on the parts of a run and may fail on the way; what was done before it
failed stays done. A *contract* (`Live.Meets`) therefore has two ends: what holds of the result and
the parts when the action goes through, and what holds of the fault and the parts when it fails.

## Main definitions

* `Live.final` — the parts after an action, on either way out;
* `Live.Meets` — contracts, composed along the actions by `meets_bind`;
* `Live.OffStage` — actions that cannot fail and leave the stage alone.
-/

namespace FramedShell.Live

variable {δ ε κ π : Type}

/-! ### Running an action -/

/-- The parts of a run after an action, whether or not it failed. -/
def final {α : Type} : EStateM.Result LoopFault (Live δ ε κ π) α → Live δ ε κ π
  | .ok _ live => live
  | .error _ live => live

/-- The parts with another session. -/
def withSession (live : Live δ ε κ π) (session : Session π) : Live δ ε κ π :=
  { live with session := session }

section

variable {α β : Type} {a : Act δ ε κ π α} {f : α → Act δ ε κ π β} {live live' : Live δ ε κ π}

/-- An action that goes through is followed by what comes next. -/
theorem bind_ok {x : α} (h : a live = .ok x live') : (a >>= f) live = f x live' := by
  change EStateM.bind a f live = _
  simp only [EStateM.bind, h]

/-- Nothing follows an action that fails. -/
theorem bind_error {e : LoopFault} (h : a live = .error e live') :
    (a >>= f) live = .error e live' := by
  change EStateM.bind a f live = _
  simp only [EStateM.bind, h]

@[simp] theorem get_bind (f : Live δ ε κ π → Act δ ε κ π β) (live : Live δ ε κ π) :
    (MonadState.get >>= f) live = f live live := rfl

@[simp] theorem onSession_bind (f : Session π → Noticed (Session π) α) (k : α → Act δ ε κ π β)
    (live : Live δ ε κ π) :
    (onSession f >>= k) live = k (f live.session).result
      { live with
        session := (f live.session).state
        notices := live.notices ++ (f live.session).notices } := rfl

end

/-! ### Contracts -/

/-- **A contract.** Begun on parts with `P`, the action ends with `Q` of its result and of the parts
after it, or with `E` of the fault and of the parts that it leaves behind. -/
def Meets {α : Type} (P : Live δ ε κ π → Prop) (a : Act δ ε κ π α)
    (Q : α → Live δ ε κ π → Prop) (E : LoopFault → Live δ ε κ π → Prop) : Prop :=
  ∀ live, P live →
    match a live with
    | .ok x live' => Q x live'
    | .error e live' => E e live'

section

variable {α β : Type} {P P' : Live δ ε κ π → Prop} {Q : α → Live δ ε κ π → Prop}
variable {R : β → Live δ ε κ π → Prop} {E : LoopFault → Live δ ε κ π → Prop}

theorem meets_pure {x : α} (h : ∀ live, P live → Q x live) :
    Meets P (pure x : Act δ ε κ π α) Q E :=
  fun live hP => h live hP

/-- **Contracts compose.** What the first action ends with is what the second one begins with. -/
theorem meets_bind {a : Act δ ε κ π α} {f : α → Act δ ε κ π β} (ha : Meets P a Q E)
    (hf : ∀ x, Meets (Q x) (f x) R E) : Meets P (a >>= f) R E := by
  intro live hP
  have h := ha live hP
  -- what follows begins where the first action has gone through, and never after its failure
  cases hr : a live with
  | ok x live' =>
    rw [hr] at h
    rw [bind_ok hr]
    exact hf x live' h
  | error e live' =>
    rw [hr] at h
    rw [bind_error hr]
    exact h

/-- Reading the parts: the rest of the action may refer to them. -/
theorem meets_get_bind {f : Live δ ε κ π → Act δ ε κ π β}
    (h : ∀ live, P live → Meets (fun l => l = live) (f live) R E) :
    Meets P (MonadState.get >>= f) R E :=
  fun live hP => h live hP live rfl

theorem meets_onSession {f : Session π → Noticed (Session π) α}
    (h : ∀ live notices, P live →
      Q (f live.session).result
        { live with session := (f live.session).state, notices := notices }) :
    Meets P (onSession f) Q E :=
  fun live hP => h live _ hP

theorem meets_note {n : Notice} {Q : Unit → Live δ ε κ π → Prop}
    (h : ∀ live notices, P live → Q () { live with notices := notices }) :
    Meets P (note n) Q E :=
  fun live hP => h live _ hP

/-- A contract may leave open what a failure leaves behind. -/
theorem Meets.regardless {a : Act δ ε κ π α} (h : Meets P a Q E) :
    Meets P a Q (fun _ _ => True) := by
  intro live hP
  have hlive := h live hP
  cases hr : a live with
  | ok x live' =>
    rw [hr] at hlive
    exact hlive
  | error e live' => trivial

/-- A contract holds where the action begins with more. -/
theorem Meets.restrict {a : Act δ ε κ π α} (h : Meets P a Q E)
    (hP : ∀ live, P' live → P live) : Meets P' a Q E :=
  fun live hl => h live (hP live hl)

end

/-! ### Actions off the stage -/

/-- **An action off the stage**: it goes through, and has to do with the child and the log only. -/
def OffStage {α : Type} (a : Act δ ε κ π α) : Prop :=
  ∀ live, ∃ x session notices, a live = .ok x ⟨live.stage, session, notices⟩

section

variable {α β : Type}

theorem offStage_pure (x : α) : OffStage (pure x : Act δ ε κ π α) :=
  fun live => ⟨x, live.session, live.notices, rfl⟩

theorem offStage_get : OffStage (MonadState.get : Act δ ε κ π (Live δ ε κ π)) :=
  fun live => ⟨live, live.session, live.notices, rfl⟩

theorem offStage_onSession (f : Session π → Noticed (Session π) α) :
    OffStage (onSession f : Act δ ε κ π α) :=
  fun _ => ⟨_, _, _, rfl⟩

theorem offStage_note (n : Notice) : OffStage (note n : Act δ ε κ π Unit) :=
  fun _ => ⟨_, _, _, rfl⟩

theorem offStage_bind {a : Act δ ε κ π α} {f : α → Act δ ε κ π β} (ha : OffStage a)
    (hf : ∀ x, OffStage (f x)) : OffStage (a >>= f) := by
  intro live
  obtain ⟨x, session, notices, hx⟩ := ha live
  -- the first action goes through, so the second one begins on the same stage
  rw [bind_ok hx]
  exact hf x _

/-- What holds of the stage still holds after it. -/
theorem OffStage.meets {a : Act δ ε κ π α} (ha : OffStage a) (P : Stage δ ε κ → Prop)
    (E : LoopFault → Live δ ε κ π → Prop) :
    Meets (fun live => P live.stage) a (fun _ live => P live.stage) E := by
  intro live hP
  obtain ⟨x, session, notices, hx⟩ := ha live
  rw [hx]
  exact hP

end

end FramedShell.Live
