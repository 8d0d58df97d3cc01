import FramedShell.Proofs.Buffer
import Mathlib.Data.List.Induction

/-!
# The visibility of the cursor

A surface remembers whether it has shown or hidden the cursor, and says nothing that it believes to be
so already. What a terminal shows is decided by what was written last, and restoring the terminal
writes to it as well: it shows the cursor, and the surface does not remember that it did.

So the surface and the terminal part where the terminal is restored while the cursor is wanted hidden,
and they meet again when the cursor is asked for next (`Overruled`). In between, hiding the cursor is
suppressed although it is shown, and showing it at the end is said to a terminal that shows it.
Everywhere else the terminal is as it was last asked to be, and nothing is said twice.

## Main definitions

* `Surface.signals` — all that a surface has said about the visibility of the cursor;
* `Operation.wanted` — what the surface was last asked for;
* `Overruled` — the terminal was restored against what was asked for;
* `IsMirrored` — the invariant.

## Main results

* `mirrored_runAll` — the invariant holds after all calls;
* `visibility_mirrored` — where the terminal is as it was asked to be.
-/

namespace FramedShell.Terminal

/-! ### Signals -/

/-- **What an instruction says about the visibility of the cursor**, if anything. -/
def Instruction.signal : Instruction → List Bool
  | .showCursor => [true]
  | .hideCursor => [false]
  | _ => []

/-- **Whether the cursor is shown** after some signals, on a terminal that shows it at first. -/
def shownAfter (signals : List Bool) : Bool := signals.getLast?.getD true

@[simp] theorem shownAfter_append_singleton (signals : List Bool) (v : Bool) :
    shownAfter (signals ++ [v]) = v := by
  rw [shownAfter, List.getLast?_concat]
  rfl

/-- A terminal shows the cursor if the last signal says so. -/
theorem cursorShown_obeyAll (instructions : List Instruction) :
    (Condition.neutral.obeyAll instructions).cursorShown
      = shownAfter (instructions.flatMap Instruction.signal) := by
  -- the induction is from the end, as the last signal decides
  induction instructions using List.reverseRecOn with
  | nil => rfl
  | append_singleton rest i ih =>
    rw [Condition.obeyAll_append, List.flatMap_append, List.flatMap_singleton]
    cases i with
    | showCursor => exact (shownAfter_append_singleton _ true).symm
    | hideCursor => exact (shownAfter_append_singleton _ false).symm
    -- any other instruction leaves the cursor as it is, and signals nothing
    | _ => exact ih.trans (congrArg shownAfter (List.append_nil _).symm)

/-- The instructions of a row say nothing about the cursor. -/
theorem signal_row (size : Size) (start : Position) (cells : List Cell) :
    (Surface.row size start cells).flatMap Instruction.signal = [] := by
  have hstyle : ∀ style, ∀ i ∈ Instruction.setStyle style, i.signal = [] :=
    Instruction.forall_mem_setStyle rfl rfl rfl rfl rfl (fun _ => rfl) fun _ => rfl
  rw [List.flatMap_eq_nil_iff]
  -- neither a style, a text, a place nor a reset signals anything
  exact Surface.forall_mem_row hstyle (fun _ _ _ => rfl) rfl rfl size

namespace Surface

/-- **All that was said about the visibility of the cursor**, to the buffer or past it. -/
def signals (s : Surface) : List Bool := s.output.flatMap Instruction.signal

/-- **Some signals are given**, and nothing else is remembered. -/
structure Signals (s : Surface) (more : List Bool) (s' : Surface) : Prop where
  prepared : s'.prepared = s.prepared
  cursorShown : s'.cursorShown = s.cursorShown
  signals : s'.signals = s.signals ++ more

theorem Signals.trans {s s' s'' : Surface} {first rest : List Bool} (h : s.Signals first s')
    (h' : s'.Signals rest s'') : s.Signals (first ++ rest) s'' :=
  ⟨h'.prepared.trans h.prepared, h'.cursorShown.trans h.cursorShown, by
    rw [h'.signals, h.signals, List.append_assoc]⟩

variable (s : Surface)

theorem signals_refl : s.Signals [] s := ⟨rfl, rfl, (List.append_nil _).symm⟩

theorem signals_flush : s.Signals [] s.flush :=
  ⟨rfl, rfl, by rw [signals, output_flush, List.append_nil]; rfl⟩

/-- What says something about the cursor is short. -/
theorem signal_of_large {i : Instruction} (h : i.size ≥ capacity) : i.signal = [] := by
  cases i with
  -- these two have few bytes, and the buffer holds more
  | showCursor => exact absurd h (by decide)
  | hideCursor => exact absurd h (by decide)
  | _ => rfl

theorem signals_hold (i : Instruction) : s.Signals i.signal (s.hold i) := by
  have htakes := s.takes_hold i
  refine ⟨htakes.prepared, htakes.cursorShown, ?_⟩
  unfold signals
  obtain houtput | ⟨hlarge, first, rest, hbefore, hafter, -⟩ := htakes.output
  · -- the instruction comes after all that was said before
    rw [houtput, List.flatMap_append, List.flatMap_singleton]
  · -- it is written past what waits, but says nothing
    rw [hbefore, hafter, List.flatMap_append, List.flatMap_append, List.flatMap_append,
      List.flatMap_singleton, signal_of_large hlarge, List.append_nil, List.append_nil]

theorem signals_holdAll (instructions : List Instruction) :
    s.Signals (instructions.flatMap Instruction.signal) (s.holdAll instructions) := by
  induction instructions generalizing s with
  | nil => exact s.signals_refl
  | cons i rest ih => exact (s.signals_hold i).trans (ih (s.hold i))

end Surface

/-! ### Calls -/

namespace Operation

/-- What the visibility of the cursor is to be after a call, if it was to be so before. -/
def wants (wanted : Bool) : Operation → Bool
  | draw (.setCursorVisible visible) => visible
  | _ => wanted

/-- **What was last asked for**: the cursor is to be shown at first. -/
def wanted (operations : List Operation) : Bool := operations.foldl wants true

/-- **The signals of a call**: restoring shows the cursor where there is something to restore, and
what the surface believes to be so is not said. -/
def signals (prepared shown : Bool) : Operation → List Bool
  | restore => if prepared then [true] else []
  | draw (.setCursorVisible visible) => if visible = shown then [] else [visible]
  | _ => []

theorem length_signals_le (o : Operation) (prepared shown : Bool) :
    (o.signals prepared shown).length ≤ 1 := by
  unfold signals
  split
  · -- restoring shows the cursor, if it does anything
    split <;> decide
  · -- asking for what is remembered says nothing
    split
    · exact Nat.zero_le 1
    · exact Nat.le_refl 1
  · exact Nat.zero_le 1

/-- **What a call does** to the signals and to what the surface remembers. -/
theorem signals_run (s : Surface) (o : Operation) :
    (o.run s).prepared = o.opens s.prepared ∧ (o.run s).cursorShown = o.wants s.cursorShown ∧
      (o.run s).signals = s.signals ++ o.signals s.prepared s.cursorShown := by
  -- most calls say nothing and keep what is remembered
  have hquiet : ∀ s', s.Signals [] s' → s'.prepared = s.prepared ∧ s'.cursorShown = s.cursorShown ∧
      s'.signals = s.signals ++ [] := fun _ h => ⟨h.prepared, h.cursorShown, h.signals⟩
  cases o with
  | prepare =>
    -- what is written past the buffer says nothing about the cursor
    refine ⟨rfl, rfl, ?_⟩
    change (Surface.writeNow Surface.preparation s).signals = s.signals ++ []
    unfold Surface.signals Surface.output Surface.writeNow
    rw [Array.toList_appendList, List.append_nil, List.flatMap_append, List.flatMap_append,
      List.flatMap_append, show Surface.preparation.flatMap Instruction.signal = [] from rfl,
      List.append_nil]
  | restore =>
    change s.restore.prepared = false ∧ s.restore.cursorShown = s.cursorShown ∧
      s.restore.signals = s.signals ++ if s.prepared then [true] else []
    unfold Surface.restore
    split
    · -- what waits is written first, and the restoration ends with showing the cursor
      refine ⟨rfl, rfl, ?_⟩
      unfold Surface.signals Surface.output Surface.writeNow Surface.flush
      dsimp only
      rw [Array.toList_appendList, Array.toList_append, List.append_nil, List.flatMap_append]
      rfl
    · -- the terminal was not prepared, and it is not written to
      next hshut => exact ⟨eq_false_of_ne_true hshut, rfl, (List.append_nil _).symm⟩
  | askSize => exact hquiet _ ⟨rfl, rfl, (List.append_nil _).symm⟩
  | resize window => exact hquiet _ ⟨rfl, rfl, (List.append_nil _).symm⟩
  | setTitle title =>
    exact hquiet _ ((s.signals_hold (.title title)).trans (Surface.signals_flush _))
  | draw stroke =>
    cases stroke with
    | putCells start cells =>
      have h := s.signals_holdAll (Surface.row s.seen start cells)
      rw [signal_row] at h
      exact hquiet _ h
    | setCursor place =>
      refine hquiet _ ?_
      change s.Signals [] (s.draw (.setCursor place)).2
      unfold Surface.draw
      dsimp only
      -- whether or not the place is gone to, nothing is said about the cursor
      split
      · exact s.signals_hold (.moveTo place)
      · exact s.signals_refl
    | setCursorVisible visible =>
      change (s.setCursorVisible visible).prepared = _ ∧ (s.setCursorVisible visible).cursorShown = _ ∧
        (s.setCursorVisible visible).signals = s.signals ++ if _ then _ else _
      unfold Surface.setCursorVisible
      split
      -- what is remembered already is not said
      · next hsame => exact ⟨rfl, hsame.symm, (List.append_nil _).symm⟩
      · -- what is new is said and remembered
        have h := ({ s with cursorShown := visible } : Surface).signals_hold
          (if visible then .showCursor else .hideCursor)
        refine ⟨h.prepared, h.cursorShown, h.signals.trans ?_⟩
        cases visible <;> rfl
    | clear => exact hquiet _ (s.signals_holdAll [.resetStyle, .resetStyle, .clearScreen])
    | flush => exact hquiet _ s.signals_flush
    | beyond => exact hquiet _ s.signals_refl

end Operation

/-! ### The invariant -/

open Operation (wanted isOpen runAll)

/-- **The terminal was restored against what was asked for**: there was something to restore, the
cursor was to be hidden, and it was not asked to be shown since. -/
def Overruled (operations : List Operation) : Prop :=
  ∃ before after, operations = before ++ .restore :: after ∧ isOpen before = true ∧
    wanted before = false ∧ .draw (.setCursorVisible true) ∉ after

/-- **The invariant**: the surface remembers what was asked for, and the terminal shows the cursor
where that was asked for or overruled. -/
structure IsMirrored (operations : List Operation) (s : Surface) : Prop where
  prepared : s.prepared = isOpen operations
  cursorShown : s.cursorShown = wanted operations
  shown : shownAfter s.signals = true ↔ wanted operations = true ∨ Overruled operations

section

variable {operations : List Operation} {o : Operation} {s : Surface}

@[simp] theorem Operation.wanted_append_singleton :
    wanted (operations ++ [o]) = o.wants (wanted operations) := by
  rw [wanted, List.foldl_append]
  rfl

@[simp] theorem Operation.isOpen_append_singleton :
    isOpen (operations ++ [o]) = o.opens (isOpen operations) := by
  rw [isOpen, List.foldl_append]
  rfl

theorem overruled_append_singleton :
    Overruled (operations ++ [o]) ↔
      (o = .restore ∧ isOpen operations = true ∧ wanted operations = false) ∨
        (Overruled operations ∧ o ≠ .draw (.setCursorVisible true)) := by
  constructor
  · rintro ⟨before, after, heq, hopen, hwanted, hafter⟩
    -- the restoration is the last call itself, or the calls after it end with the last one
    obtain rfl | ⟨rest, last, rfl⟩ := List.eq_nil_or_concat after
    · obtain ⟨rfl, hlast⟩ := List.append_inj' heq rfl
      exact .inl ⟨(List.cons.inj hlast).1, hopen, hwanted⟩
    · rw [List.concat_eq_append] at heq hafter
      rw [← List.cons_append, ← List.append_assoc] at heq
      obtain ⟨rfl, hlast⟩ := List.append_inj' heq rfl
      obtain rfl := (List.cons.inj hlast).1
      rw [List.mem_append, List.mem_singleton, not_or] at hafter
      exact .inr ⟨⟨before, rest, rfl, hopen, hwanted, hafter.1⟩, Ne.symm hafter.2⟩
  · -- conversely, the last call overrules by itself, or it lets stand what was overruled before
    rintro (⟨rfl, hopen, hwanted⟩ | ⟨⟨before, after, rfl, hopen, hwanted, hafter⟩, hlast⟩)
    · exact ⟨operations, [], rfl, hopen, hwanted, List.not_mem_nil⟩
    · refine ⟨before, after ++ [o], by rw [List.append_assoc, List.cons_append], hopen, hwanted, ?_⟩
      rw [List.mem_append, List.mem_singleton, not_or]
      exact ⟨hafter, Ne.symm hlast⟩

/-- What is overruled is that the cursor is to be hidden. -/
theorem Overruled.wanted_eq (h : Overruled operations) : wanted operations = false := by
  -- from the end: the last call has overruled what was asked for, or has asked for nothing else
  induction operations using List.reverseRecOn with
  | nil =>
    obtain ⟨before, after, heq, -⟩ := h
    exact absurd heq (by simp)
  | append_singleton rest o ih =>
    rw [Operation.wanted_append_singleton]
    obtain ⟨rfl, -, hwanted⟩ | ⟨h, hlast⟩ := overruled_append_singleton.1 h
    · exact hwanted
    · have hrest := ih h
      unfold Operation.wants
      split
      -- had the last call asked for the cursor to be shown, nothing would be overruled
      · next visible =>
        cases visible with
        | false => rfl
        | true => exact absurd rfl hlast
      · exact hrest

/-- **The invariant is kept by every call.** -/
theorem IsMirrored.run (h : IsMirrored operations s) : IsMirrored (operations ++ [o]) (o.run s) := by
  obtain ⟨hprepared, hcursor, hsignals⟩ := o.signals_run s
  rw [h.prepared] at hprepared
  rw [h.cursorShown] at hcursor
  rw [h.prepared, h.cursorShown] at hsignals
  refine ⟨by rw [hprepared, Operation.isOpen_append_singleton],
    by rw [hcursor, Operation.wanted_append_singleton], ?_⟩
  rw [hsignals, overruled_append_singleton, Operation.wanted_append_singleton]
  -- where nothing is said and nothing is asked for, nothing changes
  have hquiet : o ≠ .restore → o ≠ .draw (.setCursorVisible true) →
      (shownAfter (s.signals ++ []) = true ↔ wanted operations = true ∨
        (o = .restore ∧ isOpen operations = true ∧ wanted operations = false ∨
          Overruled operations ∧ o ≠ .draw (.setCursorVisible true))) := by
    intro hrestore hshow
    rw [List.append_nil, h.shown]
    simp only [hrestore, hshow, false_and, false_or, ne_eq, not_false_eq_true, and_true]
  cases o with
  | restore =>
    change shownAfter (s.signals ++ if isOpen operations = true then [true] else []) = true ↔
      wanted operations = true ∨ _
    split
    -- the cursor is shown, and this was either asked for or is overruled now
    · next hopen =>
      rw [shownAfter_append_singleton]
      refine iff_of_true rfl ?_
      cases hwanted : wanted operations with
      | true => exact .inl rfl
      | false => exact .inr (.inl ⟨rfl, hopen, rfl⟩)
    -- there was nothing to restore, and nothing has changed
    · next hshut =>
      rw [List.append_nil, h.shown]
      simp only [hshut, false_and, and_false, false_or, ne_eq, reduceCtorEq, not_false_eq_true,
        and_true]
  | draw stroke =>
    cases stroke with
    | setCursorVisible visible =>
      change shownAfter (s.signals ++ if visible = wanted operations then [] else [visible]) = true ↔
        visible = true ∨ _
      cases visible with
      | true =>
        refine iff_of_true ?_ (.inl rfl)
        -- shown already as far as is remembered, or shown now: the terminal shows it either way
        split
        · next hsame =>
          rw [List.append_nil]
          exact h.shown.2 (.inl hsame.symm)
        · exact shownAfter_append_singleton _ true
      | false =>
        simp only [Bool.false_eq_true, reduceCtorEq, false_and, false_or, ne_eq, Operation.draw.injEq,
          Stroke.setCursorVisible.injEq, not_false_eq_true, and_true]
        split
        -- it was to be hidden before, so that only an overruling shows it
        · next hsame =>
          rw [List.append_nil, h.shown, ← hsame]
          simp only [Bool.false_eq_true, false_or]
        · next hother =>
          -- the cursor was to be shown, so nothing is overruled
          rw [shownAfter_append_singleton]
          exact iff_of_false nofun fun hoverruled => hother hoverruled.wanted_eq.symm
    | _ => exact hquiet nofun nofun
  | _ => exact hquiet nofun nofun

/-- **What is so already is said** where it was overruled that the cursor be hidden, and nowhere else. -/
theorem IsMirrored.shownAfter_mem_signals_iff (h : IsMirrored operations s) (hrestore : o ≠ .restore) :
    shownAfter s.signals ∈ o.signals (isOpen operations) (wanted operations) ↔
      o = .draw (.setCursorVisible true) ∧ Overruled operations := by
  cases o with
  | restore => exact absurd rfl hrestore
  | draw stroke =>
    cases stroke with
    | setCursorVisible visible =>
      change _ ∈ (if visible = wanted operations then [] else [visible]) ↔ _
      rw [List.mem_ite_nil_left, List.mem_singleton]
      -- a signal is sent if it differs from what was asked for before, and the terminal may have it already
      cases visible with
      | true =>
        rw [h.shown, eq_self, true_and]
        refine ⟨fun ⟨hwanted, hshown⟩ => hshown.resolve_left (Ne.symm hwanted), fun hoverruled => ?_⟩
        exact ⟨by rw [hoverruled.wanted_eq]; decide, .inr hoverruled⟩
      | false =>
        -- the cursor was to be shown, so the terminal shows it, and hiding it is news
        refine iff_of_false (fun ⟨hwanted, hhidden⟩ => ?_) nofun
        have hshown := h.shown.2 (.inl (Bool.ne_false_iff.1 (Ne.symm hwanted)))
        exact Bool.false_ne_true (hhidden.symm.trans hshown)
    | _ => exact iff_of_false List.not_mem_nil nofun
  | _ => exact iff_of_false List.not_mem_nil nofun

theorem mirrored_runAll (window : Size) (operations : List Operation) :
    IsMirrored operations (runAll { window := window } operations) := by
  -- a surface that nothing was done with remembers what a terminal shows at first
  induction operations using List.reverseRecOn with
  | nil => exact ⟨rfl, rfl, iff_of_true rfl (.inl rfl)⟩
  | append_singleton rest o ih =>
    unfold runAll at ih ⊢
    rw [List.foldl_append]
    exact ih.run

end

/-! ### What the terminal shows -/

/-- What was written and flushed is all that was said. -/
theorem cursorShown_condition_flush (s : Surface) :
    s.flush.condition.cursorShown = shownAfter s.signals := by
  unfold Surface.condition
  rw [cursorShown_obeyAll]
  unfold Surface.flush Surface.signals Surface.output
  rw [Array.toList_append]

/-- **The terminal is as it was asked to be**, except where it was overruled. Whatever calls are made on
a surface: after the cursor is shown or hidden and the surface is flushed, the terminal has it so,
unless it is to be hidden and the terminal was restored while it was to be so. And a call that is no
restoration says at most one thing about the cursor, and nothing that is so already, unless the cursor
is to be shown once this was overruled. -/
theorem visibility_mirrored (window : Size) (operations : List Operation) :
    (∀ v, (runAll { window := window }
        (operations ++ [.draw (.setCursorVisible v), .draw .flush])).condition.cursorShown = v ↔
      ¬ (v = false ∧ Overruled operations)) ∧
    ∀ o : Operation, o = .restore ∨
      ∃ said : List Bool, said.length ≤ 1 ∧
        (runAll { window := window } (operations ++ [o])).signals
          = (runAll { window := window } operations).signals ++ said ∧
        (shownAfter (runAll { window := window } operations).signals ∈ said ↔
          o = .draw (.setCursorVisible true) ∧ Overruled operations) := by
  have hmirrored := mirrored_runAll window operations
  have hrun : ∀ o, runAll { window := window } (operations ++ [o])
      = o.run (runAll { window := window } operations) := fun _ => List.foldl_append
  constructor
  · intro v
    have hasked := (mirrored_runAll window (operations ++ [.draw (.setCursorVisible v)])).shown
    have hflush : runAll { window := window }
        (operations ++ [.draw (.setCursorVisible v), .draw .flush])
        = (runAll { window := window } (operations ++ [.draw (.setCursorVisible v)])).flush := by
      rw [← List.singleton_append, ← List.append_assoc]
      exact List.foldl_append
    rw [hflush, cursorShown_condition_flush]
    rw [overruled_append_singleton, Operation.wanted_append_singleton] at hasked
    cases v with
    | true => exact iff_of_true (hasked.2 (.inl rfl)) nofun
    | false =>
      simp only [Operation.wants, Bool.false_eq_true, reduceCtorEq, false_and, false_or, ne_eq,
        Operation.draw.injEq, Stroke.setCursorVisible.injEq, not_false_eq_true, and_true] at hasked
      rw [← Bool.not_eq_true, hasked, eq_self, true_and]
  · intro o
    by_cases hrestore : o = .restore
    · exact .inl hrestore
    obtain ⟨-, -, hsignals⟩ := o.signals_run (runAll { window := window } operations)
    rw [hmirrored.prepared, hmirrored.cursorShown] at hsignals
    exact .inr ⟨_, o.length_signals_le _ _, by rw [hrun, hsignals],
      hmirrored.shownAfter_mem_signals_iff hrestore⟩

/-- A terminal that is restored while the cursor is hidden. -/
def restoredHidden : List Operation :=
  [.prepare, .draw (.setCursorVisible false), .draw .flush, .restore]

/-- **The terminal is not always as it was asked to be**: once it was restored, hiding the cursor
again is not said to it. -/
theorem visibility_mirrored_restored :
    ¬ ∀ (window : Size) (operations : List Operation) (v : Bool),
      (runAll { window := window }
        (operations ++ [.draw (.setCursorVisible v), .draw .flush])).condition.cursorShown = v := by
  intro h
  have hhidden := h ⟨3, 4⟩ restoredHidden false
  revert hhidden
  decide +kernel

end FramedShell.Terminal
