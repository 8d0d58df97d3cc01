import FramedShell.Proofs.Restoration

/-!
# What goes through the buffer

A surface holds instructions in a buffer of limited capacity. An instruction for which there is no room
any more flushes the buffer first, and one that could never fit is written past it. Then it might
overtake what waits, but only what has no bytes: the buffer counts its bytes, and it is flushed as soon
as there are any.

## Main definitions

* `Surface.IsCounted` — the buffer counts its bytes;
* `Surface.Takes` — what holding an instruction does;
* `Surface.stream` — all bytes that a surface was made to write.

## Main results

* `takes_hold` — what is held comes after everything that was written or waits and has bytes;
* `isCounted_runAll` — the buffer counts its bytes after all calls.
-/

namespace FramedShell.Terminal

theorem bytesOf_append (first rest : List Instruction) :
    Rehearsal.bytesOf (first ++ rest) = Rehearsal.bytesOf first ++ Rehearsal.bytesOf rest := by
  unfold Rehearsal.bytesOf
  rw [Instruction.encodeAll_append, List.flatMap_append]

theorem length_bytesOf_singleton (i : Instruction) : (Rehearsal.bytesOf [i]).length = i.size := by
  unfold Rehearsal.bytesOf Instruction.size
  rw [Instruction.encodeAll_cons, Instruction.encodeAll_nil, List.append_nil]

namespace Surface

/-- **The buffer counts its bytes.** -/
def IsCounted (s : Surface) : Prop := s.heldSize = (Rehearsal.bytesOf s.held.toList).length

/-! ### One instruction -/

/-- **An instruction is taken**: it comes last, or it is too large for the buffer and comes before what
has no bytes. Nothing else that is remembered changes. -/
structure Takes (s : Surface) (i : Instruction) (s' : Surface) : Prop where
  prepared : s'.prepared = s.prepared
  cursorShown : s'.cursorShown = s.cursorShown
  output : s'.output = s.output ++ [i] ∨
    capacity ≤ i.size ∧ ∃ first rest, s.output = first ++ rest ∧ s'.output = first ++ [i] ++ rest ∧
      (s.IsCounted → Rehearsal.bytesOf rest = [])
  counted : s.IsCounted → s'.IsCounted

variable (s : Surface)

theorem output_flush : s.flush.output = s.output := by
  unfold output flush
  rw [Array.toList_append, List.append_nil]

/-- Room is made by flushing, and then the buffer is empty. -/
theorem makeRoom_cases (size : Nat) :
    s.makeRoom size = s.flush ∨ s.makeRoom size = s ∧ s.heldSize + size ≤ capacity := by
  unfold makeRoom
  split
  · exact .inl rfl
  · next hroom => exact .inr ⟨rfl, Nat.le_of_not_lt hroom⟩

/-- **What is held is taken.** -/
theorem takes_hold (i : Instruction) : s.Takes i (s.hold i) := by
  -- making room changes what is held and what is written, but not what is put out in all
  have hsame : (s.makeRoom i.size).prepared = s.prepared ∧
      (s.makeRoom i.size).cursorShown = s.cursorShown ∧ (s.makeRoom i.size).output = s.output ∧
      (s.IsCounted → (s.makeRoom i.size).IsCounted) ∧
      ((s.makeRoom i.size).heldSize = 0 ∨ (s.makeRoom i.size).heldSize + i.size ≤ capacity) := by
    obtain hroom | ⟨hroom, hfits⟩ := s.makeRoom_cases i.size
    · rw [hroom]
      exact ⟨rfl, rfl, s.output_flush, fun _ => rfl, .inl rfl⟩
    · rw [hroom]
      exact ⟨rfl, rfl, rfl, id, .inr hfits⟩
  obtain ⟨hprepared, hcursor, houtput, hcounted, hfits⟩ := hsame
  unfold hold
  dsimp only
  generalize s.makeRoom i.size = r at hprepared hcursor houtput hcounted hfits
  split
  · -- an instruction as large as the buffer is written at once, before what is held
    next hlarge =>
    refine ⟨hprepared, hcursor, .inr ⟨hlarge, r.written.toList, r.held.toList, houtput.symm, ?_, ?_⟩,
      hcounted⟩
    · unfold output
      dsimp only
      rw [Array.toList_push]
    · -- the buffer holds no bytes, or there would have been no room
      intro h
      rw [← List.length_eq_zero_iff, ← hcounted h]
      omega
  · -- any other one is held, and its bytes are counted
    refine ⟨hprepared, hcursor, .inl ?_, fun h => ?_⟩
    · unfold output at houtput ⊢
      dsimp only
      rw [Array.toList_push, ← List.append_assoc, houtput]
    · change r.heldSize + i.size = _
      rw [Array.toList_push, bytesOf_append, List.length_append, length_bytesOf_singleton, hcounted h]

/-! ### Several instructions -/

/-- All bytes that a surface was made to write, in the order in which they reach the terminal. -/
def stream (s : Surface) : List UInt8 := Rehearsal.bytesOf s.output

variable {s}

/-- **Bytes are added to the stream** at its end. -/
theorem IsCounted.stream_hold (h : s.IsCounted) (i : Instruction) :
    (s.hold i).stream = s.stream ++ Rehearsal.bytesOf [i] := by
  unfold stream
  obtain houtput | ⟨-, first, rest, hbefore, hafter, hempty⟩ := (s.takes_hold i).output
  · -- it comes last
    rw [houtput, bytesOf_append]
  · -- what it overtakes has no bytes
    rw [hbefore, hafter, bytesOf_append, bytesOf_append, bytesOf_append, hempty h, List.append_nil,
      List.append_nil]

theorem IsCounted.holdAll (h : s.IsCounted) (instructions : List Instruction) :
    (s.holdAll instructions).IsCounted ∧
      (s.holdAll instructions).stream = s.stream ++ Rehearsal.bytesOf instructions := by
  induction instructions generalizing s with
  | nil => exact ⟨h, (List.append_nil _).symm⟩
  | cons i rest ih =>
    -- the induction is on the instructions, from the surface that holds the first one
    obtain ⟨hcounted, hstream⟩ := ih ((s.takes_hold i).counted h)
    refine ⟨hcounted, hstream.trans ?_⟩
    rw [h.stream_hold, List.append_assoc, ← bytesOf_append, List.singleton_append]

/-- **A stroke keeps what holding and flushing keep**, if it does not depend on what is remembered of the
cursor. -/
theorem draw_keeps {P : Surface → Prop} (hhold : ∀ s i, P s → P (hold s i))
    (hflush : ∀ s, P s → P (flush s)) (hcursor : ∀ s visible, P s → P { s with cursorShown := visible })
    (h : P s) (stroke : Stroke) : P (s.draw stroke).2 := by
  -- several instructions are held one after the other
  have hall : ∀ instructions, P (s.holdAll instructions) := fun instructions =>
    List.foldlRecOn instructions hold h fun s' h' i _ => hhold s' i h'
  cases stroke with
  | putCells start cells => exact hall _
  | setCursor place =>
    unfold draw
    dsimp only
    -- a place whose row or column, counted from one, is out of range is not gone to
    split
    · exact hhold s _ h
    · exact h
  | setCursorVisible visible =>
    unfold draw setCursorVisible
    dsimp only
    -- a cursor that is as it should be already gets no sequence
    split
    · exact h
    · exact hhold _ _ (hcursor s visible h)
  | clear => exact hall _
  | flush => exact hflush s h
  | beyond => exact h

/-- **The buffer counts its bytes after every call.** -/
theorem IsCounted.run (h : s.IsCounted) (o : Operation) : (o.run s).IsCounted := by
  cases o with
  | prepare => exact h
  | restore =>
    change s.restore.IsCounted
    -- the surface is flushed when it is restored, and else left alone
    unfold restore
    split
    · rfl
    · exact h
  | askSize => exact h
  | resize window => exact h
  | setTitle title => rfl
  | draw stroke =>
    exact draw_keeps (fun s i => (s.takes_hold i).counted) (fun _ _ => rfl) (fun _ _ => id) h stroke

theorem isCounted_runAll (window : Size) (operations : List Operation) :
    (Operation.runAll { window := window } operations).IsCounted := by
  refine List.foldlRecOn operations Operation.run rfl fun s h o _ => ?_
  exact h.run o

end Surface

end FramedShell.Terminal
