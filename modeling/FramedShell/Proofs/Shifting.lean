import FramedShell.Proofs.Lines

/-!
# Wide characters in a line whose slots are moved

Inserting, deleting and resizing move slots along a line, and its end with them. A wide character that
comes to stand before the end without its half is what must not happen: inserting empties the character
that it cuts, while deleting and filling up rely on a line that is closed already.

## Main definitions

* `Line.spread` — a line with new slots in it, not yet cut.

## Main results

* `Line.Whole.insert` — a line is whole and closed after slots were inserted;
* `Line.Whole.delete` — a closed line is whole after slots were deleted;
* `Line.Whole.resize_of_le`, `Line.Whole.resize_of_ge` — a line cut is whole, and one filled up is
  whole if it was closed.
-/

namespace FramedShell.Emulator.Line

/-! ### Another number of columns -/

section

variable {closed : Prop} {l : Line}

/-- A whole line cut to fewer columns is whole, but a wide character may end it now. -/
theorem Whole.resize_of_le (h : l.Whole closed) {cols : Nat} (hle : cols ≤ l.slots.length) :
    (l.resize cols).Whole False where
  sound i := by
    rw [slot_resize]
    -- a slot is one of the old line, or a fresh one past the cut
    split
    · exact h.sound i
    · exact Slot.plain_fresh.sound
  opening := by
    rw [slot_resize]
    split
    · exact h.opening
    · rfl
  paired i hi := by
    rw [length_resize] at hi
    have hlt : i + 1 < cols := hi.elim False.elim id
    -- a pair that is inside of the cut is one of the old line
    rw [slot_resize, slot_resize, if_pos hlt, if_pos (Nat.lt_of_succ_lt hlt)]
    exact h.paired i (Or.inr (by omega))

/-- **A line filled up with empty slots** stays whole if it is closed. -/
theorem Whole.resize_of_ge (h : l.Whole closed) {cols : Nat} (hge : l.slots.length ≤ cols)
    (hclosed : closed ∨ cols ≤ 1) : (l.resize cols).Whole closed := by
  have hslot : ∀ i, (l.resize cols).slot i = l.slot i := by
    intro i
    rw [slot_resize]
    -- past its end the old line reads as fresh slots, and so it is filled up
    split
    · rfl
    next hi => rw [slot_of_length_le l (by omega)]
  refine ⟨fun i => ?_, ?_, fun i hi => ?_⟩
  · rw [hslot]
    exact h.sound i
  · rw [hslot]
    exact h.opening
  · rw [hslot, hslot]
    rw [length_resize] at hi
    -- on a screen of one column there is no pair of slots to look at
    obtain hc : closed := by
      obtain hc | hlt := hi
      · exact hc
      · exact hclosed.elim id fun hle => by omega
    exact h.paired i (Or.inl hc)

theorem resize_eq_take {cols : Nat} (hle : cols ≤ l.slots.length) :
    l.resize cols = ⟨l.slots.take cols, false⟩ := by
  unfold resize
  rw [Nat.sub_eq_zero_of_le hle, List.replicate_zero, List.append_nil]

@[simp] theorem length_cut (l : Line) (cols : Nat) :
    (l.cut cols).slots.length = min cols l.slots.length := by
  unfold cut
  dsimp only
  split
  · rw [length_modify, List.length_take]
  · exact List.length_take

/-! ### Inserting -/

/-- **Cutting a line** closes it: a wide character at the cut is emptied. -/
theorem whole_cut {cols : Nat} (hle : cols ≤ l.slots.length)
    (h : Whole False ⟨l.slots.take cols, false⟩) : (l.cut cols).Whole closed := by
  have hlength : (Line.mk (l.slots.take cols) false).slots.length = cols := by
    change (l.slots.take cols).length = cols
    rw [List.length_take, Nat.min_eq_left hle]
  generalize hkept : Line.mk (l.slots.take cols) false = kept at h hlength
  have hcut : l.cut cols
      = if (kept.slot (cols - 1)).wide then kept.modify (cols - 1) Slot.emptied else kept := by
    rw [← hkept]
    rfl
  rw [hcut]
  -- where a wide character is at the cut, it is emptied; otherwise the line is closed as it is
  split
  next hwide =>
    -- the other half of the emptied character would stand after the cut, where there is nothing
    have hover : Overwritten (cols - 1) kept (kept.modify (cols - 1) Slot.emptied) :=
      { length_eq := length_modify _ _ _
        here := plain_modify_emptied _ _
        half := fun _ => by
          rw [slot_of_length_le _ (by rw [length_modify]; omega)]
          exact Slot.plain_fresh
        base := fun hhalf => by
          rw [(h.sound _).half hhalf] at hwide
          cases hwide
        others := fun i hi _ _ => slot_modify_of_ne _ hi _ }
    refine (h.overwritten hover).close ?_ closed
    rw [length_modify, hlength]
    exact hover.here.wide
  next hnarrow =>
    refine h.close ?_ closed
    rw [hlength, ← Bool.not_eq_true]
    exact hnarrow

/-- **A line with `count + 1` new slots** before the one at `col`, not yet cut. If that one is a right
half, the first new slot becomes the right half in its place. -/
def spread (l : Line) (col count : Nat) : Line :=
  ⟨l.slots.take col ++
    ({ continuation := (l.slot col).continuation } :: List.replicate count Slot.fresh) ++
    (l.slots.drop col).modify 0 fun s => { s with continuation := false }, false⟩

section

variable {col : Nat} (hcol : col < l.slots.length)

include hcol

theorem length_spread (count : Nat) :
    (l.spread col count).slots.length = l.slots.length + (count + 1) := by
  unfold spread
  rw [List.length_append, List.length_append, List.length_take, List.length_cons,
    List.length_replicate, List.length_modify, List.length_drop]
  omega

theorem slot_spread_of_lt (count : Nat) {i : Nat} (hi : i < col) :
    (l.spread col count).slot i = l.slot i := by
  -- the slots before the insertion come first
  have htake : (l.slots.take col).length = col := by
    rw [List.length_take]
    omega
  unfold spread slot
  dsimp only
  rw [List.append_assoc, List.getElem?_append_left (by omega), List.getElem?_take_of_lt hi]

/-- The new slots are empty, but for a right half at the first one. -/
theorem slot_spread_new {count k : Nat} (hk : k ≤ count) :
    (l.spread col count).slot (col + k)
      = { continuation := decide (k = 0) && (l.slot col).continuation } := by
  have htake : (l.slots.take col).length = col := by
    rw [List.length_take]
    omega
  unfold spread
  rw [slot, List.append_assoc, List.getElem?_append_right (by omega), htake, Nat.add_sub_cancel_left,
    List.cons_append]
  -- the first of the new slots, or one of those after it
  cases k with
  | zero => rfl
  | succ k =>
    rw [List.getElem?_cons_succ, List.getElem?_append_left (by rwa [List.length_replicate]),
      List.getElem?_replicate, if_pos (Nat.lt_of_succ_le hk)]
    rfl

/-- The slots after the new ones are the old ones from `col` on, and the first of them is no right half
any more. -/
theorem slot_spread_moved (count j : Nat) :
    (l.spread col count).slot (col + (count + 1 + j))
      = { l.slot (col + j) with
          continuation := decide (j ≠ 0) && (l.slot (col + j)).continuation } := by
  have htake : (l.slots.take col).length = col := by
    rw [List.length_take]
    omega
  unfold spread slot
  dsimp only
  rw [List.append_assoc, List.getElem?_append_right (by omega), htake, Nat.add_sub_cancel_left,
    List.getElem?_append_right (by rw [List.length_cons, List.length_replicate]; omega),
    List.length_cons, List.length_replicate, Nat.add_sub_cancel_left, List.getElem?_modify,
    List.getElem?_drop]
  -- the first slot that was moved, or one of those after it, which are moved as they are
  cases j with
  | zero =>
    rw [List.getElem?_eq_getElem (by omega : col + 0 < l.slots.length)]
    rfl
  | succ j =>
    cases l.slots[col + (j + 1)]? with
    | none => rfl
    | some s => rfl

theorem Whole.spread (h : l.Whole closed) (count : Nat) : (l.spread col count).Whole False := by
  -- a slot of the longer line is before the new ones, one of them, or after them
  have hplace : ∀ i, i < col ∨ (∃ k ≤ count, i = col + k) ∨ ∃ j, i = col + (count + 1 + j) := by
    intro i
    obtain hlt | hle | hgt : i < col ∨ (col ≤ i ∧ i - col ≤ count) ∨ col + (count + 1) ≤ i := by omega
    · exact .inl hlt
    · exact .inr (.inl ⟨i - col, hle.2, by omega⟩)
    · exact .inr (.inr ⟨i - (col + (count + 1)), by omega⟩)
  refine ⟨fun i => ?_, ?_, fun i hi => ?_⟩
  · -- every slot is an old one, a fresh one or a right half
    obtain hlt | ⟨k, hk, rfl⟩ | ⟨j, rfl⟩ := hplace i
    · rw [slot_spread_of_lt hcol count hlt]
      exact h.sound i
    · rw [slot_spread_new hcol hk]
      exact ⟨rfl, fun _ => rfl⟩
    · rw [slot_spread_moved hcol]
      exact ⟨(h.sound _).width, fun hhalf => (h.sound _).half (Bool.and_eq_true_iff.1 hhalf).2⟩
  · -- the first slot is the old one, unless the insertion is at the very front
    obtain hlt | hzero := Nat.eq_zero_or_pos col |>.symm
    · rw [slot_spread_of_lt hcol count hlt]
      exact h.opening
    · subst hzero
      rw [slot_spread_new hcol (Nat.zero_le count)]
      exact h.opening
  · -- a pair before or after the new slots is one of the old line; at the first new slot the right half
    -- is kept for the wide character before it, and the first moved slot has nothing to pair with
    have hlong : i + 1 < l.slots.length + (count + 1) := by
      rw [← length_spread hcol count]
      exact hi.elim False.elim id
    obtain hlt | ⟨k, hk, rfl⟩ | ⟨j, rfl⟩ := hplace i
    · -- the slot before the insertion may be a wide character, and its right half is the first new slot then
      rw [slot_spread_of_lt hcol count hlt, ← h.paired i (Or.inr (by omega))]
      obtain hlt | rfl : i + 1 < col ∨ col = i + 1 := by omega
      · rw [slot_spread_of_lt hcol count hlt]
      · rw [slot_spread_new hcol (Nat.zero_le count)]
        rfl
    · -- a new slot is not wide, and none of those after it is a right half
      rw [slot_spread_new hcol hk]
      obtain hlt | rfl : k < count ∨ count = k := by omega
      · rw [Nat.add_assoc, slot_spread_new hcol hlt]
        rfl
      · rw [Nat.add_assoc, slot_spread_moved hcol count 0]
        rfl
    · -- two slots that were moved together
      rw [Nat.add_assoc, Nat.add_assoc, slot_spread_moved hcol, slot_spread_moved hcol]
      exact h.paired (col + j) (Or.inr (by omega))

end

/-- Inserting slots is to spread the line and to cut it, if slots are inserted at all. -/
theorem insert_eq_cut {col count : Nat} (hcol : col < l.slots.length)
    (hcount : 0 < min count l.slots.length) :
    l.insert col count = (l.spread col (min count l.slots.length - 1)).cut l.slots.length := by
  unfold insert spread
  dsimp only
  cases hhalf : (l.slot col).continuation with
  -- the right half moves to the front of the new slots
  | true => rw [if_pos (by simp only [hcol, hcount, decide_true, Bool.and_self])]
  -- there is no right half to move, and all new slots are fresh
  | false =>
    have hold : (l.slots.drop col).modify 0 (fun s => { s with continuation := false })
        = l.slots.drop col := by
      rw [List.drop_eq_getElem_cons hcol, List.modify_zero_cons, ← hhalf, slot_eq_getElem l hcol]
    have hnew : List.replicate (min count l.slots.length) Slot.fresh
        = Slot.fresh :: List.replicate (min count l.slots.length - 1) Slot.fresh := by
      rw [← List.replicate_succ, Nat.sub_add_cancel hcount]
    rw [if_neg (by simp only [Bool.false_and, Bool.false_eq_true, not_false_iff]), hold, hnew]
    rfl

/-- **Inserting slots** keeps a line whole, and closes it. -/
theorem Whole.insert (h : l.Whole closed) (closed' : Prop) (col count : Nat) :
    (l.insert col count).Whole closed' := by
  by_cases hmoved : col < l.slots.length ∧ 0 < min count l.slots.length
  · -- the spread line is whole, and it is cut to the length that it had
    have hlength := length_spread hmoved.1 (min count l.slots.length - 1)
    have hwhole := h.spread hmoved.1 (min count l.slots.length - 1)
    have hle : l.slots.length ≤ (l.spread col (min count l.slots.length - 1)).slots.length := by omega
    rw [insert_eq_cut hmoved.1 hmoved.2]
    refine whole_cut hle ?_
    rw [← resize_eq_take hle]
    exact hwhole.resize_of_le hle
  · -- nothing is inserted before the end of the line, so all its slots are kept
    have hkept : (l.slots.take col ++ List.replicate (min count l.slots.length) Slot.fresh ++
        l.slots.drop col).take l.slots.length = l.slots := by
      by_cases hcol : col < l.slots.length
      · have hnone : min count l.slots.length = 0 := by omega
        rw [hnone, List.replicate_zero, List.append_nil, List.take_append_drop, List.take_length]
      · rw [List.take_of_length_le (Nat.not_lt.1 hcol), List.append_assoc, List.take_left]
    unfold Line.insert
    dsimp only
    -- the first form of inserting is the one for a right half, and no slot is in its way here
    rw [if_neg]
    · refine whole_cut ?_ ?_
      · have hlength := congrArg List.length hkept
        rw [List.length_take] at hlength
        exact Nat.le_trans (Nat.le_of_eq hlength.symm) (Nat.min_le_right _ _)
      · rw [hkept]
        exact (h.mono False.elim).congr rfl fun _ => rfl
    · intro hall
      simp only [Bool.and_eq_true, decide_eq_true_iff] at hall
      exact hmoved ⟨hall.1.2, hall.2⟩

@[simp] theorem length_insert (l : Line) (col count : Nat) :
    (l.insert col count).slots.length = l.slots.length := by
  unfold insert
  dsimp only
  split <;>
  · rw [length_cut]
    simp only [List.length_append, List.length_take, List.length_drop, List.length_modify,
      List.length_cons, List.length_replicate]
    omega

/-! ### Deleting -/

/-- A line without one of its slots, which was plain. -/
theorem Whole.eraseIdx (h : l.Whole closed) {col : Nat} (hplain : (l.slot col).Plain) :
    Whole closed ⟨l.slots.eraseIdx col, false⟩ := by
  have hslot : ∀ i, Line.slot ⟨l.slots.eraseIdx col, false⟩ i
      = if i < col then l.slot i else l.slot (i + 1) := by
    intro i
    unfold slot
    -- the slots after the gap move up by one
    rw [List.getElem?_eraseIdx]
    split <;> rfl
  have hnext := h.continuation_of_narrow hplain.wide
  refine ⟨fun i => ?_, ?_, fun i hi => ?_⟩
  · -- each slot is an old one
    rw [hslot]
    split
    · exact h.sound i
    · exact h.sound (i + 1)
  · -- the first slot is the old one, or the one after it if the first is gone
    rw [hslot]
    split
    · exact h.opening
    next hcol =>
      obtain rfl : col = 0 := by omega
      exact hnext
  · have hlength : (l.slots.eraseIdx col).length
        = if col < l.slots.length then l.slots.length - 1 else l.slots.length := List.length_eraseIdx
    change closed ∨ i + 1 < (l.slots.eraseIdx col).length at hi
    rw [hlength] at hi
    rw [hslot, hslot]
    -- the two slots beside the gap are neither a wide character nor a right half
    obtain hlt | rfl | hgt : i + 1 < col ∨ col = i + 1 ∨ col ≤ i := by omega
    · rw [if_pos hlt, if_pos (by omega)]
      refine h.paired i (hi.imp_right fun hi => ?_)
      split at hi <;> omega
    · rw [if_neg (Nat.lt_irrefl _), if_pos (Nat.lt_succ_self i), hnext]
      refine (h.narrow_of_single (hi.imp_right fun hi => ?_) hplain.continuation).symm
      split at hi <;> omega
    · rw [if_neg (by omega), if_neg (by omega)]
      refine h.paired (i + 1) (hi.imp_right fun hi => ?_)
      split at hi <;> omega

theorem remove_eq (style : Style) (l : Line) (col : Nat) :
    l.remove col = ⟨(l.erase style col).slots.eraseIdx col, false⟩ := by
  unfold remove erase modify
  dsimp only
  rw [List.eraseIdx_modify_of_eq]

theorem Whole.remove (h : l.Whole closed) (col : Nat) : (l.remove col).Whole closed := by
  rw [remove_eq .plain]
  have hover := overwritten_erase h .plain col
  exact (h.overwritten hover).eraseIdx hover.here

@[simp] theorem length_delete (l : Line) (col count : Nat) :
    (l.delete col count).slots.length = l.slots.length := length_resize _ _

/-- **Deleting slots** keeps a closed line whole. A line of one slot need not be closed. -/
theorem Whole.delete (h : l.Whole closed) (hclosed : closed ∨ l.slots.length ≤ 1) (col count : Nat) :
    (l.delete col count).Whole closed := by
  unfold Line.delete
  dsimp only
  generalize min count (l.slots.length - col) = n
  -- one slot goes at a time, and the line is filled up once at the end
  have hremoved : (Nat.repeat (fun line : Line => line.remove col) n l).Whole closed ∧
      (Nat.repeat (fun line : Line => line.remove col) n l).slots.length ≤ l.slots.length := by
    induction n with
    | zero => exact ⟨h, Nat.le_refl _⟩
    | succ n ih =>
      refine ⟨ih.1.remove col, Nat.le_trans ?_ ih.2⟩
      change (List.eraseIdx (Line.parted _ col).slots col).length ≤ _
      rw [List.length_eraseIdx, length_parted]
      split <;> omega
  exact hremoved.1.resize_of_ge hremoved.2 hclosed

end

end FramedShell.Emulator.Line
