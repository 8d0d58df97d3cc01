import FramedShell.Emulator.Line

/-!
# Wide characters in a line of the screen

A wide character takes two slots: its own and the right half after it. Every operation on a line that
touches one of the two takes care of the other, and this module says so: an operation on a *whole* line
makes a whole line.

The exception is the end of the line. Cutting a line to fewer columns may leave a wide character in
its last slot without its half. That does no harm while the character stays there, so wholeness comes
in two grades: a line is whole and *closed* when no wide character ends it, and just whole when one may.
The operations that move the end of the line inwards (deleting slots, more columns) need a closed one.

## Main definitions

* `Slot.Sound`, `Slot.Plain` — a slot as the emulator fills it, and one that holds no wide character;
* `Line.Whole` — wide characters and right halves come in pairs;
* `Line.Overwritten` — a slot was overwritten, and so was the other half of the character in it;
* `Line.write` — what writing a character does to the line of the cursor.

## Main results

* `Line.Whole.overwritten` — a whole line is whole after a slot was overwritten;
* `Line.Whole.widened` — it is whole after two slots next to each other were made a wide character;
* `Line.Whole.eraseRange`, `Line.Whole.write` — so erasing and writing keep lines whole.
-/

namespace FramedShell.Emulator

/-! ### Slots -/

namespace Slot

/-- **A slot as the emulator fills it**: a wide character takes two columns and any other one at most,
and the right half of a wide character is not wide itself. -/
structure Sound (s : Slot) : Prop where
  width : max (Text.textWidth s.chars) 1 = if s.wide then 2 else 1
  half : s.continuation = true → s.wide = false

/-- **A slot of its own**: it takes one column and is no half of a wide character. -/
structure Plain (s : Slot) : Prop where
  width : Text.textWidth s.chars ≤ 1
  wide : s.wide = false
  continuation : s.continuation = false

theorem Plain.sound {s : Slot} (h : s.Plain) : s.Sound where
  width := by
    rw [h.wide]
    exact Nat.max_eq_right h.width
  half _ := h.wide

/-- A wide character is no right half. -/
theorem Sound.single {s : Slot} (h : s.Sound) (hwide : s.wide = true) : s.continuation = false := by
  rw [← Bool.not_eq_true]
  intro hhalf
  rw [h.half hhalf] at hwide
  cases hwide

theorem plain_empty (style : Style) : (empty style).Plain := ⟨Nat.zero_le _, rfl, rfl⟩

theorem plain_fresh : fresh.Plain := plain_empty {}

theorem plain_emptied (s : Slot) : s.emptied.Plain := plain_empty s.style

/-- The slot that the right half of a wide character is written to. -/
theorem sound_half : Sound { continuation := true } := ⟨rfl, fun _ => rfl⟩

theorem wide_ofChar {c : Char} {width : Nat} (h : Text.charWidth c = some width) (style : Style) :
    (ofChar c style).wide = decide (1 < width) := by
  unfold ofChar
  rw [h]
  rfl

theorem sound_ofChar {c : Char} {width : Nat} (h : Text.charWidth c = some width) (style : Style) :
    (ofChar c style).Sound where
  width := by
    -- no character is wider than two columns, so a wide one has exactly two
    have hle : width ≤ 2 := Text.charWidth_le_two h
    rw [wide_ofChar h, ofChar, Text.textWidth_cons, h, Text.textWidth_nil]
    change max width 1 = if decide (1 < width) then 2 else 1
    simp only [decide_eq_true_eq]
    split <;> omega
  half h := by cases h

theorem plain_ofChar {c : Char} {width : Nat} (h : Text.charWidth c = some width) (hle : width ≤ 1)
    (style : Style) : (ofChar c style).Plain where
  width := by
    rw [ofChar, Text.textWidth_cons, h]
    exact hle
  wide := by
    rw [wide_ofChar h]
    exact decide_eq_false (Nat.not_lt.2 hle)
  continuation := rfl

theorem plain_space (style : Style) : (ofChar ' ' style).Plain :=
  plain_ofChar (by decide : Text.charWidth ' ' = some 1) (Nat.le_refl 1) style

@[simp] theorem wide_addMark (s : Slot) (mark : Char) : (s.addMark mark).wide = s.wide := by
  unfold addMark
  split <;> rfl

@[simp] theorem continuation_addMark (s : Slot) (mark : Char) :
    (s.addMark mark).continuation = s.continuation := by
  unfold addMark
  split <;> rfl

/-- A character stays as wide as it is when a mark of width zero is combined with it. -/
theorem Sound.addMark {s : Slot} (h : s.Sound) {mark : Char} (hmark : Text.charWidth mark = some 0) :
    (s.addMark mark).Sound where
  width := by
    rw [wide_addMark, ← h.width]
    unfold Slot.addMark
    split
    · -- a full slot takes no mark
      rfl
    -- a mark on an empty slot is combined with a space there
    cases hchars : s.chars with
    | nil =>
      change max (Text.textWidth [' ', mark]) 1 = _
      rw [Text.textWidth_cons, Text.textWidth_cons, hmark]
      rfl
    -- the mark goes to the end, and adds no column to the sum
    | cons c rest =>
      change max (Text.textWidth ((c :: rest) ++ [mark])) 1 = _
      rw [Text.textWidth_append, Text.textWidth_cons mark, hmark]
      rfl
  half hhalf := by
    rw [continuation_addMark] at hhalf
    rw [wide_addMark, h.half hhalf]

/-- **The columns of the cell that a slot is shown as.** -/
theorem Sound.width_cell {s : Slot} (h : s.Sound) :
    s.cell.width = if s.continuation then 0 else if s.wide then 2 else 1 := by
  unfold cell
  -- a right half has no columns, whatever is in it
  split
  · rfl
  rw [← h.width]
  cases hchars : s.chars with
  -- an empty slot is shown as a space, which has one column as well
  | nil => rfl
  | cons c rest => rfl

theorem Sound.width_cell_le {s : Slot} (h : s.Sound) : s.cell.width ≤ 2 := by
  rw [h.width_cell]
  split
  · exact Nat.zero_le 2
  split
  · exact Nat.le_refl 2
  · exact Nat.le_succ 1

theorem Sound.width_cell_eq_two {s : Slot} (h : s.Sound) : s.cell.width = 2 ↔ s.wide = true := by
  rw [h.width_cell]
  cases hhalf : s.continuation with
  | true =>
    rw [h.half hhalf]
    exact ⟨nofun, nofun⟩
  | false =>
    cases s.wide with
    | true => exact ⟨fun _ => rfl, fun _ => rfl⟩
    | false => exact ⟨nofun, nofun⟩

@[simp] theorem isContinuation_cell (s : Slot) : s.cell.isContinuation = s.continuation := by
  unfold cell
  cases s.continuation <;> rfl

end Slot

namespace Line

/-! ### The slots of a line, one by one -/

section

variable (l : Line)

theorem slot_of_length_le {col : Nat} (h : l.slots.length ≤ col) : l.slot col = Slot.fresh := by
  unfold slot
  rw [List.getElem?_eq_none h]
  rfl

theorem slot_eq_getElem {col : Nat} (h : col < l.slots.length) : l.slot col = l.slots[col] := by
  unfold slot
  rw [List.getElem?_eq_getElem h]
  rfl

@[simp] theorem length_modify (col : Nat) (f : Slot → Slot) :
    (l.modify col f).slots.length = l.slots.length := List.length_modify _ _ _

theorem slot_modify (col : Nat) (f : Slot → Slot) (i : Nat) :
    (l.modify col f).slot i = if i = col ∧ i < l.slots.length then f (l.slot i) else l.slot i := by
  unfold slot modify
  rw [List.getElem?_modify]
  by_cases hi : i < l.slots.length
  · -- within the line, the slot is changed if it is the one
    rw [List.getElem?_eq_getElem hi]
    by_cases hcol : col = i
    · rw [if_pos ⟨hcol.symm, hi⟩]
      exact if_pos hcol
    · rw [if_neg fun h => hcol h.1.symm]
      exact if_neg hcol
  · -- beyond the line there is nothing to change, and the slot reads as a fresh one
    rw [if_neg fun h => hi h.2, List.getElem?_eq_none (Nat.not_lt.1 hi)]
    rfl

theorem slot_modify_of_ne {col i : Nat} (h : i ≠ col) (f : Slot → Slot) :
    (l.modify col f).slot i = l.slot i := by
  rw [slot_modify, if_neg fun hi => h hi.1]

/-- A slot that was overwritten by a plain one is plain, also beyond the line. -/
theorem plain_modify {s : Slot} (hs : s.Plain) (col : Nat) :
    ((l.modify col fun _ => s).slot col).Plain := by
  rw [slot_modify]
  split
  · exact hs
  next h =>
    rw [slot_of_length_le l (by omega)]
    exact Slot.plain_fresh

theorem plain_modify_emptied (col : Nat) : ((l.modify col Slot.emptied).slot col).Plain := by
  rw [slot_modify]
  split
  · exact Slot.plain_emptied _
  next h =>
    rw [slot_of_length_le l (by omega)]
    exact Slot.plain_fresh

@[simp] theorem length_parted (col : Nat) : (l.parted col).slots.length = l.slots.length := by
  unfold parted
  split
  · exact length_modify l _ _
  split
  · exact length_modify l _ _
  · rfl

theorem slot_resize (cols i : Nat) :
    (l.resize cols).slot i = if i < cols then l.slot i else Slot.fresh := by
  unfold slot resize
  dsimp only
  by_cases hi : i < cols
  · rw [if_pos hi]
    -- the slots that are kept come first, and fresh ones fill the line up
    by_cases hlen : i < l.slots.length
    · rw [List.getElem?_append_left (by rw [List.length_take]; omega), List.getElem?_take_of_lt hi]
    · rw [List.getElem?_append_right (by rw [List.length_take]; omega), List.getElem?_replicate,
        List.getElem?_eq_none (Nat.not_lt.1 hlen)]
      split <;> rfl
  · rw [if_neg hi, List.getElem?_eq_none]
    · rfl
    · rw [List.length_append, List.length_take, List.length_replicate]
      omega

@[simp] theorem length_resize (cols : Nat) : (l.resize cols).slots.length = cols := by
  unfold resize
  rw [List.length_append, List.length_take, List.length_replicate]
  omega

end

/-! ### Whole lines -/

/-- **A whole line**: every slot is sound, and the right halves of wide characters are the slots after
these characters. The last slot may hold a wide character without its half, unless the line is
`closed`. -/
structure Whole (closed : Prop) (l : Line) : Prop where
  sound : ∀ i, (l.slot i).Sound
  opening : (l.slot 0).continuation = false
  paired : ∀ i, closed ∨ i + 1 < l.slots.length → (l.slot (i + 1)).continuation = (l.slot i).wide

section

variable {closed : Prop} {l l' : Line}

/-- Wholeness is about the slots of a line only. -/
theorem Whole.congr (h : l.Whole closed) (hlength : l'.slots.length = l.slots.length)
    (hslot : ∀ i, l'.slot i = l.slot i) : l'.Whole closed where
  sound i := by
    rw [hslot]
    exact h.sound i
  opening := by
    rw [hslot]
    exact h.opening
  paired i hi := by
    rw [hslot, hslot]
    rw [hlength] at hi
    exact h.paired i hi

theorem whole_of_plain (h : ∀ i, (l.slot i).Plain) : l.Whole closed where
  sound i := (h i).sound
  opening := (h 0).continuation
  paired i _ := (h (i + 1)).continuation.trans (h i).wide.symm

theorem Whole.mono (h : l.Whole closed) {closed' : Prop} (himp : closed' → closed) :
    l.Whole closed' where
  sound := h.sound
  opening := h.opening
  paired i hi := h.paired i (hi.imp_left himp)

/-- A line in which no wide character stands at the end is closed. -/
theorem Whole.close (h : l.Whole False) (hlast : (l.slot (l.slots.length - 1)).wide = false)
    (closed : Prop) : l.Whole closed where
  sound := h.sound
  opening := h.opening
  paired i hi := by
    by_cases hlt : i + 1 < l.slots.length
    · -- past the end there is no right half, so the character before it must not be wide
      exact h.paired i (Or.inr hlt)
    · have hfresh : l.slot (i + 1) = Slot.fresh := slot_of_length_le l (Nat.not_lt.1 hlt)
      have hwide : (l.slot i).wide = false := by
        by_cases hi : i < l.slots.length
        · obtain rfl : i = l.slots.length - 1 := by omega
          exact hlast
        · rw [slot_of_length_le l (Nat.not_lt.1 hi)]
          rfl
      rw [hfresh, hwide]
      rfl

/-- The last slot of a closed line holds no wide character. -/
theorem Whole.wide_last (h : l.Whole True) : (l.slot (l.slots.length - 1)).wide = false := by
  -- in a closed line the pair of the last slot counts, and the slot after it is fresh
  have hpair := h.paired (l.slots.length - 1) (Or.inl trivial)
  rw [slot_of_length_le l (by omega)] at hpair
  exact hpair.symm

/-- A right half does not stand at the beginning of a line. -/
theorem Whole.pos_of_continuation (h : l.Whole closed) {col : Nat}
    (hhalf : (l.slot col).continuation = true) : 0 < col := by
  refine Nat.pos_of_ne_zero ?_
  rintro rfl
  rw [h.opening] at hhalf
  cases hhalf

/-- The slots of a line are as many as it takes to hold a right half. -/
theorem lt_length_of_continuation {col : Nat} (hhalf : (l.slot col).continuation = true) :
    col < l.slots.length := by
  refine Nat.lt_of_not_le fun hle => ?_
  rw [slot_of_length_le l hle] at hhalf
  cases hhalf

/-- Before a right half stands its wide character. -/
theorem Whole.wide_of_continuation (h : l.Whole closed) {i : Nat}
    (hhalf : (l.slot (i + 1)).continuation = true) : (l.slot i).wide = true := by
  rw [← h.paired i (Or.inr (lt_length_of_continuation hhalf)), hhalf]

/-- After a slot that holds no wide character there is no right half. -/
theorem Whole.continuation_of_narrow (h : l.Whole closed) {i : Nat}
    (hnarrow : (l.slot i).wide = false) : (l.slot (i + 1)).continuation = false := by
  rw [← Bool.not_eq_true]
  intro hhalf
  rw [h.wide_of_continuation hhalf] at hnarrow
  cases hnarrow

/-- Before a slot that is no right half there is no wide character. -/
theorem Whole.narrow_of_single (h : l.Whole closed) {i : Nat}
    (hi : closed ∨ i + 1 < l.slots.length) (hsingle : (l.slot (i + 1)).continuation = false) :
    (l.slot i).wide = false := by
  rw [← h.paired i hi, hsingle]

end

/-! ### Overwriting -/

/-- **The slot at `col` was overwritten**: it is plain now, the other half of a wide character that it
belonged to is plain, and the other slots are as they were. -/
structure Overwritten (col : Nat) (l l' : Line) : Prop where
  length_eq : l'.slots.length = l.slots.length
  here : (l'.slot col).Plain
  half : (l.slot col).wide = true → (l'.slot (col + 1)).Plain
  base : (l.slot col).continuation = true → (l'.slot (col - 1)).Plain
  others : ∀ i, i ≠ col → ((l.slot col).wide = true → i ≠ col + 1) →
    ((l.slot col).continuation = true → i ≠ col - 1) → l'.slot i = l.slot i

section

variable {closed : Prop} {l l' : Line} {col : Nat}

/-- **What a slot is after an overwriting**: plain, or what it was, and then it was in no pair with the
slot that was overwritten. -/
theorem Overwritten.plain_or_eq (h : Overwritten col l l') (i : Nat) :
    (l'.slot i).Plain ∨ l'.slot i = l.slot i ∧ i ≠ col ∧ ((l.slot col).wide = true → i ≠ col + 1) ∧
      ((l.slot col).continuation = true → i ≠ col - 1) := by
  -- three places become plain: the slot itself and, on either side of it, a half that it belonged to
  by_cases hcol : i = col
  · exact .inl (hcol ▸ h.here)
  by_cases hhalf : (l.slot col).wide = true ∧ i = col + 1
  · exact .inl (hhalf.2 ▸ h.half hhalf.1)
  by_cases hbase : (l.slot col).continuation = true ∧ i = col - 1
  · exact .inl (hbase.2 ▸ h.base hbase.1)
  have hwide : (l.slot col).wide = true → i ≠ col + 1 := fun hw hi => hhalf ⟨hw, hi⟩
  have hcont : (l.slot col).continuation = true → i ≠ col - 1 := fun hc hi => hbase ⟨hc, hi⟩
  exact .inr ⟨h.others i hcol hwide hcont, hcol, hwide, hcont⟩

/-- Overwriting a slot does not change whether there is a wide character in a slot elsewhere. -/
theorem Overwritten.wide_eq (hover : Overwritten col l l') (h : l.Whole closed) {i : Nat}
    (hcol : i ≠ col) (hbase : i + 1 ≠ col) : (l'.slot i).wide = (l.slot i).wide := by
  obtain hplain | ⟨heq, _⟩ := hover.plain_or_eq i
  · -- the slot can only be that of the right half that was overwritten together with its character
    by_cases hhalf : (l.slot col).wide = true ∧ i = col + 1
    · obtain ⟨hwide, rfl⟩ := hhalf
      rw [hplain.wide]
      by_cases hlt : col + 1 < l.slots.length
      · have hpair := h.paired col (Or.inr hlt)
        exact ((h.sound _).half (hpair.trans hwide)).symm
      · rw [slot_of_length_le l (Nat.not_lt.1 hlt)]
        rfl
    · rw [hover.others i hcol (fun hwide hi => hhalf ⟨hwide, hi⟩) fun hc hi => hbase ?_]
      have := h.pos_of_continuation hc
      omega
  · rw [heq]

/-- Overwriting a slot does not change whether a slot elsewhere is a right half. -/
theorem Overwritten.continuation_eq (hover : Overwritten col l l') (h : l.Whole closed) {i : Nat}
    (hcol : i ≠ col) (hhalf : i ≠ col + 1) :
    (l'.slot i).continuation = (l.slot i).continuation := by
  by_cases hbase : (l.slot col).continuation = true ∧ i = col - 1
  · -- the slot held the wide character whose right half was overwritten
    obtain ⟨hc, rfl⟩ := hbase
    rw [(hover.base hc).continuation]
    have hpos := h.pos_of_continuation hc
    have hwide : (l.slot (col - 1)).wide = true :=
      h.wide_of_continuation (by rwa [Nat.sub_add_cancel hpos])
    exact ((h.sound _).single hwide).symm
  · rw [hover.others i hcol (fun _ => hhalf) fun hc hi => hbase ⟨hc, hi⟩]

/-- **A whole line is whole after a slot was overwritten.** -/
theorem Whole.overwritten (h : l.Whole closed) (hover : Overwritten col l l') : l'.Whole closed where
  sound i := by
    -- a slot is plain after the overwriting, or the same as before
    obtain hplain | ⟨heq, _⟩ := hover.plain_or_eq i
    · exact hplain.sound
    · rw [heq]
      exact h.sound i
  opening := by
    obtain hplain | ⟨heq, _⟩ := hover.plain_or_eq 0
    · exact hplain.continuation
    · rw [heq]
      exact h.opening
  paired i hi := by
    rw [hover.length_eq] at hi
    -- the pair of slots starts at the overwritten one, ends at it, or is elsewhere
    by_cases hcol : i = col
    · subst hcol
      rw [hover.here.wide]
      -- the next slot was its right half and is plain now, or was none and is none
      by_cases hwide : (l.slot i).wide = true
      · exact (hover.half hwide).continuation
      · rw [hover.others (i + 1) (by omega) (fun hw => absurd hw hwide) (fun _ => by omega)]
        exact h.continuation_of_narrow (Bool.not_eq_true _ ▸ hwide)
    by_cases hbase : i + 1 = col
    · subst hbase
      rw [hover.here.continuation]
      -- the slot before was its wide character and is plain now, or was none and is none
      by_cases hc : (l.slot (i + 1)).continuation = true
      · exact (hover.base hc).wide.symm
      · rw [hover.others i (by omega) (fun _ => by omega) (fun h => absurd h hc)]
        exact (h.narrow_of_single hi (Bool.not_eq_true _ ▸ hc)).symm
    -- elsewhere neither of the two slots has changed its part
    rw [hover.wide_eq h hcol hbase, hover.continuation_eq h hbase (by omega)]
    exact h.paired i hi

end

/-! ### Erasing -/

section

variable {closed : Prop} {l : Line}

/-- **The slots of a line of which one character was parted**: the other half of it is empty. -/
theorem slot_parted (l : Line) (col i : Nat) :
    (l.parted col).slot i =
      if ((l.slot col).wide = true ∧ i = col + 1) ∨
          ((l.slot col).wide = false ∧ (l.slot col).continuation = true ∧ i = col - 1) then
        (l.slot i).emptied
      else l.slot i := by
  -- emptying a slot beyond the line is no exception: such a slot is empty
  have hmodify : ∀ other, (l.modify other Slot.emptied).slot i
      = if i = other then (l.slot i).emptied else l.slot i := by
    intro other
    rw [slot_modify]
    by_cases hi : i < l.slots.length
    · simp only [hi, and_true]
    · rw [if_neg fun h => hi h.2, slot_of_length_le l (Nat.not_lt.1 hi)]
      exact (ite_self _).symm
  unfold parted
  cases hwide : (l.slot col).wide with
  -- a wide character loses its right half
  | true =>
    rw [if_pos rfl, hmodify]
    simp only [true_and, Bool.true_eq_false, false_and, or_false]
  | false =>
    rw [if_neg Bool.false_ne_true]
    cases hhalf : (l.slot col).continuation with
    -- a right half loses the character before it
    | true =>
      rw [if_pos rfl, hmodify]
      simp only [Bool.false_eq_true, true_and, false_and, false_or]
    -- a slot of its own loses nothing
    | false =>
      simp only [Bool.false_eq_true, if_false, true_and, false_and, or_false]

theorem overwritten_erase (h : l.Whole closed) (style : Style) (col : Nat) :
    Overwritten col l (l.erase style col) where
  length_eq := (length_modify _ _ _).trans (length_parted l col)
  here := plain_modify _ (Slot.plain_empty style) col
  half hwide := by
    -- parting has emptied the right half, and the slot itself is another one
    change (((l.parted col).modify col fun _ => Slot.empty style).slot (col + 1)).Plain
    rw [slot_modify_of_ne _ (by omega), slot_parted, if_pos (Or.inl ⟨hwide, rfl⟩)]
    exact Slot.plain_emptied _
  base hhalf := by
    change (((l.parted col).modify col fun _ => Slot.empty style).slot (col - 1)).Plain
    -- the slot before the right half holds its character, which parting has emptied
    have hpos := h.pos_of_continuation hhalf
    rw [slot_modify_of_ne _ (by omega), slot_parted,
      if_pos (Or.inr ⟨(h.sound col).half hhalf, hhalf, rfl⟩)]
    exact Slot.plain_emptied _
  others i hcol hhalf hbase := by
    change ((l.parted col).modify col fun _ => Slot.empty style).slot i = _
    rw [slot_modify_of_ne _ hcol, slot_parted, if_neg]
    -- the slot is none of the two that parting empties
    rintro (⟨hwide, hi⟩ | ⟨_, hc, hi⟩)
    · exact hhalf hwide hi
    · exact hbase hc hi

@[simp] theorem length_erase (style : Style) (l : Line) (col : Nat) :
    (l.erase style col).slots.length = l.slots.length :=
  (length_modify _ _ _).trans (length_parted l col)

@[simp] theorem length_eraseRange (style : Style) (l : Line) (first last : Nat) :
    (l.eraseRange style first last).slots.length = l.slots.length := by
  unfold eraseRange
  -- the induction is on the columns that are still to be erased, from the line with the first one erased
  generalize List.range' first (last - first) = cols
  induction cols generalizing l with
  | nil => rfl
  | cons col rest ih => exact (ih (l.erase style col)).trans (length_erase style l col)

/-- **Erasing slots** keeps a line whole. -/
theorem Whole.eraseRange (h : l.Whole closed) (style : Style) (first last : Nat) :
    (l.eraseRange style first last).Whole closed := by
  unfold Line.eraseRange
  -- each slot that is erased is overwritten, and the line stays whole from one to the next
  generalize List.range' first (last - first) = cols
  induction cols generalizing l with
  | nil => exact h
  | cons col rest ih => exact ih (h.overwritten (overwritten_erase h style col))

theorem plain_slot_replicate {s : Slot} (hs : s.Plain) (n : Nat) (wrapped : Bool) (i : Nat) :
    (Line.slot ⟨List.replicate n s, wrapped⟩ i).Plain := by
  unfold slot
  rw [List.getElem?_replicate]
  split
  · exact hs
  · exact Slot.plain_fresh

theorem whole_blank (cols : Nat) : (blank cols).Whole closed :=
  whole_of_plain (plain_slot_replicate Slot.plain_fresh cols false)

theorem whole_clear (l : Line) (style : Style) : (l.clear style).Whole closed :=
  whole_of_plain (plain_slot_replicate (Slot.plain_empty style) _ false)

end

/-! ### Writing a character -/

/-- The line in which the slot at `col` is about to be overwritten: the other half of a wide character
that loses a half here is made a space. -/
def prepare (style : Style) (col : Nat) (l : Line) : Line :=
  let l := if (l.slot col).continuation then l.modify (col - 1) fun _ => Slot.empty style else l
  if (l.slot col).wide then l.modify (col + 1) fun _ => Slot.ofChar ' ' style else l

/-- The line with `s` in the slot at `next`. A wide character that stood there leaves an empty slot
where its half was. -/
def occupy (style : Style) (next : Nat) (s : Slot) (l : Line) : Line :=
  let l := if (l.slot next).wide then l.modify (next + 1) fun _ => Slot.empty style else l
  l.modify next fun _ => s

/-- The line in which the slot at `next` is the right half of the wide character just written before
it, on a screen of `cols` columns. -/
def placeHalf (cols : Nat) (style : Style) (next : Nat) (l : Line) : Line :=
  { l.occupy style next { continuation := true } with
    wrapped := if (l.slot next).wide then l.wrapped && next + 1 + 1 != cols else l.wrapped }

/-- The line with a character of the given width written at `col`. -/
def write (cols : Nat) (style : Style) (c : Char) (width col : Nat) (l : Line) : Line :=
  let l := (l.prepare style col).modify col fun _ => Slot.ofChar c style
  if 1 < width then l.placeHalf cols style (col + 1) else l

section

variable {closed : Prop} {l l' : Line} {col : Nat}

@[simp] theorem length_prepare (style : Style) (col : Nat) (l : Line) :
    (l.prepare style col).slots.length = l.slots.length := by
  unfold prepare
  dsimp only
  split <;> split <;> simp only [length_modify]

/-- **The slots of a line prepared for a character.** -/
theorem slot_prepare (h : l.Whole closed) (style : Style) (col i : Nat) :
    (l.prepare style col).slot i =
      if (l.slot col).wide = true ∧ i = col + 1 ∧ i < l.slots.length then Slot.ofChar ' ' style
      else if (l.slot col).continuation = true ∧ i = col - 1 then Slot.empty style
      else l.slot i := by
  unfold prepare
  dsimp only
  cases hhalf : (l.slot col).continuation with
  -- the slot is a right half, so that it is not wide, and its character becomes a space without text
  | true =>
    have hpos := h.pos_of_continuation hhalf
    have hlt := lt_length_of_continuation hhalf
    have hkept : (l.modify (col - 1) fun _ => Slot.empty style).slot col = l.slot col :=
      slot_modify_of_ne l (by omega) _
    simp only [if_true, hkept, (h.sound col).half hhalf, Bool.false_eq_true, if_false, false_and,
      true_and, slot_modify]
    by_cases hi : i = col - 1
    · rw [if_pos ⟨hi, by omega⟩, if_pos hi]
    · rw [if_neg fun h => hi h.1, if_neg hi]
  | false =>
    -- the slot is no right half, and only its own right half can be left alone
    cases hwide : (l.slot col).wide with
    | true => simp only [Bool.false_eq_true, if_false, hwide, if_true, slot_modify, true_and, false_and]
    | false => simp only [Bool.false_eq_true, if_false, hwide, false_and]

theorem overwritten_prepare (h : l.Whole closed) (style : Style) {s : Slot} (hs : s.Plain) (col : Nat) :
    Overwritten col l ((l.prepare style col).modify col fun _ => s) where
  length_eq := (length_modify _ _ _).trans (length_prepare style col l)
  here := plain_modify _ hs col
  half hwide := by
    rw [slot_modify_of_ne _ (by omega), slot_prepare h]
    by_cases hlt : col + 1 < l.slots.length
    · -- the right half becomes a space
      rw [if_pos ⟨hwide, rfl, hlt⟩]
      exact Slot.plain_space style
    · -- the line ends before a right half, and there is nothing to make a space of
      rw [if_neg fun h => hlt h.2.2, if_neg (by omega), slot_of_length_le l (Nat.not_lt.1 hlt)]
      exact Slot.plain_fresh
  base hhalf := by
    have hpos := h.pos_of_continuation hhalf
    rw [slot_modify_of_ne _ (by omega), slot_prepare h, if_neg (by omega), if_pos ⟨hhalf, rfl⟩]
    exact Slot.plain_empty style
  others i hcol hhalf hbase := by
    rw [slot_modify_of_ne _ hcol, slot_prepare h, if_neg fun h => hhalf h.1 h.2.1,
      if_neg fun h => hbase h.1 h.2]

/-- **Two slots next to each other that are made a wide character** keep a line whole: they must be
plain before, and a closed line must have room for the right half. -/
theorem Whole.widened (h : l.Whole closed) (hhere : (l.slot col).Plain)
    (hnext : (l.slot (col + 1)).Plain) (hroom : closed → col + 1 < l.slots.length)
    {s : Slot} (hs : s.Sound) (hwide : s.wide = true) (hlength : l'.slots.length = l.slots.length)
    (hslot : ∀ i, l'.slot i = if i = col ∧ i < l.slots.length then s
      else if i = col + 1 ∧ i < l.slots.length then { continuation := true } else l.slot i) :
    l'.Whole closed where
  sound i := by
    rw [hslot]
    split
    · exact hs
    split
    · exact Slot.sound_half
    · exact h.sound i
  opening := by
    rw [hslot]
    -- the first slot is the wide character, or as it was: it is not its right half, which comes later
    split
    · exact hs.single hwide
    · rw [if_neg fun h => by omega]
      exact h.opening
  paired i hi := by
    rw [hlength] at hi
    rw [hslot, hslot]
    -- besides the new pair, the slots before it and after it have to be looked at
    -- the new pair
    by_cases hcol : i = col
    · subst hcol
      have hlt : i + 1 < l.slots.length := hi.elim hroom id
      rw [if_neg (by omega), if_pos ⟨rfl, hlt⟩, if_pos ⟨rfl, by omega⟩, hwide]
    rw [if_neg (c := i = col ∧ _) fun h => hcol h.1]
    -- the right half and the slot after it
    by_cases hnext' : i = col + 1
    · subst hnext'
      rw [if_neg (by omega), if_neg (by omega), h.continuation_of_narrow hnext.wide]
      split
      · rfl
      · exact hnext.wide.symm
    rw [if_neg (c := i = col + 1 ∧ _) fun h => hnext' h.1]
    -- the slot before the wide character
    by_cases hbefore : i + 1 = col
    · subst hbefore
      rw [h.narrow_of_single hi hhere.continuation]
      split
      · exact hs.single hwide
      · rw [if_neg (by omega)]
        exact hhere.continuation
    rw [if_neg (by omega), if_neg (by omega)]
    exact h.paired i hi

@[simp] theorem length_occupy (style : Style) (next : Nat) (s : Slot) (l : Line) :
    (l.occupy style next s).slots.length = l.slots.length := by
  unfold occupy
  dsimp only
  split <;> simp only [length_modify]

@[simp] theorem length_write (cols : Nat) (style : Style) (c : Char) (width col : Nat) (l : Line) :
    (l.write cols style c width col).slots.length = l.slots.length := by
  have hwritten : ((l.prepare style col).modify col fun _ => Slot.ofChar c style).slots.length
      = l.slots.length := (length_modify _ _ _).trans (length_prepare style col l)
  unfold write
  dsimp only
  split
  · -- a wide character takes the next slot as well
    exact (length_occupy _ _ _ _).trans hwritten
  · exact hwritten

theorem slot_occupy (style : Style) (next : Nat) (s : Slot) (l : Line) (i : Nat) :
    (l.occupy style next s).slot i =
      if i = next ∧ i < l.slots.length then s
      else if (l.slot next).wide = true ∧ i = next + 1 ∧ i < l.slots.length then Slot.empty style
      else l.slot i := by
  unfold occupy
  dsimp only
  -- a wide character in the way gives up its right half
  cases (l.slot next).wide with
  | true => simp only [if_true, slot_modify, length_modify, true_and]
  | false => simp only [Bool.false_eq_true, if_false, slot_modify, false_and]

theorem slot_occupy_of_lt (style : Style) (s : Slot) (l : Line) {next i : Nat} (h : i < next) :
    (l.occupy style next s).slot i = l.slot i := by
  rw [slot_occupy, if_neg (by omega), if_neg (by omega)]

theorem overwritten_occupy {next : Nat} (hsingle : (l.slot next).continuation = false) (style : Style)
    {s : Slot} (hs : s.Plain) : Overwritten next l (l.occupy style next s) where
  length_eq := length_occupy style next s l
  here := plain_modify _ hs next
  half hwide := by
    rw [slot_occupy, if_neg (by omega)]
    split
    · exact Slot.plain_empty style
    next h =>
      rw [slot_of_length_le l (by simp only [hwide, true_and] at h; omega)]
      exact Slot.plain_fresh
  base hhalf := by
    rw [hsingle] at hhalf
    cases hhalf
  others i hnext hhalf _ := by
    rw [slot_occupy, if_neg fun h => hnext h.1, if_neg fun h => hhalf h.1 h.2.1]

/-- **The slots after a wide character was put** at `col` are those after its two slots were emptied, but
for these two. -/
theorem slot_put_wide (l : Line) (cols : Nat) (style : Style) (s : Slot) (col i : Nat) :
    ((l.modify col fun _ => s).placeHalf cols style (col + 1)).slot i =
      if i = col ∧ i < l.slots.length then s
      else if i = col + 1 ∧ i < l.slots.length then { continuation := true }
      else ((l.modify col fun _ => Slot.empty style).occupy style (col + 1) (Slot.empty style)).slot i := by
  have hother : ∀ i ≠ col, ∀ s t : Slot,
      (l.modify col fun _ => s).slot i = (l.modify col fun _ => t).slot i := by
    intro i hi s t
    rw [slot_modify_of_ne _ hi, slot_modify_of_ne _ hi]
  change (Line.occupy _ _ _ _).slot i = _
  by_cases hcol : i = col
  · subst hcol
    rw [slot_occupy_of_lt _ _ _ (Nat.lt_succ_self i), slot_occupy_of_lt _ _ _ (Nat.lt_succ_self i),
      slot_modify]
    split
    next => rfl
    next hi => rw [if_neg fun h => by omega, slot_modify, if_neg hi]
  · rw [slot_occupy, slot_occupy, hother (col + 1) (Nat.succ_ne_self col) s (Slot.empty style),
      hother i hcol s (Slot.empty style), length_modify, length_modify,
      if_neg (c := i = col ∧ _) fun h => hcol h.1]
    split <;> rfl

/-- **Writing a character** keeps a line whole. In a closed line a wide character needs room for its
right half. -/
theorem Whole.write (h : l.Whole closed) (cols : Nat) (style : Style) {c : Char} {width : Nat}
    (hwidth : Text.charWidth c = some width)
    (hroom : closed → 1 < width → col + 1 < l.slots.length) :
    (l.write cols style c width col).Whole closed := by
  unfold Line.write
  dsimp only
  split
  next hwide =>
    -- both slots are emptied, one after the other, and then the character is put there
    have hempty := overwritten_prepare h style (Slot.plain_empty style) col
    have hwhole := h.overwritten hempty
    have hsingle := hwhole.continuation_of_narrow hempty.here.wide
    have hfree := overwritten_occupy hsingle style (Slot.plain_empty style)
    have hlength := hfree.length_eq.trans hempty.length_eq
    refine (hwhole.overwritten hfree).widened ?_ hfree.here ?_ (Slot.sound_ofChar hwidth style) ?_ ?_
      fun i => ?_
    · rw [slot_occupy_of_lt _ _ _ (Nat.lt_succ_self col)]
      exact hempty.here
    · intro hclosed
      rw [hlength]
      exact hroom hclosed hwide
    · rw [Slot.wide_ofChar hwidth]
      exact decide_eq_true hwide
    · rw [hlength]
      exact (length_occupy _ _ _ _).trans ((length_modify _ _ _).trans (length_prepare _ _ _))
    · rw [slot_put_wide, hlength, length_prepare]
  next hnarrow =>
    have hplain := Slot.plain_ofChar hwidth (Nat.not_lt.1 hnarrow) style
    exact h.overwritten (overwritten_prepare h style hplain col)

/-- **Combining a mark** with the character in a slot keeps a line whole. -/
theorem Whole.addMark (h : l.Whole closed) {mark : Char} (hmark : Text.charWidth mark = some 0)
    (col : Nat) : (l.modify col fun s => s.addMark mark).Whole closed where
  sound i := by
    rw [slot_modify]
    split
    · exact (h.sound i).addMark hmark
    · exact h.sound i
  opening := by
    rw [slot_modify]
    split
    · rw [Slot.continuation_addMark]
      exact h.opening
    · exact h.opening
  paired i hi := by
    have hwide : ((l.modify col fun s => s.addMark mark).slot i).wide = (l.slot i).wide := by
      rw [slot_modify]
      split
      · exact Slot.wide_addMark _ _
      · rfl
    have hhalf : ((l.modify col fun s => s.addMark mark).slot (i + 1)).continuation
        = (l.slot (i + 1)).continuation := by
      rw [slot_modify]
      split
      · exact Slot.continuation_addMark _ _
      · rfl
    rw [hwide, hhalf]
    rw [length_modify] at hi
    exact h.paired i hi

end

end Line

end FramedShell.Emulator
