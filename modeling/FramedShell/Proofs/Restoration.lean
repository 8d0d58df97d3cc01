import FramedShell.Proofs.Reading

/-!
# The terminal is restored

A surface is used by a sequence of calls: it is prepared and restored, perhaps several times, and drawn
on in between. Whoever uses it keeps one rule: nothing is written before the terminal is prepared, or
once it is restored. Then the terminal is at the end as it was at the start, whatever was drawn,
although preparing and restoring bypass the buffer that drawings wait in.

The argument follows the calls. While the terminal is not prepared, the buffer is empty and a terminal
that has read everything is in its neutral condition. While it is prepared, the alternate screen is
shown, the main screen remembers the plain style, and nothing that waits in the buffer changes either.

## Main definitions

* `Operation` — one call on a surface;
* `IsOrderly` — the rule of use;
* `Operation.IsPlain` — the texts of a call have no control characters;
* `IsKept` — the invariant.

## Main results

* `kept_runAll` — the invariant holds after all calls;
* `terminal_restored` — what a surface leaves behind.
-/

namespace FramedShell.Terminal

open Emulator (Parser)

/-! ### Calls -/

/-- **One call on a surface.** The user may change the size of the terminal at any time. -/
inductive Operation where
  | prepare
  | restore
  | askSize
  | resize (window : Size)
  | setTitle (title : List Char)
  | draw (stroke : Stroke)
deriving DecidableEq

namespace Operation

/-- **Carry out a call.** A stroke that the surface refuses leaves it as it is. -/
def run (s : Surface) : Operation → Surface
  | prepare => s.prepare
  | restore => s.restore
  | askSize => (Display.size s).2
  | resize window => { s with window := window }
  | setTitle title => s.setTitle title
  | draw stroke => (s.draw stroke).2

/-- Carry out several calls. -/
def runAll (s : Surface) (operations : List Operation) : Surface := operations.foldl run s

/-- Whether the terminal is to be restored after a call, if it was so before. -/
def opens (opened : Bool) : Operation → Bool
  | prepare => true
  | restore => false
  | _ => opened

/-- **The terminal has been prepared** and not restored since. -/
def isOpen (operations : List Operation) : Bool := operations.foldl opens false

/-- The texts that a call writes. -/
def texts : Operation → List (List Char)
  | setTitle title => [title]
  | draw (.putCells _ cells) => cells.filterMap fun
    | .drawn text _ => some text
    | .continuation _ => none
  | _ => []

/-- **No control character** is in the texts of a call. -/
def IsPlain (o : Operation) : Prop := ∀ text ∈ o.texts, ∀ c ∈ text, Text.isControl c = false

instance (o : Operation) : Decidable o.IsPlain :=
  decidable_of_iff (o.texts.all (·.all fun c => !Text.isControl c) = true) (by
    simp only [IsPlain, List.all_eq_true, Bool.not_eq_true'])

end Operation

/-- All that a surface was made to write, in the order in which it reaches the terminal. -/
def Surface.output (s : Surface) : List Instruction := s.written.toList ++ s.held.toList

open Operation in
/-- **Nothing is written to a terminal that is not prepared**, except to prepare it. -/
def IsOrderly (opened : Bool) (s : Surface) : List Operation → Prop
  | [] => True
  | o :: rest =>
    (opened = false → o ≠ prepare → (o.run s).output = s.output) ∧
      IsOrderly (o.opens opened) (o.run s) rest

instance decidableIsOrderly (opened : Bool) (s : Surface) :
    (operations : List Operation) → Decidable (IsOrderly opened s operations)
  | [] => isTrue trivial
  | o :: rest =>
    have := decidableIsOrderly (o.opens opened) (o.run s) rest
    inferInstanceAs (Decidable (_ ∧ _))

theorem IsOrderly.take {opened : Bool} {s : Surface} {before after : List Operation}
    (h : IsOrderly opened s (before ++ after)) : IsOrderly opened s before := by
  induction before generalizing opened s with
  | nil => trivial
  -- a beginning of the calls is met by a beginning of what is asked of them
  | cons o rest ih => exact ⟨h.1, ih h.2⟩

/-! ### What cells are drawn with -/

section

variable {P : Instruction → Prop}

/-- What holds of each instruction that a style may need holds of all that set one. -/
theorem Instruction.forall_mem_setStyle (hreset : P .resetStyle) (hbold : P .bold)
    (hitalic : P .italic) (hunderline : P .underline) (hinverse : P .inverse)
    (hforeground : ∀ color, P (.foreground color)) (hbackground : ∀ color, P (.background color))
    (style : Style) : ∀ i ∈ setStyle style, P i := by
  intro i hi
  simp only [setStyle, List.mem_append, List.mem_ite_nil_right, List.mem_cons, List.not_mem_nil,
    or_false] at hi
  obtain ((((rfl | ⟨-, rfl⟩) | ⟨-, rfl⟩) | ⟨-, rfl⟩) | ⟨-, rfl⟩) | (rfl | rfl) := hi
  · -- the reset, the four attributes that the style may have, and the two colors
    exact hreset
  · exact hbold
  · exact hitalic
  · exact hunderline
  · exact hinverse
  · exact hforeground _
  · exact hbackground _

variable {cells : List Cell} (hstyle : ∀ style, ∀ i ∈ Instruction.setStyle style, P i)
  (hprint : ∀ text style, .drawn text style ∈ cells → P (.print text))
include hstyle hprint

/-- **Cells are drawn** by setting their styles and printing their texts. -/
theorem Surface.forall_mem_glyphs (cols : Nat) (current : Option Style) (col : Nat) :
    ∀ i ∈ glyphs cols current col cells, P i := by
  -- the style taken for granted and the column change from cell to cell, so the induction is for all of them
  induction cells generalizing current col with
  | nil => exact nofun
  | cons first rest ih =>
    have hrest : ∀ text style, .drawn text style ∈ rest → P (.print text) :=
      fun text style hmem => hprint text style (List.mem_cons_of_mem first hmem)
    cases first with
    | continuation style => exact ih hrest current (col + 1)
    | drawn text style =>
      intro i hi
      rw [glyphs] at hi
      split at hi
      · -- a cell without room ends the row
        exact absurd hi List.not_mem_nil
      · rw [List.mem_append, List.mem_cons, List.mem_ite_nil_left] at hi
        -- the selection of its style, if it is due, its text, and what the cells after it need
        obtain ⟨-, hi⟩ | rfl | hi := hi
        · exact hstyle style i hi
        · exact hprint text style List.mem_cons_self
        · exact ih hrest _ _ i hi

/-- **A row is drawn** by going to its start, drawing its cells and returning to the plain style. -/
theorem Surface.forall_mem_row {start : Position} (hmove : P (.moveTo start)) (hreset : P .resetStyle)
    (size : Size) : ∀ i ∈ row size start cells, P i := by
  intro i hi
  unfold row at hi
  split at hi
  · -- outside of the size that was seen nothing is drawn
    exact absurd hi List.not_mem_nil
  · rw [List.mem_append, List.mem_cons] at hi
    -- the place, the cells, or one of the two resets at the end
    obtain (rfl | hi) | hi := hi
    · exact hmove
    · exact forall_mem_glyphs hstyle hprint _ _ _ i hi
    · rw [List.mem_cons, List.mem_singleton, or_self] at hi
      rw [hi]
      exact hreset

end

/-! ### Drawings -/

/-- **An instruction of a drawing** has no control characters and leaves the choice of the screen
alone. -/
def Instruction.IsDrawing (i : Instruction) : Prop :=
  i.IsClean ∧ i ≠ .enterAlternateScreen ∧ i ≠ .leaveAlternateScreen

theorem Instruction.isDrawing_resetStyle : resetStyle.IsDrawing := ⟨trivial, nofun, nofun⟩

theorem Instruction.isDrawing_moveTo (place : Position) : (moveTo place).IsDrawing :=
  ⟨trivial, nofun, nofun⟩

theorem Instruction.isDrawing_setStyle (style : Style) : ∀ i ∈ setStyle style, i.IsDrawing :=
  forall_mem_setStyle isDrawing_resetStyle ⟨trivial, nofun, nofun⟩ ⟨trivial, nofun, nofun⟩
    ⟨trivial, nofun, nofun⟩ ⟨trivial, nofun, nofun⟩ (fun _ => ⟨trivial, nofun, nofun⟩)
    (fun _ => ⟨trivial, nofun, nofun⟩) style

namespace Surface

variable {s s' s'' : Surface}

/-- **A drawing adds to what is written and to what waits**, and to nothing else. -/
structure Grows (s s' : Surface) : Prop where
  prepared : s'.prepared = s.prepared
  held : ∀ i ∈ s'.held.toList, i.IsDrawing
  written : ∃ more : List Instruction, (∀ i ∈ more, i.IsDrawing) ∧
    s'.written.toList = s.written.toList ++ more

theorem Grows.trans (h : s.Grows s') (h' : s'.Grows s'') : s.Grows s'' := by
  obtain ⟨more, hmore, hwritten⟩ := h.written
  obtain ⟨more', hmore', hwritten'⟩ := h'.written
  refine ⟨h'.prepared.trans h.prepared, h'.held, more ++ more', ?_, ?_⟩
  · intro i hi
    exact (List.mem_append.1 hi).elim (hmore i) (hmore' i)
  · rw [hwritten', hwritten, List.append_assoc]

section

variable (hheld : ∀ i ∈ s.held.toList, i.IsDrawing)

include hheld

theorem grows_refl : s.Grows s := ⟨rfl, hheld, [], nofun, (List.append_nil _).symm⟩

theorem grows_flush : s.Grows s.flush :=
  ⟨rfl, nofun, s.held.toList, hheld, Array.toList_append⟩

theorem grows_makeRoom (size : Nat) : s.Grows (s.makeRoom size) := by
  unfold makeRoom
  split
  · -- the buffer is full, and what waits is written
    exact grows_flush hheld
  · exact grows_refl hheld

theorem grows_hold {i : Instruction} (hi : i.IsDrawing) : s.Grows (s.hold i) := by
  have hroom := grows_makeRoom hheld i.size
  refine hroom.trans ?_
  unfold hold
  dsimp only
  split
  · -- it could never fit and is written past the buffer
    refine ⟨rfl, hroom.held, [i], fun j hj => ?_, Array.toList_push⟩
    rw [List.mem_singleton.1 hj]
    exact hi
  · -- the instruction waits behind the others
    refine ⟨rfl, fun j hj => ?_, [], nofun, (List.append_nil _).symm⟩
    rw [Array.toList_push, List.mem_append, List.mem_singleton] at hj
    obtain hj | rfl := hj
    · exact hroom.held j hj
    · exact hi

theorem grows_holdAll {instructions : List Instruction} (h : ∀ i ∈ instructions, i.IsDrawing) :
    s.Grows (s.holdAll instructions) := by
  induction instructions generalizing s with
  | nil => exact grows_refl hheld
  | cons i rest ih =>
    have hfirst := grows_hold hheld (h i List.mem_cons_self)
    exact hfirst.trans (ih hfirst.held fun j hj => h j (List.mem_cons_of_mem i hj))

end

/-- **A call that neither prepares nor restores** the terminal draws. -/
theorem grows_run (hheld : ∀ i ∈ s.held.toList, i.IsDrawing) {o : Operation} (hplain : o.IsPlain)
    (hprepare : o ≠ .prepare) (hrestore : o ≠ .restore) : s.Grows (o.run s) := by
  cases o with
  | prepare => exact absurd rfl hprepare
  | restore => exact absurd rfl hrestore
  -- neither a new size nor asking for it writes anything
  | askSize => exact ⟨rfl, hheld, [], nofun, (List.append_nil _).symm⟩
  | resize window => exact ⟨rfl, hheld, [], nofun, (List.append_nil _).symm⟩
  | setTitle title =>
    have hhold := grows_hold hheld (i := .title title)
      ⟨hplain title (List.mem_singleton_self title), nofun, nofun⟩
    exact hhold.trans (grows_flush hhold.held)
  | draw stroke =>
    rw [Operation.run]
    -- each stroke is made of instructions that draw
    cases stroke with
    | putCells start cells =>
      have hprint : ∀ text style, .drawn text style ∈ cells → (Instruction.print text).IsDrawing :=
        fun text style hmem => ⟨hplain text (List.mem_filterMap.2 ⟨_, hmem, rfl⟩), nofun, nofun⟩
      exact grows_holdAll hheld (forall_mem_row Instruction.isDrawing_setStyle hprint
        (Instruction.isDrawing_moveTo start) Instruction.isDrawing_resetStyle s.seen)
    | setCursor place =>
      unfold draw
      dsimp only
      -- a place that is out of range is not gone to, and what the surface holds is as before
      split
      · exact grows_hold hheld (Instruction.isDrawing_moveTo place)
      · exact grows_refl hheld
    | setCursorVisible visible =>
      unfold draw setCursorVisible
      dsimp only
      -- only a change of what is remembered is sent
      split
      · exact grows_refl hheld
      · have hhold := grows_hold (s := { s with cursorShown := visible }) hheld
          (i := if visible then .showCursor else .hideCursor)
          (by cases visible <;> exact ⟨trivial, nofun, nofun⟩)
        exact ⟨hhold.prepared, hhold.held, hhold.written⟩
    | clear =>
      refine grows_holdAll hheld fun i hi => ?_
      simp only [List.mem_cons, List.not_mem_nil, or_false] at hi
      obtain rfl | rfl | rfl := hi <;> exact ⟨trivial, nofun, nofun⟩
    | flush => exact grows_flush hheld
    | beyond => exact grows_refl hheld

/-- **Where nothing waits and nothing is added, nothing is written.** -/
theorem Grows.eq_of_output (h : s.Grows s') (hheld : s.held = #[]) (houtput : s'.output = s.output) :
    s'.held = #[] ∧ s'.written = s.written := by
  obtain ⟨more, -, hwritten⟩ := h.written
  -- what is added is at the end of the output, whether it waits or not
  have hnone : more ++ s'.held.toList = [] := by
    unfold output at houtput
    rw [hwritten, hheld, List.append_nil, List.append_assoc] at houtput
    exact List.append_right_eq_self.1 houtput
  obtain ⟨rfl, hempty⟩ := List.append_eq_nil_iff.1 hnone
  refine ⟨Array.toList_eq_nil_iff.1 hempty, ?_⟩
  rw [← Array.toList_inj, hwritten, List.append_nil]

end Surface

/-! ### The condition of the terminal -/

namespace Condition

/-- The condition of a terminal that nothing was written to. -/
def neutral : Condition := {}

/-- **The main screen is left for the alternate one**, with the plain style to return to. -/
structure IsAway (c : Condition) : Prop where
  alternate : c.alternate = true
  mainPen : c.mainPen = .plain

variable {c : Condition}

/-- A drawing happens on the screen that is shown. -/
theorem IsAway.obey (h : c.IsAway) {i : Instruction} (hi : i.IsDrawing) : (c.obey i).IsAway := by
  -- these two are no drawing
  cases i with
  | enterAlternateScreen => exact absurd rfl hi.2.1
  | leaveAlternateScreen => exact absurd rfl hi.2.2
  | _ => exact ⟨h.alternate, h.mainPen⟩

theorem IsAway.obeyAll (h : c.IsAway) {instructions : List Instruction}
    (hdrawing : ∀ i ∈ instructions, i.IsDrawing) : (c.obeyAll instructions).IsAway := by
  induction instructions generalizing c with
  | nil => exact h
  | cons i rest ih =>
    exact ih (h.obey (hdrawing i List.mem_cons_self)) fun j hj =>
      hdrawing j (List.mem_cons_of_mem i hj)

/-- Preparing shows the alternate screen, also where it is shown already. -/
theorem isAway_preparation (h : c = neutral ∨ c.IsAway) :
    (c.obeyAll Surface.preparation).IsAway := by
  -- the terminal is neutral, or the main screen was left before
  obtain rfl | h := h
  · exact ⟨rfl, rfl⟩
  · refine ⟨rfl, ?_⟩
    -- the style of the main screen was remembered before
    change (if c.alternate then c.mainPen else c.pen) = .plain
    rw [h.alternate, if_pos rfl, h.mainPen]

/-- **Restoring brings the terminal back**, whatever was drawn. -/
theorem IsAway.restoration (h : c.IsAway) : c.obeyAll Surface.restoration = neutral := by
  change (⟨false, true, true, c.mainPen, c.mainPen⟩ : Condition) = neutral
  rw [h.mainPen]
  rfl

end Condition

/-! ### The invariant -/

/-- The condition of a terminal that has read everything that was written to it. -/
def Surface.condition (s : Surface) : Condition := Condition.neutral.obeyAll s.written.toList

/-- **A surface whose terminal is not prepared**: nothing waits, and the terminal is neutral. Either
nothing was ever written, or the terminal was restored last. -/
structure IsShut (s : Surface) : Prop where
  prepared : s.prepared = false
  held : s.held = #[]
  clean : ∀ i ∈ s.written.toList, i.IsClean
  neutral : s.condition = .neutral
  restored : s.written = #[] ∨ Surface.restoration <:+ s.written.toList

/-- **A surface whose terminal is prepared**: a drawing waits, and the alternate screen is shown. -/
structure IsOpened (s : Surface) : Prop where
  prepared : s.prepared = true
  held : ∀ i ∈ s.held.toList, i.IsDrawing
  clean : ∀ i ∈ s.written.toList, i.IsClean
  away : s.condition.IsAway

/-- **The invariant** of a surface. -/
def IsKept (opened : Bool) (s : Surface) : Prop := if opened then IsOpened s else IsShut s

section

variable {s s' : Surface}

theorem IsOpened.grows (h : IsOpened s) (hgrows : s.Grows s') : IsOpened s' := by
  obtain ⟨more, hmore, hwritten⟩ := hgrows.written
  refine ⟨hgrows.prepared.trans h.prepared, hgrows.held, fun i hi => ?_, ?_⟩
  · -- what was written before is clean, and so is every drawing
    rw [hwritten, List.mem_append] at hi
    exact hi.elim (h.clean i) fun hi => (hmore i hi).1
  · -- the terminal obeys what was added after all that was there
    unfold Surface.condition
    rw [hwritten, Condition.obeyAll_append]
    exact h.away.obeyAll hmore

theorem IsShut.of_eq (h : IsShut s) (hprepared : s'.prepared = s.prepared)
    (heq : s'.held = #[] ∧ s'.written = s.written) : IsShut s' := by
  refine ⟨hprepared.trans h.prepared, heq.1, ?_, ?_, ?_⟩
  · rw [heq.2]
    exact h.clean
  · rw [← h.neutral, Surface.condition, heq.2, Surface.condition]
  · rw [heq.2]
    exact h.restored

/-- Preparing the terminal, again or for the first time. -/
theorem isOpened_prepare (h : IsShut s ∨ IsOpened s) : IsOpened s.prepare := by
  have hwritten : s.prepare.written.toList = s.written.toList ++ Surface.preparation :=
    Array.toList_appendList
  refine ⟨rfl, ?_, fun i hi => ?_, ?_⟩
  · -- what waits was a drawing before, if anything was waiting
    obtain h | h := h
    · change ∀ i ∈ s.held.toList, i.IsDrawing
      rw [h.held]
      exact nofun
    · exact h.held
  · -- the preparation itself carries no text
    rw [hwritten, List.mem_append] at hi
    obtain hi | hi := hi
    · exact h.elim (fun h => h.clean i hi) fun h => h.clean i hi
    · simp only [Surface.preparation, List.mem_cons, List.not_mem_nil, or_false] at hi
      obtain rfl | rfl | rfl | rfl := hi <;> trivial
  · unfold Surface.condition
    rw [hwritten, Condition.obeyAll_append]
    exact Condition.isAway_preparation (h.imp IsShut.neutral IsOpened.away)

theorem IsShut.restore_eq (h : IsShut s) : s.restore = s := by
  unfold Surface.restore
  rw [h.prepared]
  rfl

/-- **Restoring the terminal** writes what waits, and then the restoration. -/
theorem IsOpened.restore (h : IsOpened s) : IsShut s.restore := by
  have hrestore : s.restore = { s.flush.writeNow Surface.restoration with prepared := false } := by
    unfold Surface.restore
    rw [h.prepared]
    rfl
  have hwritten : s.restore.written.toList
      = (s.written.toList ++ s.held.toList) ++ Surface.restoration := by
    rw [hrestore]
    exact Array.toList_appendList.trans (congrArg (· ++ _) Array.toList_append)
  refine ⟨by rw [hrestore], by rw [hrestore]; rfl, fun i hi => ?_, ?_, .inr ⟨_, hwritten.symm⟩⟩
  · -- what was written, what waited, and the restoration are all free of control characters
    rw [hwritten, List.mem_append, List.mem_append] at hi
    obtain (hi | hi) | hi := hi
    · exact h.clean i hi
    · exact (h.held i hi).1
    · simp only [Surface.restoration, List.mem_cons, List.not_mem_nil, or_false] at hi
      obtain rfl | rfl | rfl | rfl | rfl := hi <;> trivial
  · -- the drawing that waited is obeyed on the alternate screen, and then the restoration
    unfold Surface.condition
    rw [hwritten, Condition.obeyAll_append, Condition.obeyAll_append]
    exact (h.away.obeyAll h.held).restoration

theorem IsShut.close (h : IsShut s) : s.close.written = s.written ∧ IsShut s.close := by
  have hwritten : s.close.written = s.written := by
    -- there is nothing to restore, and the last flush has nothing to write
    rw [Surface.close, h.restore_eq]
    change s.written ++ s.held = s.written
    rw [h.held, Array.append_empty]
  refine ⟨hwritten, h.of_eq ?_ ⟨rfl, hwritten⟩⟩
  rw [Surface.close, h.restore_eq]
  rfl

/-- Closing a surface that is prepared restores the terminal. -/
theorem IsOpened.close (h : IsOpened s) : IsShut s.close := by
  -- closing restores the terminal, which it would do but once
  have hclose : s.close = s.restore.close := by
    rw [Surface.close, Surface.close, h.restore.restore_eq]
  rw [hclose]
  exact h.restore.close.2

/-- **The invariant is kept by every call.** -/
theorem kept_run {opened : Bool} (h : IsKept opened s) {o : Operation} (hplain : o.IsPlain)
    (horderly : opened = false → o ≠ .prepare → (o.run s).output = s.output) :
    IsKept (o.opens opened) (o.run s) := by
  by_cases hprepare : o = .prepare
  · subst hprepare
    refine isOpened_prepare ?_
    cases opened with
    | false => exact .inl h
    | true => exact .inr h
  by_cases hrestore : o = .restore
  · subst hrestore
    cases opened with
    -- a terminal that is not prepared is left alone
    | false =>
      change IsShut s.restore
      rw [IsShut.restore_eq h]
      exact h
    | true => exact IsOpened.restore h
  -- every other call draws, and leaves open what it finds open
  have hopens : o.opens opened = opened := by
    cases o with
    | prepare => exact absurd rfl hprepare
    | restore => exact absurd rfl hrestore
    | _ => rfl
  rw [hopens]
  cases opened with
  | true => exact IsOpened.grows h (Surface.grows_run h.held hplain hprepare hrestore)
  | false =>
    -- the rule of use says that it adds nothing here
    have hheld : ∀ i ∈ s.held.toList, i.IsDrawing := by
      rw [IsShut.held h]
      exact nofun
    have hgrows := Surface.grows_run hheld hplain hprepare hrestore
    exact IsShut.of_eq h hgrows.prepared (hgrows.eq_of_output h.held (horderly rfl hprepare))

/-- **The invariant holds after all calls.** -/
theorem kept_runAll {opened : Bool} (h : IsKept opened s) {operations : List Operation}
    (hplain : ∀ o ∈ operations, o.IsPlain) (horderly : IsOrderly opened s operations) :
    IsKept (operations.foldl Operation.opens opened) (Operation.runAll s operations) := by
  induction operations generalizing opened s with
  | nil => exact h
  | cons o rest ih =>
    exact ih (kept_run h (hplain o List.mem_cons_self) horderly.1)
      (fun o' ho' => hplain o' (List.mem_cons_of_mem o ho')) horderly.2

theorem isKept_new (window : Size) : IsKept false { window := window } :=
  ⟨rfl, rfl, nofun, rfl, .inl rfl⟩

end

/-! ### The end -/

/-- **What a surface leaves behind** once it is no longer used. -/
structure IsRestored (s : Surface) : Prop where
  /-- The bytes that were written are complete, and a neutral terminal that reads them is neutral
  again. -/
  neutral : ∃ parser commands,
    ({} : Parser).scan (Rehearsal.bytesOf s.written.toList) = (parser, commands) ∧
      parser.state = .ground ∧ commands.foldl Condition.perform .neutral = .neutral
  /-- Nothing waits any more. -/
  held : s.held = #[]
  /-- The last bytes are those that leave the alternate screen, if there are any. -/
  last : s.written = #[] ∨ Surface.restoration <:+ s.written.toList

theorem IsShut.isRestored {s : Surface} (h : IsShut s) : IsRestored s := by
  obtain ⟨parser, commands, hscan, hground, hcommands⟩ := reads_bytesOf h.clean {} rfl
  exact ⟨⟨parser, commands, hscan, hground, (hcommands _).trans h.neutral⟩, h.held, h.restored⟩

/-- **The terminal is always restored.** Whatever calls are made on a surface before it is closed, if
nothing is written while the terminal is not prepared: a terminal that reads all that was written is
neutral again, nothing is written after the alternate screen is left, and wherever the terminal is not
prepared, restoring it and closing the surface write nothing. -/
theorem terminal_restored (window : Size) (operations : List Operation)
    (hplain : ∀ o ∈ operations, o.IsPlain)
    (horderly : IsOrderly false { window := window } operations) :
    IsRestored (Operation.runAll { window := window } operations).close ∧
      ∀ before after, operations = before ++ after → Operation.isOpen before = false →
        let s := Operation.runAll { window := window } before
        s.restore = s ∧ s.close.written = s.written := by
  constructor
  · have hkept := kept_runAll (isKept_new window) hplain horderly
    unfold IsKept at hkept
    split at hkept
    · exact hkept.close.isRestored
    · exact hkept.close.2.isRestored
  · rintro before after rfl hopen
    have hkept := kept_runAll (isKept_new window)
      (fun o ho => hplain o (List.mem_append_left after ho)) horderly.take
    rw [show before.foldl Operation.opens false = false from hopen] at hkept
    exact ⟨IsShut.restore_eq hkept, (IsShut.close hkept).1⟩

/-- A terminal that is prepared twice in a row and restored twice, and then prepared once more. Drawings
wait when it is prepared again and when the surface is closed, and the cursor is hidden to the end. -/
def usedAgain : List Operation :=
  [.restore, .draw .flush, .prepare, .askSize, .setTitle ['a'], .draw (.setCursorVisible false),
    .draw (.putCells ⟨1, 2⟩ [.drawn ['x'] { foreground := .indexed 3, attributes := { bold := true } }]),
    .prepare, .resize ⟨5, 9⟩, .draw (.setCursor ⟨0, 0⟩), .restore, .restore, .prepare, .draw .clear]

theorem terminal_restored_usedAgain :
    (∀ o ∈ usedAgain, o.IsPlain) ∧ IsOrderly false { window := ⟨24, 80⟩ } usedAgain ∧
      IsRestored (Operation.runAll { window := ⟨24, 80⟩ } usedAgain).close ∧
        (Operation.runAll { window := ⟨24, 80⟩ } (usedAgain.take 12)).restore
          = Operation.runAll { window := ⟨24, 80⟩ } (usedAgain.take 12) := by
  have hplain : ∀ o ∈ usedAgain, o.IsPlain := by decide
  have horderly : IsOrderly false { window := ⟨24, 80⟩ } usedAgain := by decide +kernel
  have hrestored := terminal_restored ⟨24, 80⟩ usedAgain hplain horderly
  refine ⟨hplain, horderly, hrestored.1, ?_⟩
  exact (hrestored.2 (usedAgain.take 12) (usedAgain.drop 12) (List.take_append_drop 12 _).symm
    (by decide)).1

end FramedShell.Terminal
