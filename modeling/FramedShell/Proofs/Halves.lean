import FramedShell.Engine
import FramedShell.Proofs.Fitting
import FramedShell.Proofs.Pages

/-!
# The rows of the emulator take as many columns as they have cells

A row of the emulator's grid, fitted to the viewport, is drawn from the viewport's left edge to its right
edge and no further. For that every wide character of the screen must keep its right half, whatever the
child writes and however the display is resized.

One defect stands against it. When the screen gets fewer columns, a wide character may lose its right
half at the new end of its line. Fitting the row repairs that, as long as the character ends it. But
when the end of the line moves on — the screen gets more columns again, or characters before it are
deleted — the character is inside the row, and the row takes a column more than it has cells. So the
theorem asks of a call that moves the end of a line that no line ends in a wide character then.

## Main definitions

* `Screen.Whole`, `Emulator.Whole` — both pages are whole;
* `Emulator.Closed` — no line of either page ends in a wide character;
* `Emulator.Admits` — the screen is closed whenever one of the bytes makes it delete characters;
* `Engine.Call`, `Engine.apply` — what is done to an engine: bytes are read, or it is resized;
* `Engine.Admits` — the call leaves the ends of lines alone, or finds the screen closed.

## Main results

* `Screen.Whole.perform` — every command keeps the screen whole;
* `Emulator.Whole.admits_of_closed` — a closed emulator admits all bytes;
* `rows_fill` — the rows of the emulator, fitted to any number of columns, take exactly that many.
-/

namespace FramedShell

namespace Emulator

/-! ### Commands -/

/-- Whether a command deletes characters. -/
def Command.deletesChars : Command → Bool
  | .sequence none _ final => final == 0x50
  | _ => false

/-- The byte of the letter that ends the sequence for deleting characters. -/
theorem byte_of_ofNat {b : UInt8} (h : Char.ofNat b.toNat = 'P') : b = 0x50 := by
  -- the code of a byte is one of a character, so that the character determines the byte
  have hvalid : b.toNat.isValidChar := Or.inl (Nat.lt_trans b.toNat_lt (by decide))
  have htoNat := congrArg Char.toNat h
  rw [Char.ofNat, dif_pos hvalid] at htoNat
  exact UInt8.toNat_inj.1 htoNat

namespace Screen

/-- **A whole screen**: both its pages are. -/
structure Whole (closed : Prop) (e : Extent) (s : Screen) : Prop where
  main : s.main.Whole closed e
  alternate : s.alternate.Whole closed e

section

variable {closed : Prop} {e : Extent} {s : Screen}

theorem whole_blank (closed : Prop) (e : Extent) : (blank e).Whole closed e :=
  ⟨Page.whole_blank closed e, Page.whole_blank closed e⟩

theorem Whole.mono (h : s.Whole closed e) {closed' : Prop} (himp : closed' → closed) :
    s.Whole closed' e :=
  ⟨h.main.mono himp, h.alternate.mono himp⟩

/-- What keeps pages whole keeps the screen whole when done on the page that is shown. -/
theorem Whole.onPage (h : s.Whole closed e) {f : Page → Page}
    (hf : ∀ p : Page, p.Whole closed e → (f p).Whole closed e) : (s.onPage f).Whole closed e := by
  unfold Screen.onPage
  -- one of the two pages is shown, and the other one stays as it was
  split
  · exact ⟨h.main, hf _ h.alternate⟩
  · exact ⟨hf _ h.main, h.alternate⟩

/-- Moving the cursor of the page that is shown keeps the lines as they are. -/
theorem Whole.moved (h : s.Whole closed e) {f : Page → Page} (hf : ∀ p : Page, (f p).lines = p.lines) :
    (s.onPage f).Whole closed e :=
  h.onPage fun p hp l hl => hp l (hf p ▸ hl)

theorem Whole.save (h : s.Whole closed e) : s.save.Whole closed e :=
  have hpage := h.moved (f := Page.save) fun _ => rfl
  ⟨hpage.main, hpage.alternate⟩

theorem Whole.restore (h : s.Whole closed e) : s.restore.Whole closed e :=
  have hpage := h.moved (f := Page.restore) fun _ => rfl
  ⟨hpage.main, hpage.alternate⟩

theorem Whole.control (h : s.Whole closed e) (b : UInt8) : (control e b s).Whole closed e := by
  unfold Screen.control
  generalize b.toNat = n
  split
  -- backspace, tabulator and carriage return only move the cursor; the line feeds may scroll the page
  · exact h.moved fun _ => rfl
  · exact h.moved fun _ => rfl
  · exact h.onPage fun p hp => hp.lineFeed
  · exact h.onPage fun p hp => hp.lineFeed
  · exact h.onPage fun p hp => hp.lineFeed
  · exact h.moved fun _ => rfl
  · exact h

theorem Whole.escape (h : s.Whole closed e) (final : UInt8) : (escape e final s).Whole closed e := by
  unfold Screen.escape
  generalize final.toNat = n
  split
  -- saving, restoring and a reverse line feed keep what is there, and a reset blanks it
  · exact h.save
  · exact h.restore
  · exact h.onPage fun p hp => hp.reverseLineFeed
  · exact whole_blank closed e
  · exact h

theorem Whole.setMode (h : s.Whole closed e) (mode : List Nat) : (setMode e mode s).Whole closed e := by
  unfold Screen.setMode
  split
  -- the origin mode moves the cursor, and two modes are flags of the screen
  · exact h.moved fun _ => rfl
  · exact ⟨h.main, h.alternate⟩
  · exact ⟨h.main, h.alternate⟩
  · -- entering the alternate screen saves the cursor and blanks the page
    exact ⟨h.save.main, Page.whole_blank closed e⟩
  · exact h

theorem Whole.resetMode (h : s.Whole closed e) (mode : List Nat) :
    (resetMode e mode s).Whole closed e := by
  unfold Screen.resetMode
  split
  · exact h.moved fun _ => rfl
  · exact ⟨h.main, h.alternate⟩
  · exact ⟨h.main, h.alternate⟩
  · -- back on the main page, its cursor is restored
    exact Whole.restore (s := { s with onAlternate := false }) ⟨h.main, h.alternate⟩
  · exact h

theorem Whole.sequence (h : s.Whole closed e) (params : List (List Nat)) (final : UInt8)
    (hdelete : final = 0x50 → closed ∨ e.cols ≤ 1) : (s.sequence e params final).Whole closed e := by
  unfold Screen.sequence
  dsimp only
  split
  · exact h.onPage fun p hp => hp.insertChars _
  -- the four ways to move the cursor, and the two to place it
  · exact h.moved fun _ => rfl
  · exact h.moved fun _ => rfl
  · exact h.moved fun _ => rfl
  · exact h.moved fun _ => rfl
  · exact h.moved fun _ => rfl
  · exact h.moved fun _ => rfl
  · exact h.onPage fun p hp => hp.eraseDisplay _ _
  · exact h.onPage fun p hp => hp.eraseLine _ _
  · exact h.onPage fun p hp => hp.insertLines _
  · exact h.onPage fun p hp => hp.deleteLines _
  -- the one sequence that moves right halves to the end of a line
  next hfinal =>
    exact h.onPage fun p hp => hp.deleteChars (hdelete (byte_of_ofNat hfinal)) _
  · exact h.onPage fun p hp => hp.scrollUp _
  · exact h.onPage fun p hp => hp.scrollDown _
  · exact h.onPage fun p hp => hp.eraseChars _ _
  · exact h.moved fun _ => rfl
  · -- selecting a style does not touch the pages
    exact ⟨h.main, h.alternate⟩
  · exact h.onPage fun p hp => hp.setRegion _ _
  · exact h

theorem Whole.privateSequence (h : s.Whole closed e) (params : List (List Nat)) (final : UInt8) :
    (s.privateSequence e params final).Whole closed e := by
  unfold Screen.privateSequence
  split
  · exact h.onPage fun p hp => hp.eraseDisplay _ _
  · exact h.onPage fun p hp => hp.eraseLine _ _
  · -- the modes of one sequence are set one after the other
    induction params generalizing s with
    | nil => exact h
    | cons mode rest ih => exact ih (h.setMode mode)
  · induction params generalizing s with
    | nil => exact h
    | cons mode rest ih => exact ih (h.resetMode mode)
  · exact h

/-- **Every command keeps the screen whole.** Deleting characters does so on a closed screen. -/
theorem Whole.perform (h : s.Whole closed e) (hclosed : closed → 1 < e.cols) (c : Command)
    (hdelete : c.deletesChars = true → closed ∨ e.cols ≤ 1) : (s.perform e c).Whole closed e := by
  cases c with
  | print c => exact h.onPage fun p hp => hp.print hclosed s.pen c
  | control b => exact h.control b
  | escape leader final =>
    -- an escape with an intermediate byte is ignored
    cases leader with
    | none => exact h.escape final
    | some leader => exact h
  | sequence leader params final =>
    cases leader with
    | none => exact h.sequence params final fun hfinal => hdelete (beq_iff_eq.2 hfinal)
    -- of the leading bytes only the question mark has a meaning
    | some leader =>
      unfold Screen.perform
      dsimp only
      split
      · exact h.privateSequence params final
      · exact h

end

end Screen

/-! ### The cells of a line -/

/-- **The cells of a whole line are a row in pairs.** -/
theorem Line.Whole.paired_cells {closed : Prop} {l : Line} (h : l.Whole closed) :
    Row.Paired (l.slots.map Slot.cell) where
  narrow c hc := by
    -- each cell is that of a slot, and a sound slot takes two columns at most
    obtain ⟨s, hs, rfl⟩ := List.mem_map.1 hc
    obtain ⟨i, hi, rfl⟩ := List.mem_iff_getElem.1 hs
    rw [← Line.slot_eq_getElem l hi]
    exact (h.sound i).width_cell_le
  opening c hc := by
    rw [List.head?_map, Option.mem_def, Option.map_eq_some_iff] at hc
    obtain ⟨s, hs, rfl⟩ := hc
    have hslot : l.slot 0 = s := by
      unfold Line.slot
      rw [← List.head?_eq_getElem?, hs]
      rfl
    rw [Slot.isContinuation_cell, ← hslot]
    exact h.opening
  paired := by
    -- the link between two cells is the pairing of their slots
    refine List.isChain_iff_getElem.2 fun i hi => ?_
    rw [List.length_map] at hi
    rw [List.getElem_map, List.getElem_map, ← Line.slot_eq_getElem l hi,
      ← Line.slot_eq_getElem l (Nat.lt_of_succ_lt hi), Slot.isContinuation_cell,
      (h.sound i).width_cell_eq_two, h.paired i (Or.inr hi)]

/-! ### The emulator -/

/-- **A closed emulator**: in no line of either page does a wide character stand in the last column. -/
def Closed (t : Emulator) : Prop :=
  ∀ l ∈ t.screen.main.lines ++ t.screen.alternate.lines, (l.slot (t.size.cols.toNat - 1)).wide = false

instance (t : Emulator) : Decidable t.Closed :=
  List.decidableBAll (fun l : Line => (l.slot (t.size.cols.toNat - 1)).wide = false) _

/-- Whether the next byte makes the emulator delete characters. -/
def Deletes (t : Emulator) (b : UInt8) : Prop := ∃ c ∈ (t.parser.next b).2, c.deletesChars = true

/-- **The emulator admits the bytes**: whenever one of them makes it delete characters, the screen is
closed then. On a screen of one column the end of a line is its beginning, and nothing moves there. -/
def Admits : Emulator → List UInt8 → Prop
  | _, [] => True
  | t, b :: rest => (t.Deletes b → 1 < t.size.cols.toNat → t.Closed) ∧ (t.feed [b]).Admits rest

instance (t : Emulator) (b : UInt8) : Decidable (t.Deletes b) :=
  inferInstanceAs (Decidable (∃ c ∈ (t.parser.next b).2, c.deletesChars = true))

instance decidableAdmits : (t : Emulator) → (bytes : List UInt8) → Decidable (t.Admits bytes)
  | _, [] => isTrue trivial
  | t, b :: rest =>
    have := decidableAdmits (t.feed [b]) rest
    inferInstanceAs (Decidable (_ ∧ _))

/-- **A whole emulator**: its screen is. -/
def Whole (t : Emulator) : Prop := t.screen.Whole False (extentOf t.size)

section

variable {t : Emulator}

theorem whole_new (size : Size) : (new size).Whole := Screen.whole_blank False _

theorem Whole.close (h : t.Whole) (hclosed : t.Closed) (closed : Prop) :
    t.screen.Whole closed (extentOf t.size) := by
  -- the columns of the emulator are the slots of its lines, so the last column is the last slot
  have hpage : ∀ {p : Page}, p.Whole False (extentOf t.size) →
      (∀ l ∈ p.lines, l ∈ t.screen.main.lines ++ t.screen.alternate.lines) →
      p.Whole closed (extentOf t.size) := by
    intro p hp hmem l hl
    obtain ⟨hlength, hwhole⟩ := hp l hl
    refine ⟨hlength, hwhole.close ?_ closed⟩
    rw [hlength]
    exact hclosed l (hmem l hl)
  exact ⟨hpage h.main fun _ => List.mem_append_left _, hpage h.alternate fun _ => List.mem_append_right _⟩

/-- **One byte** keeps the screen whole. If it makes the emulator delete characters the screen must be
closed, unless it has one column only. -/
theorem Screen.Whole.feed_byte {closed : Prop} (h : t.screen.Whole closed (extentOf t.size))
    (hcols : closed → 1 < t.size.cols.toNat) (b : UInt8)
    (hdelete : t.Deletes b → closed ∨ t.size.cols.toNat ≤ 1) :
    (t.feed [b]).screen.Whole closed (extentOf t.size) := by
  change (step (extentOf t.size) (t.parser, t.screen) b).2.Whole closed (extentOf t.size)
  unfold Deletes at hdelete
  unfold step
  cases hnext : t.parser.next b with
  | mk parser command =>
    rw [hnext] at hdelete
    cases command with
    -- the byte completes no command
    | none => exact h
    | some command => exact h.perform hcols command fun hdel => hdelete ⟨command, rfl, hdel⟩

theorem feed_cons (b : UInt8) (rest : List UInt8) (t : Emulator) :
    t.feed (b :: rest) = (t.feed [b]).feed rest := feed_append [b] rest t

/-- **Reading bytes** that the emulator admits keeps it whole. -/
theorem Whole.feed (h : t.Whole) (bytes : List UInt8) (hadmits : t.Admits bytes) :
    (t.feed bytes).Whole := by
  induction bytes generalizing t with
  | nil => exact h
  | cons b rest ih =>
    obtain ⟨hbyte, hrest⟩ := hadmits
    rw [feed_cons]
    refine ih ?_ hrest
    -- only a byte that moves the ends of lines needs the screen closed, and there it is
    by_cases hends : t.Deletes b ∧ 1 < t.size.cols.toNat
    · have hclosed := h.close (hbyte hends.1 hends.2) True
      exact (hclosed.feed_byte (fun _ => hends.2) b fun _ => Or.inl trivial).mono False.elim
    · -- on a screen of one column, or without a deletion, the line need not be closed
      exact Screen.Whole.feed_byte h False.elim b fun hdelete =>
        Or.inr (Nat.not_lt.1 fun hlt => hends ⟨hdelete, hlt⟩)

/-- **A closed emulator stays closed while it reads bytes**, unless it has one column only: no character
is written without its right half. -/
theorem Whole.closed_feed (h : t.Whole) (hclosed : t.Closed) (hcols : 1 < t.size.cols.toNat)
    (bytes : List UInt8) : (t.feed bytes).Closed := by
  have hafter : (t.feed bytes).screen.Whole True (extentOf t.size) := by
    -- the induction carries the closed grade of wholeness, which every command keeps
    have hbefore := h.close hclosed True
    clear h hclosed
    induction bytes generalizing t with
    | nil => exact hbefore
    | cons b rest ih =>
      rw [feed_cons]
      exact ih (t := t.feed [b]) hcols (hbefore.feed_byte (fun _ => hcols) b fun _ => Or.inl trivial)
  -- in a closed line the last slot holds no wide character
  intro l hl
  obtain ⟨hlength, hwhole⟩ := (List.mem_append.1 hl).elim (hafter.main l) (hafter.alternate l)
  have hlast := hwhole.wide_last
  rw [hlength] at hlast
  exact hlast

/-- **A closed emulator admits all bytes**: only another size can cut a wide character in two. -/
theorem Whole.admits_of_closed (h : t.Whole) (hclosed : t.Closed) (hcols : 1 < t.size.cols.toNat)
    (bytes : List UInt8) : t.Admits bytes := by
  induction bytes generalizing t with
  | nil => trivial
  | cons b rest ih =>
    have hone : t.Admits [b] := ⟨fun _ _ => hclosed, trivial⟩
    exact ⟨hone.1, ih (h.feed [b] hone) (h.closed_feed hclosed hcols [b]) hcols⟩

/-- **Resizing** keeps an emulator whole. If it gets more columns it must be closed. -/
theorem Whole.resize (h : t.Whole) (size : Size)
    (hclosed : t.size.cols < size.atLeastOne.cols → t.Closed) : (t.resize size).Whole := by
  have hresized : ∀ closed : Prop, t.screen.Whole closed (extentOf t.size) →
      ((extentOf t.size).cols < (extentOf size.atLeastOne).cols → closed) → (t.resize size).Whole :=
    fun closed hwhole hgrows => ⟨hwhole.main.resize _ hgrows, hwhole.alternate.resize _ hgrows⟩
  by_cases hgrows : t.size.cols < size.atLeastOne.cols
  · -- more columns need the closed grade, which the emulator has then
    exact hresized True (h.close (hclosed hgrows) True) fun _ => trivial
  · -- fewer columns may cut a wide character, and the open grade allows for it
    exact hresized False h fun hlt => hgrows (UInt16.lt_iff_toNat_lt.2 hlt)

/-- **A row of a whole emulator is in pairs.** -/
theorem Whole.paired_row (h : t.Whole) (r : Nat) : Row.Paired (t.row r) := by
  have hpage : t.screen.page.Whole False (extentOf t.size) := by
    unfold Screen.page
    split
    · exact h.alternate
    · exact h.main
  have hline : ((t.screen.page.line r).resize t.size.cols.toNat).Whole False := by
    unfold Page.line
    cases hr : t.screen.page.lines[r]? with
    | none =>
      -- a row without a line is filled up with blanks
      have hempty : Line.Whole True ⟨[], false⟩ := Line.whole_of_plain fun _ => Slot.plain_fresh
      exact (hempty.resize_of_ge (Nat.zero_le _) (Or.inl trivial)).mono False.elim
    | some l =>
      obtain ⟨hlength, hwhole⟩ := hpage l (List.mem_of_getElem? hr)
      exact hwhole.resize_of_le (Nat.le_of_eq hlength.symm)
  unfold row
  -- a row of the screen
  split
  · have hcells := hline.paired_cells
    unfold Line.resize at hcells
    rw [List.map_append, List.map_replicate] at hcells
    dsimp only
    have hmissing : ∀ cols n : Nat, cols - min cols n = cols - n := by omega
    -- what is left to fill up is counted in columns here and in slots there
    rw [List.length_map, List.length_take, hmissing]
    exact hcells
  · -- a row beyond the screen has no cells
    exact ⟨nofun, nofun, List.isChain_nil⟩

end

end Emulator

/-! ### The engine -/

namespace Engine

/-- **What is done to an engine**: it reads bytes of the child's output, or it gets another size. -/
inductive Call where
  | feed (bytes : List UInt8)
  | resize (size : Size)

/-- The engine after a call. -/
def apply (engine : Engine) : Call → Engine
  | .feed bytes => engine.feed bytes
  | .resize size => (engine.resize size).1

/-- **A call leaves the ends of lines alone**, or finds the screen closed. The end of a line moves when
characters of it are deleted and when the screen gets more columns. -/
def Admits : Engine → Call → Prop
  | .emulator t, .feed bytes => t.Admits bytes
  | .emulator t, .resize size => t.size.cols < size.atLeastOne.cols → t.Closed
  | .off, _ => True

instance decidableAdmits : (engine : Engine) → (call : Call) → Decidable (engine.Admits call)
  | .emulator t, .feed bytes => inferInstanceAs (Decidable (t.Admits bytes))
  | .emulator t, .resize _ => inferInstanceAs (Decidable (_ → t.Closed))
  | .off, _ => isTrue trivial

/-- Each of the calls is admitted by the engine that the calls before it make. -/
def AdmitsAll : Engine → List Call → Prop
  | _, [] => True
  | engine, call :: rest => engine.Admits call ∧ (engine.apply call).AdmitsAll rest

instance decidableAdmitsAll : (engine : Engine) → (calls : List Call) →
    Decidable (engine.AdmitsAll calls)
  | _, [] => isTrue trivial
  | engine, call :: rest =>
    have := decidableAdmitsAll (engine.apply call) rest
    inferInstanceAs (Decidable (_ ∧ _))

/-- **A call that is admitted keeps an emulator whole.** -/
theorem apply_emulator {t : Emulator} (h : t.Whole) {call : Call}
    (hadmits : Admits (.emulator t) call) : ∃ t', apply (.emulator t) call = .emulator t' ∧ t'.Whole := by
  cases call with
  | feed bytes => exact ⟨t.feed bytes, rfl, h.feed bytes hadmits⟩
  | resize size =>
    change ∃ t', (resize size (.emulator t)).1 = .emulator t' ∧ t'.Whole
    unfold resize
    dsimp only
    split
    · exact ⟨t, rfl, h⟩
    · exact ⟨t.resize size, rfl, h.resize size hadmits⟩

theorem foldl_apply_emulator {t : Emulator} (h : t.Whole) (calls : List Call)
    (hadmits : AdmitsAll (.emulator t) calls) :
    ∃ t', calls.foldl apply (.emulator t) = .emulator t' ∧ t'.Whole := by
  induction calls generalizing t with
  | nil => exact ⟨t, rfl, h⟩
  | cons call rest ih =>
    obtain ⟨t', happly, hwhole⟩ := apply_emulator h hadmits.1
    have hrest := hadmits.2
    rw [happly] at hrest
    rw [List.foldl_cons, happly]
    exact ih hwhole hrest

end Engine

/-- **The rows of the emulator fill the viewport exactly.** An engine that decodes output is created with
some size, reads any bytes and gets any sizes. Then each row of its grid, fitted to any number of
columns, takes exactly that many columns — provided that no call moves the end of a line in which a
wide character stands there. -/
theorem rows_fill (size : Size) (calls : List Engine.Call)
    (hadmits : (Engine.new .emulator size).AdmitsAll calls) :
    ∃ grid, (calls.foldl Engine.apply (Engine.new .emulator size)).grid = some grid ∧
      ∀ r cols : Nat, ((Row.fit (grid.row r) cols).map Cell.width).sum = cols := by
  obtain ⟨t, hrun, hwhole⟩ :=
    Engine.foldl_apply_emulator (Emulator.whole_new size) calls hadmits
  refine ⟨t.grid, ?_, fun r cols => Row.sum_width_fit (hwhole.paired_row r) cols⟩
  change (calls.foldl Engine.apply (.emulator (.new size))).grid = some t.grid
  rw [hrun]
  rfl

/-- A wide character is cut by a smaller display and scrolled away; then characters are deleted and the
display gets larger again. -/
theorem rows_fill_scrolled :
    (Engine.new .emulator ⟨2, 6⟩).AdmitsAll
        [.feed [0xE6, 0x97, 0xA5, 0xE6, 0x9C, 0xAC], .resize ⟨2, 3⟩, .feed [0x0D, 0x0A, 0x0A],
          .feed [0x78, 0x79, 0x0D, 0x1B, 0x5B, 0x50], .resize ⟨3, 8⟩] ∧
      ∃ grid, ([Engine.Call.feed [0xE6, 0x97, 0xA5, 0xE6, 0x9C, 0xAC], .resize ⟨2, 3⟩,
          .feed [0x0D, 0x0A, 0x0A], .feed [0x78, 0x79, 0x0D, 0x1B, 0x5B, 0x50],
          .resize ⟨3, 8⟩].foldl Engine.apply (Engine.new .emulator ⟨2, 6⟩)).grid = some grid ∧
        ∀ r cols : Nat, ((Row.fit (grid.row r) cols).map Cell.width).sum = cols := by
  refine ⟨?admits, rows_fill ⟨2, 6⟩ _ ?admits⟩
  decide +kernel

/-- **A display that gets smaller and larger again spoils a row**: the wide character in columns 2 and 3
loses its right half and is shown before a blank afterwards, so that four cells take five columns. -/
theorem rows_fill_regrown :
    ∃ grid, ([Engine.Call.feed [0x61, 0x62, 0xE6, 0x97, 0xA5], .resize ⟨1, 3⟩, .resize ⟨1, 4⟩].foldl
        Engine.apply (Engine.new .emulator ⟨1, 4⟩)).grid = some grid ∧
      ((Row.fit (grid.row 0) 4).map Cell.width).sum = 5 :=
  ⟨_, rfl, by decide +kernel⟩

end FramedShell
