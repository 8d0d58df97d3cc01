import FramedShell.Emulator.Page
import FramedShell.Proofs.Shifting
import Mathlib.Data.List.InsertIdx

/-!
# Wide characters on a page

A page is whole when each of its lines is, and has as many slots as the screen has columns. The
operations of a page move the cursor, move whole lines, or change one line by an operation of its own,
so each keeps the page whole because the lines stay whole. Printing takes a step more: before a wide
character is written the cursor is moved to where there is room for both of its halves.

## Main definitions

* `Page.Whole` — all lines are whole and as long as the screen is wide.

## Main results

* `Page.write_lines` — writing a character is `Line.write` in the line of the cursor;
* `Page.col_wrapFor` — after the cursor was wrapped there is room for the character;
* `Page.Whole.print` — printing keeps a page whole;
* `Page.Whole.deleteChars` — so does deleting characters on a closed page;
* `Page.Whole.resize` — and another number of columns, when it is not larger or the page is closed.
-/

namespace FramedShell.Emulator.Page

/-! ### Lines of a page -/

section

variable {p : Page} {row : Nat}

/-- Two changes of a line that agree on the line that is there make the same page. -/
theorem modifyLine_congr {f g : Line → Line} (h : f (p.line row) = g (p.line row)) :
    p.modifyLine row f = p.modifyLine row g := by
  have hlines : p.lines.modify row f = p.lines.modify row g := by
    refine List.ext_getElem? fun i => ?_
    rw [List.getElem?_modify, List.getElem?_modify]
    -- a change at `row` touches at most one line, and there the two agree
    cases hline : p.lines[i]? with
    | none => rfl
    | some l =>
      change some (if row = i then f l else l) = some (if row = i then g l else l)
      split
      next hrow =>
        -- the line that is found is the one that the page has at `row`
        have hl : p.line row = l := by
          unfold line
          rw [hrow, hline]
          rfl
        rw [← hl, h]
      · rfl
  unfold modifyLine
  rw [hlines]

theorem modifyLine_id : p.modifyLine row id = p := by
  have hlines : p.lines.modify row id = p.lines := List.modify_id _ _
  unfold modifyLine
  rw [hlines]

theorem modifyLine_modifyLine (f g : Line → Line) :
    (p.modifyLine row f).modifyLine row g = p.modifyLine row (g ∘ f) := by
  unfold modifyLine
  rw [List.modify_modify_eq]

/-- A change that depends on the line is a change of the line. -/
theorem ite_modifyLine {c : Line → Bool} {f : Line → Line} :
    (if c (p.line row) then p.modifyLine row f else p)
      = p.modifyLine row fun l => if c l then f l else l := by
  -- whether the line meets the condition is the same question for the page and for its line
  cases hc : c (p.line row) with
  | true =>
    rw [if_pos rfl]
    exact modifyLine_congr (by rw [hc]; rfl)
  | false =>
    rw [if_neg Bool.false_ne_true]
    exact modifyLine_id.symm.trans (modifyLine_congr (by rw [hc]; rfl))

end

/-! ### Writing as a change of the line -/

theorem prepare_eq (style : Style) (p : Page) :
    p.prepare style = p.modifyLine p.row (Line.prepare style p.col) := by
  have hbase : (if (p.slot p.row p.col).continuation then
        p.modifySlot p.row (p.col - 1) fun _ => Slot.empty style
      else p)
      = p.modifyLine p.row fun l =>
        if (l.slot p.col).continuation then l.modify (p.col - 1) fun _ => Slot.empty style else l :=
    ite_modifyLine (c := fun l => (l.slot p.col).continuation)
  unfold prepare
  rw [hbase]
  -- the second change is of the line that the first one has left
  refine (ite_modifyLine (c := fun l => (l.slot p.col).wide)).trans ?_
  exact modifyLine_modifyLine _ _

theorem placeHalf_lines (e : Extent) (style : Style) (p : Page) :
    (p.placeHalf e style).lines
      = (p.modifyLine p.row (Line.placeHalf e.cols style p.col)).lines := by
  have hline : ∀ l : Line, Line.placeHalf e.cols style p.col l
      = (if (l.slot p.col).wide then
          { l.modify (p.col + 1) fun _ => Slot.empty style with
            wrapped := l.wrapped && p.col + 1 + 1 != e.cols }
        else l).modify p.col fun _ => { continuation := true } := by
    intro l
    unfold Line.placeHalf Line.occupy
    dsimp only
    split <;> rfl
  unfold placeHalf
  dsimp only
  -- the changes of the page are of one line, so they are one change of it
  -- with a wide character in the way its right half goes first
  cases hwide : (p.slot p.row p.col).wide with
  | true =>
    have hline_wide : ((p.line p.row).slot p.col).wide = true := hwide
    rw [if_pos rfl]
    change ((((p.modifyLine p.row fun l => l.modify (p.col + 1) fun _ => Slot.empty style).modifyLine
      p.row fun l => { l with wrapped := l.wrapped && p.col + 1 + 1 != e.cols }).modifyLine p.row
      fun l => l.modify p.col fun _ => { continuation := true })).lines = _
    rw [modifyLine_modifyLine, modifyLine_modifyLine]
    refine congrArg lines (modifyLine_congr ?_)
    rw [hline, if_pos hline_wide]
    rfl
  -- without one, the slot only becomes the right half
  | false =>
    have hline_wide : ((p.line p.row).slot p.col).wide = false := hwide
    rw [if_neg Bool.false_ne_true]
    refine congrArg lines (modifyLine_congr ?_)
    rw [hline, if_neg (Bool.eq_false_iff.1 hline_wide)]

/-- **Writing a character** changes the line of the cursor, and no other one. -/
theorem write_lines (e : Extent) (style : Style) (c : Char) (width : Nat) (p : Page) :
    (p.write e style c width).lines
      = (p.modifyLine p.row (Line.write e.cols style c width p.col)).lines := by
  have hput : (p.prepare style).modifySlot p.row p.col (fun _ => Slot.ofChar c style)
      = p.modifyLine p.row fun l => (l.prepare style p.col).modify p.col fun _ => Slot.ofChar c style := by
    rw [prepare_eq]
    exact modifyLine_modifyLine _ _
  have hrow : (p.prepare style).row = p.row := by rw [prepare_eq]; rfl
  have hcol : (p.prepare style).col = p.col := by rw [prepare_eq]; rfl
  unfold write Line.write
  dsimp only
  rw [hrow, hcol, hput]
  -- a wide character places its half in the line that was just written to
  split
  · rw [placeHalf_lines]
    exact List.modify_modify_eq _ _ _ _
  · rfl

/-! ### Whole pages -/

/-- **A whole page** on a screen of extent `e`: its lines are whole and have as many slots as the screen
has columns. -/
def Whole (closed : Prop) (e : Extent) (p : Page) : Prop :=
  ∀ l ∈ p.lines, l.slots.length = e.cols ∧ l.Whole closed

section

variable {closed : Prop} {e : Extent} {p : Page}

theorem whole_blank (closed : Prop) (e : Extent) : (blank e).Whole closed e := by
  intro l hl
  obtain rfl := List.eq_of_mem_replicate hl
  exact ⟨List.length_replicate, Line.whole_blank e.cols⟩

theorem Whole.mono (h : p.Whole closed e) {closed' : Prop} (himp : closed' → closed) :
    p.Whole closed' e := fun l hl => ⟨(h l hl).1, (h l hl).2.mono himp⟩

/-- A page is whole if each of its lines is a line of a whole page or a whole line itself. -/
theorem Whole.of_lines (h : p.Whole closed e) {q : Page}
    (hq : ∀ l ∈ q.lines, l ∈ p.lines ∨ l.slots.length = e.cols ∧ l.Whole closed) :
    q.Whole closed e := fun l hl => (hq l hl).elim (h l) id

/-- **A change of one line** keeps a page whole if it keeps the lines whole. -/
theorem Whole.modifyLine (h : p.Whole closed e) (row : Nat) {f : Line → Line}
    (hf : ∀ l, l.slots.length = e.cols → l.Whole closed →
      (f l).slots.length = e.cols ∧ (f l).Whole closed) :
    (p.modifyLine row f).Whole closed e := by
  intro l hl
  obtain ⟨i, hi⟩ := List.mem_iff_getElem?.1 hl
  change (p.lines.modify row f)[i]? = some l at hi
  rw [List.getElem?_modify] at hi
  -- beyond the page there is no line to change
  cases hline : p.lines[i]? with
  | none =>
    rw [hline] at hi
    cases hi
  | some old =>
    rw [hline] at hi
    obtain ⟨hlength, hwhole⟩ := h old (List.mem_iff_getElem?.2 ⟨i, hline⟩)
    -- the line is the changed one, or one of the old page
    obtain rfl : (if row = i then f old else old) = l := Option.some.inj hi
    split
    · exact hf old hlength hwhole
    · exact ⟨hlength, hwhole⟩

/-- What keeps a page whole keeps it whole when repeated. -/
theorem Whole.repeat (h : p.Whole closed e) {f : Page → Page}
    (hf : ∀ q : Page, q.Whole closed e → (f q).Whole closed e) (n : Nat) :
    (Nat.repeat f n p).Whole closed e := by
  induction n with
  | zero => exact h
  | succ n ih => exact hf _ ih

/-! ### Scrolling -/

/-- A blank line comes in at one row, and the line at another one goes. -/
theorem Whole.exchange (h : p.Whole closed e) (into out : Nat) :
    ({ p with lines := (p.lines.insertIdx into (Line.blank e.cols)).eraseIdx out } : Page).Whole
      closed e := by
  refine h.of_lines fun l hl => ?_
  -- every line is the blank one or an old one
  obtain rfl | hold := List.eq_or_mem_of_mem_insertIdx (List.mem_of_mem_eraseIdx hl)
  · exact .inr ⟨List.length_replicate, Line.whole_blank e.cols⟩
  · exact .inl hold

theorem Whole.scrollUp (h : p.Whole closed e) (count : Nat) : (p.scrollUp e count).Whole closed e :=
  h.repeat (fun _ hq => hq.exchange _ _) _

theorem Whole.pushDown (h : p.Whole closed e) (row : Nat) : (p.pushDown e row).Whole closed e := by
  have hlines : ({ p with
      lines := (p.lines.eraseIdx p.bottom).insertIdx row (Line.blank e.cols) } : Page).Whole closed e := by
    refine h.of_lines fun l hl => ?_
    obtain rfl | hold := List.eq_or_mem_of_mem_insertIdx hl
    · exact .inr ⟨List.length_replicate, Line.whole_blank e.cols⟩
    · exact .inl (List.mem_of_mem_eraseIdx hold)
  exact hlines.modifyLine p.bottom fun l hlength hwhole => ⟨hlength, hwhole.congr rfl fun _ => rfl⟩

theorem Whole.scrollDown (h : p.Whole closed e) (count : Nat) :
    (p.scrollDown e count).Whole closed e := h.repeat (fun _ hq => hq.pushDown _) count

theorem Whole.insertLines (h : p.Whole closed e) (count : Nat) :
    (p.insertLines e count).Whole closed e := h.repeat (fun _ hq => hq.pushDown _) count

theorem Whole.deleteLines (h : p.Whole closed e) (count : Nat) :
    (p.deleteLines e count).Whole closed e := h.repeat (fun _ hq => hq.exchange _ _) _

theorem Whole.lineFeed (h : p.Whole closed e) : (p.lineFeed e).1.Whole closed e := by
  unfold Page.lineFeed
  dsimp only
  split
  · -- in the region the page scrolls by what the cursor would have left it by
    have hmoved : ({ p with row := min (p.row + 1) (p.lastRow e p.inRegion) } : Page).Whole closed e := h
    exact hmoved.scrollUp _
  · -- outside of it only the cursor moves
    exact h

theorem Whole.reverseLineFeed (h : p.Whole closed e) : (p.reverseLineFeed e).Whole closed e := by
  have hmoved : ({ p with row := max (p.row - 1) (p.firstRow p.inRegion) } : Page).Whole closed e := h
  exact hmoved.scrollDown _

theorem Whole.setRegion (h : p.Whole closed e) (top bottom : Nat) :
    (p.setRegion e top bottom).Whole closed e := by
  unfold Page.setRegion
  dsimp only
  split
  · exact h
  · exact h

/-! ### Erasing and editing -/

theorem Whole.eraseLine (h : p.Whole closed e) (style : Style) (mode : Nat) :
    (p.eraseLine e style mode).Whole closed e := by
  have hrange : ∀ first last : Nat,
      (p.modifyCurrent fun l => l.eraseRange style first last).Whole closed e := fun first last =>
    h.modifyLine p.row fun l hlength hwhole =>
      ⟨(Line.length_eraseRange style l first last).trans hlength, hwhole.eraseRange style first last⟩
  unfold Page.eraseLine
  split
  · -- from the cursor to the end, or from the beginning to the cursor
    exact hrange _ _
  · exact hrange _ _
  · -- the whole line
    exact h.modifyLine p.row fun l hlength _ =>
      ⟨List.length_replicate.trans hlength, Line.whole_clear l style⟩
  · -- any other number erases nothing
    exact h

theorem Whole.clearLines (h : p.Whole closed e) (style : Style) (f : Nat → Bool) :
    (p.clearLines style f).Whole closed e := by
  refine h.of_lines fun l hl => ?_
  obtain ⟨i, hi, rfl⟩ := List.mem_mapIdx.1 hl
  have hmem : p.lines[i] ∈ p.lines := List.getElem_mem hi
  split
  · -- a line that is cleared is plain throughout
    exact .inr ⟨List.length_replicate.trans (h _ hmem).1, Line.whole_clear _ style⟩
  · exact .inl hmem

theorem Whole.eraseDisplay (h : p.Whole closed e) (style : Style) (mode : Nat) :
    (p.eraseDisplay e style mode).Whole closed e := by
  unfold Page.eraseDisplay
  split
  · -- the rows below or above the line of the cursor are cleared, and that line in part
    exact (h.clearLines style _).eraseLine style 0
  · exact (h.clearLines style _).eraseLine style 1
  · exact h.clearLines style _
  · exact h

theorem Whole.eraseChars (h : p.Whole closed e) (style : Style) (count : Nat) :
    (p.eraseChars e style count).Whole closed e :=
  h.modifyLine p.row fun l hlength hwhole =>
    ⟨(Line.length_eraseRange style l _ _).trans hlength, hwhole.eraseRange style _ _⟩

theorem Whole.insertChars (h : p.Whole closed e) (count : Nat) :
    (p.insertChars count).Whole closed e :=
  h.modifyLine p.row fun l hlength hwhole =>
    ⟨(Line.length_insert l _ _).trans hlength, hwhole.insert closed _ _⟩

/-- **Deleting characters** keeps a closed page whole. On a screen of one column there is nothing to
close. -/
theorem Whole.deleteChars (h : p.Whole closed e) (hclosed : closed ∨ e.cols ≤ 1) (count : Nat) :
    (p.deleteChars count).Whole closed e :=
  h.modifyLine p.row fun l hlength hwhole =>
    ⟨(Line.length_delete l _ _).trans hlength, hwhole.delete (hlength ▸ hclosed) _ _⟩

/-! ### Printing -/

theorem col_scrollUp (e : Extent) (count : Nat) (p : Page) : (p.scrollUp e count).col = p.col := by
  unfold scrollUp
  generalize min count (e.rows - p.top) = n
  induction n with
  | zero => rfl
  | succ n ih => exact ih

theorem col_lineFeed (e : Extent) (p : Page) : (p.lineFeed e).1.col = p.col := by
  unfold lineFeed
  dsimp only
  split
  · exact col_scrollUp e _ _
  · rfl

/-- **After the cursor was wrapped there is room for the character**, as far as the screen is wide
enough for it. -/
theorem col_wrapFor (e : Extent) (width : Nat) (p : Page) : (p.wrapFor e width).col ≤ e.cols - width := by
  unfold wrapFor
  split
  · -- the character goes to the beginning of the next row, as line feeds keep the column
    have hcol := col_lineFeed e { p with col := 0 }
    cases hfeed : lineFeed e { p with col := 0 } with
    | mk moved scrolled =>
      rw [hfeed] at hcol
      exact Nat.le_trans (Nat.le_of_eq hcol) (Nat.zero_le _)
  next hfits => exact Nat.not_lt.1 hfits

theorem Whole.wrapFor (h : p.Whole closed e) (width : Nat) : (p.wrapFor e width).Whole closed e := by
  unfold Page.wrapFor
  split
  · -- the run of the text is marked in the line that was left, and its slots stay as they are
    have hreturned : ({ p with col := 0 } : Page).Whole closed e := h
    have hfed := hreturned.lineFeed
    cases hfeed : Page.lineFeed e { p with col := 0 } with
    | mk moved scrolled =>
      rw [hfeed] at hfed
      exact hfed.modifyLine _ fun l hlength hwhole => ⟨hlength, hwhole.congr rfl fun _ => rfl⟩
  · exact h

theorem Whole.combine (h : p.Whole closed e) {mark : Char} (hmark : Text.charWidth mark = some 0) :
    (p.combine e mark).Whole closed e := by
  have hslot : ∀ row col, (p.modifySlot row col fun s => s.addMark mark).Whole closed e :=
    fun row col => h.modifyLine row fun l hlength hwhole =>
      ⟨(Line.length_modify l _ _).trans hlength, hwhole.addMark hmark col⟩
  unfold Page.combine
  split
  · -- the mark goes to a slot of this line, of the line above it, or nowhere
    exact hslot _ _
  split
  · exact hslot _ _
  · exact h

theorem Whole.write (h : p.Whole closed e) (style : Style) {c : Char} {width : Nat}
    (hwidth : Text.charWidth c = some width) (hroom : closed → 1 < width → p.col + 1 < e.cols) :
    (p.write e style c width).Whole closed e := by
  intro l hl
  rw [write_lines] at hl
  refine h.modifyLine p.row (fun l hlength hwhole => ?_) l hl
  refine ⟨(Line.length_write _ _ _ _ _ _).trans hlength, hwhole.write e.cols style hwidth ?_⟩
  rw [hlength]
  exact hroom

/-- **Printing a character** keeps a page whole. -/
theorem Whole.print (h : p.Whole closed e) (hclosed : closed → 1 < e.cols) (style : Style) (c : Char) :
    (p.print e style c).Whole closed e := by
  unfold Page.print
  cases hwidth : Text.charWidth c with
  -- a control character is not printed
  | none => exact h
  | some width =>
    cases width with
    -- a mark is combined with the character before it
    | zero => exact (h.wrapFor 0).combine hwidth
    | succ n =>
      refine (h.wrapFor (n + 1)).write style hwidth fun hc hwide => ?_
      -- the cursor stands at least the character's width before the end
      have hcol := col_wrapFor e (n + 1) p
      have hcols := hclosed hc
      have htwo := Text.charWidth_le_two hwidth
      omega

/-! ### Resizing -/

/-- **A page resized** is whole, if it was closed or gets no more columns than it had. -/
theorem Whole.resize (h : p.Whole closed e) (new : Extent) (hclosed : e.cols < new.cols → closed) :
    (p.resize e new).Whole False new := by
  have hline : ∀ l ∈ p.lines, (l.resize new.cols).Whole False := by
    intro l hl
    obtain ⟨hlength, hwhole⟩ := h l hl
    by_cases hgrows : e.cols < new.cols
    · -- a closed line grows by fresh slots and stays closed
      exact (hwhole.resize_of_ge (by omega) (Or.inl (hclosed hgrows))).mono False.elim
    · -- a line that is cut may lose a right half, which an open line allows
      exact hwhole.resize_of_le (by omega)
  intro l hl
  obtain hkept | hfilled := List.mem_append.1 hl
  · -- a line that the page had
    obtain ⟨old, hold, rfl⟩ := List.mem_map.1 (List.mem_of_mem_take hkept)
    exact ⟨Line.length_resize old new.cols, hline old hold⟩
  · -- a line that was added
    obtain rfl := List.eq_of_mem_replicate hfilled
    exact ⟨List.length_replicate, Line.whole_blank new.cols⟩

end

end FramedShell.Emulator.Page
