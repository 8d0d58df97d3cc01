import FramedShell.Proofs.Buffer

/-!
# The style of every printed character

A row of cells is drawn as texts with selections of styles between them. A style is selected only
where it differs from the one before, right halves are skipped, and the row ends with the first cell
that has no room. Nothing in the bytes says which cell a text belongs to, so each text has to find
the terminal with the style of its cell in force.

A terminal that reads the bytes yields its *inscription*: the printed characters, each with the style
that is printed in at that moment. `row_inscribed` says that the inscription of a row is that of its
cells, whatever the terminal was told before, and that the terminal is in the plain style afterwards.

## Main definitions

* `Condition.inscribe` — what is printed by some commands, and in which styles;
* `Cell.inscription` — what a cell asks for;
* `IsCut` — how many cells of a row are drawn.

## Main results

* `inscribe_bytesOf` — the bytes of a row are printed as its instructions say;
* `inscribes_glyphs` — the instructions of a row say what its cells ask for.
-/

namespace FramedShell

open Text.Utf8 (encode)

/-- **What a cell asks for**: its characters in its style, and nothing for a right half. -/
def Cell.inscription : Cell → List (Char × Style)
  | .drawn text style => text.map (·, style)
  | .continuation _ => []

namespace Terminal

open Emulator (Parser)

/-! ### Inscriptions -/

/-- **The inscription of some commands**: every character that they print, with the style that is
printed in at that moment. -/
def Condition.inscribe : Condition → List Emulator.Command → List (Char × Style)
  | _, [] => []
  | c, .print d :: rest => (d, c.pen) :: inscribe c rest
  | c, command :: rest => inscribe (c.perform command) rest

/-- The inscription of an instruction, in a given style. -/
def Instruction.inscription (pen : Style) : Instruction → List (Char × Style)
  | .print text => text.map (·, pen)
  | _ => []

/-- The inscription of several instructions. -/
def Condition.inscribes : Condition → List Instruction → List (Char × Style)
  | _, [] => []
  | c, i :: rest => i.inscription c.pen ++ inscribes (c.obey i) rest

namespace Condition

variable (c : Condition)

theorem inscribe_append (first rest : List Emulator.Command) :
    c.inscribe (first ++ rest) = c.inscribe first ++ (first.foldl perform c).inscribe rest := by
  induction first generalizing c with
  | nil => rfl
  -- only a printed character adds to the inscription, and only the others may change the style
  | cons command first ih =>
    cases command with
    | print d => exact congrArg ((d, c.pen) :: ·) (ih c)
    | control b => exact ih _
    | escape leader final => exact ih _
    | sequence leader params final => exact ih _

theorem inscribes_append (first rest : List Instruction) :
    c.inscribes (first ++ rest) = c.inscribes first ++ (c.obeyAll first).inscribes rest := by
  induction first generalizing c with
  | nil => rfl
  | cons i first ih =>
    rw [List.cons_append, inscribes, inscribes, ih, List.append_assoc]
    rfl

/-- Printed characters leave the style alone. -/
theorem inscribe_print (text : List Char) :
    c.inscribe (text.map .print) = text.map (·, c.pen) := by
  induction text with
  | nil => rfl
  | cons d rest ih => exact congrArg ((d, c.pen) :: ·) ih

/-- **Selecting a style** prints nothing, and the style is printed in afterwards. -/
theorem obeyAll_setStyle (style : Style) :
    c.inscribes (Instruction.setStyle style) = [] ∧
      (c.obeyAll (Instruction.setStyle style)).pen = style := by
  -- the colors are selected whatever they are, and each attribute is selected or not
  obtain ⟨foreground, background, ⟨bold, italic, underline, inverse⟩⟩ := style
  cases bold <;> cases italic <;> cases underline <;> cases inverse <;> exact ⟨rfl, rfl⟩

end Condition

/-! ### The bytes of a row -/

/-- Whether an instruction carries no text. -/
def Instruction.isSilent : Instruction → Bool
  | .print _ => false
  | .title _ => false
  | _ => true

/-- The characters of parameters: the digits, and the separators after them in the table. -/
def Instruction.IsParameter (c : Char) : Prop := 48 ≤ c.toNat ∧ c.toNat ≤ 59

instance (c : Char) : Decidable (Instruction.IsParameter c) := inferInstanceAs (Decidable (_ ∧ _))

/-- **A selection**: an instruction of a row that is no text. It is written with parameters between the
bracket and a final byte. -/
structure Instruction.IsSelection (i : Instruction) : Prop where
  silent : i.isSilent = true
  encode : ∃ body final, i.encode = Instruction.sequence (body ++ [final]) ∧
    (∀ c ∈ body, IsParameter c) ∧ 64 ≤ final.toNat ∧ final.toNat < 127

/-- **An instruction of a row**: a selection, or a text without control characters. -/
def Instruction.IsOfRow (i : Instruction) : Prop :=
  i.IsSelection ∨ ∃ text, i = .print text ∧ ∀ c ∈ text, Text.isControl c = false

namespace Instruction

theorem IsSelection.inscription_eq {i : Instruction} (h : i.IsSelection) (pen : Style) :
    i.inscription pen = [] := by
  -- a text is not silent, and nothing else is printed
  cases i with
  | print text => cases h.silent
  | _ => rfl

theorem IsOfRow.isClean {i : Instruction} (h : i.IsOfRow) : i.IsClean := by
  obtain h | ⟨text, rfl, hclean⟩ := h
  · -- a selection carries no text and no title, and these alone have to be clean
    cases i with
    | print text => cases h.silent
    | title text => cases h.silent
    | _ => trivial
  · exact hclean

theorem isParameter_of_decimal {n : Nat} {c : Char} (h : c ∈ decimal n) : IsParameter c := by
  have hdigit : 48 ≤ c.toNat ∧ c.toNat ≤ 57 :=
    Char.isDigit_iff_toNat.1 (Nat.isDigit_of_mem_toDigits (by decide) (by decide) h)
  exact ⟨hdigit.1, Nat.le_trans hdigit.2 (by decide)⟩

theorem isSelection_moveTo (place : Position) : (moveTo place).IsSelection := by
  refine ⟨rfl, decimal (place.row.toNat + 1) ++ [';'] ++ decimal (place.col.toNat + 1), 'H', rfl,
    fun c hc => ?_, by decide, by decide⟩
  -- the parameters are two numbers and the separator between them
  rw [List.mem_append, List.mem_append, List.mem_singleton] at hc
  obtain (hc | rfl) | hc := hc
  · exact isParameter_of_decimal hc
  · decide
  · exact isParameter_of_decimal hc

theorem isSelection_color {i : Instruction} {plane : Char} (hplane : plane = '3' ∨ plane = '4')
    {color : Color} (hsilent : i.isSilent = true) (hencode : i.encode = colorSelection plane color) :
    i.IsSelection := by
  have hdigit : IsParameter plane := by
    obtain rfl | rfl := hplane <;> decide
  -- the indexed and the mixed colors begin alike, with the form of the color after the plane
  have hhead : ∀ form, IsParameter form → ∀ c ∈ [plane, '8', ';', form, ';'], IsParameter c := by
    intro form hform c hc
    simp only [List.mem_cons, List.not_mem_nil, or_false] at hc
    obtain rfl | rfl | rfl | rfl | rfl := hc
    · exact hdigit
    · decide
    · decide
    · exact hform
    · decide
  cases color with
  -- the customary color of the plane has one digit
  | default =>
    exact ⟨hsilent, [plane, '9'], 'm', hencode, List.forall_mem_cons.2
      ⟨hdigit, List.forall_mem_singleton.2 (by decide)⟩, by decide, by decide⟩
  -- a color of the palette has one number
  | indexed n =>
    refine ⟨hsilent, [plane, '8', ';', '5', ';'] ++ decimal n.toNat, 'm', hencode, fun c hc => ?_,
      by decide, by decide⟩
    obtain hc | hc := List.mem_append.1 hc
    · exact hhead '5' (by decide) c hc
    · exact isParameter_of_decimal hc
  -- a mixed color has three
  | rgb r g b =>
    refine ⟨hsilent, [plane, '8', ';', '2', ';'] ++ (decimal r.toNat ++ ([';'] ++ (decimal g.toNat ++
      ([';'] ++ decimal b.toNat)))), 'm', ?_, fun c hc => ?_, by decide, by decide⟩
    · rw [hencode]
      simp only [colorSelection, List.append_assoc, List.cons_append, List.nil_append]
    · simp only [List.mem_append (s := _ :: _), List.mem_append, List.mem_singleton] at hc
      obtain hc | hc | rfl | hc | rfl | hc := hc
      · exact hhead '2' (by decide) c hc
      · exact isParameter_of_decimal hc
      · decide
      · exact isParameter_of_decimal hc
      · decide
      · exact isParameter_of_decimal hc

theorem isSelection_digit {i : Instruction} {digit : Char}
    (hdigit : IsParameter digit) (hsilent : i.isSilent = true)
    (hencode : i.encode = sequence [digit, 'm']) : i.IsSelection :=
  ⟨hsilent, [digit], 'm', hencode, List.forall_mem_singleton.2 hdigit, by decide, by decide⟩

theorem isSelection_resetStyle : resetStyle.IsSelection :=
  isSelection_digit (by decide) rfl rfl

theorem isSelection_setStyle (style : Style) : ∀ i ∈ setStyle style, i.IsSelection :=
  forall_mem_setStyle isSelection_resetStyle (isSelection_digit (by decide) rfl rfl)
    (isSelection_digit (by decide) rfl rfl) (isSelection_digit (by decide) rfl rfl)
    (isSelection_digit (by decide) rfl rfl) (fun _ => isSelection_color (.inl rfl) rfl rfl)
    (fun _ => isSelection_color (.inr rfl) rfl rfl) style

end Instruction

/-- The bytes of parameters. -/
theorem mem_encode_body {body : List Char} (h : ∀ c ∈ body, Instruction.IsParameter c) :
    ∀ b ∈ body.flatMap encode, 48 ≤ b.toNat ∧ b.toNat ≤ 59 := by
  intro b hb
  -- a parameter is one byte
  obtain ⟨c, hc, hb⟩ := List.mem_flatMap.1 hb
  have hrange : 48 ≤ c.toNat ∧ c.toNat ≤ 59 := h c hc
  obtain ⟨b', hencode, hb'⟩ := Text.Utf8.encode_of_ascii (show c.toNat < 128 by omega)
  rw [hencode, List.mem_singleton] at hb
  rw [hb, hb']
  exact hrange

/-- **A selection is read as one command**, and that command prints nothing. -/
theorem scan_selection {i : Instruction} (hselection : i.IsSelection) {p : Parser}
    (hp : p.state = .ground) :
    ∃ q leader params final,
      p.scan (i.encode.flatMap encode) = (q, [.sequence leader params final]) := by
  obtain ⟨-, body, last, hencode, hbody, hlast⟩ := hselection
  -- the final byte is one that ends a sequence
  obtain ⟨final, hfinal, hvalue⟩ := Text.Utf8.encode_of_ascii (show last.toNat < 128 by omega)
  have hbytes : i.encode.flatMap encode = 0x1B :: 0x5B :: (body.flatMap encode ++ [final]) := by
    rw [hencode, Instruction.sequence, List.flatMap_cons, List.flatMap_cons, List.flatMap_append,
      List.flatMap_singleton, hfinal]
    rfl
  obtain ⟨q, hq, hin, -⟩ :=
    Parser.scan_params (p := Parser.begin .sequenceEntry) (mem_encode_body hbody) (.inl rfl)
  -- whatever the parameters say, only the final byte completes a command
  refine ⟨q.goto .ground, q.leader, q.params, final, ?_⟩
  rw [hbytes, Parser.scan_escape hp, Parser.scan,
    show (Parser.begin .escape).next 0x5B = (Parser.begin .sequenceEntry, none) from rfl]
  dsimp only
  rw [Parser.scan_append, hq]
  dsimp only
  rw [Parser.scan, Parser.next_final hin (by omega)]
  rfl

/-- The bytes of an instruction print what the instruction says. -/
theorem inscribe_encode {i : Instruction} (hrow : i.IsOfRow) {p : Parser} (hp : p.state = .ground) :
    ∃ q commands, p.scan (i.encode.flatMap encode) = (q, commands) ∧ q.state = .ground ∧
      ∀ c : Condition, c.inscribe commands = i.inscription c.pen ∧
        commands.foldl .perform c = c.obey i := by
  obtain ⟨q, commands, hscan, hground, hobey⟩ := reads_encode hrow.isClean p hp
  refine ⟨q, commands, hscan, hground, fun c => ⟨?_, hobey c⟩⟩
  -- the bytes are read only once, so these are the commands in them
  obtain hselection | ⟨text, rfl, hclean⟩ := hrow
  · -- a selection is one command that prints nothing
    obtain ⟨q', leader, params, final, hsequence⟩ := scan_selection hselection hp
    cases hscan.symm.trans hsequence
    rw [hselection.inscription_eq]
    rfl
  · -- a text is as many printed characters, each in the style that is in force
    obtain ⟨q', htext, -⟩ := Parser.scan_text hclean hp
    cases hscan.symm.trans htext
    exact c.inscribe_print text

/-- **The bytes of a row are printed as its instructions say.** -/
theorem inscribe_bytesOf {instructions : List Instruction} (h : ∀ i ∈ instructions, i.IsOfRow)
    {p : Parser} (hp : p.state = .ground) :
    ∃ q commands, p.scan (Rehearsal.bytesOf instructions) = (q, commands) ∧ q.state = .ground ∧
      ∀ c : Condition, c.inscribe commands = c.inscribes instructions ∧
        commands.foldl .perform c = c.obeyAll instructions := by
  induction instructions generalizing p with
  | nil => exact ⟨p, [], rfl, hp, fun c => ⟨rfl, rfl⟩⟩
  -- the commands of the rest are read where the parser is after the first instruction
  | cons i rest ih =>
    obtain ⟨q, commands, hscan, hground, hfirst⟩ := inscribe_encode (h i List.mem_cons_self) hp
    obtain ⟨q', commands', hscan', hground', hrest⟩ :=
      ih (fun j hj => h j (List.mem_cons_of_mem i hj)) hground
    refine ⟨q', commands ++ commands', ?_, hground', fun c => ⟨?_, ?_⟩⟩
    · unfold Rehearsal.bytesOf at hscan' ⊢
      rw [Instruction.encodeAll_cons, List.flatMap_append, Parser.scan_append, hscan]
      dsimp only
      rw [hscan']
    · rw [c.inscribe_append, (hfirst c).1, (hfirst c).2, (hrest _).1]
      rfl
    · rw [List.foldl_append, (hfirst c).2, (hrest _).2]
      rfl

/-! ### The cells of a row -/

/-- The columns that cells are counted with: those of their texts, and one for each right half. -/
def counted : List Cell → Nat
  | [] => 0
  | .drawn text style :: rest => (Cell.drawn text style).width + counted rest
  | .continuation _ :: rest => 1 + counted rest

/-- **A cell has room** between the column that the cells before it are counted to and the right
edge. A right half always has. -/
def HasRoom (cols col : Nat) (cells : List Cell) (i : Nat) : Prop :=
  ∀ text style, cells[i]? = some (.drawn text style) →
    col + counted (cells.take i) + (Cell.drawn text style).width ≤ cols

/-- **The first cell without room** ends the row: the `k` cells before it are drawn. -/
structure IsCut (cols col : Nat) (cells : List Cell) (k : Nat) : Prop where
  le_length : k ≤ cells.length
  hasRoom : ∀ i < k, HasRoom cols col cells i
  full : k < cells.length → ¬ HasRoom cols col cells k

section

variable {cols x k : Nat} {first : Cell} {rest : List Cell}

theorem hasRoom_succ {i : Nat} :
    HasRoom cols x (first :: rest) (i + 1) ↔ HasRoom cols (x + counted [first]) rest i := by
  have hcounted : counted ((first :: rest).take (i + 1))
      = counted [first] + counted (rest.take i) := by
    -- both kinds of cells are counted once
    cases first with
    | drawn text style => rfl
    | continuation style => rfl
  unfold HasRoom
  rw [hcounted, List.getElem?_cons_succ, ← Nat.add_assoc]

theorem IsCut.cons (hfirst : HasRoom cols x (first :: rest) 0)
    (h : IsCut cols (x + counted [first]) rest k) : IsCut cols x (first :: rest) (k + 1) where
  le_length := Nat.succ_le_succ h.le_length
  hasRoom i hi := by
    cases i with
    -- the cell at the front, and those behind it counted from one cell further on
    | zero => exact hfirst
    | succ i => exact hasRoom_succ.2 (h.hasRoom i (Nat.lt_of_succ_lt_succ hi))
  full hk := by
    rw [hasRoom_succ]
    exact h.full (Nat.lt_of_succ_lt_succ hk)

end

theorem IsCut.unique {cols col k k' : Nat} {cells : List Cell} (h : IsCut cols col cells k)
    (h' : IsCut cols col cells k') : k = k' := by
  -- the shorter cut would end at a cell that the longer one has room for
  obtain hlt | heq | hgt := Nat.lt_trichotomy k k'
  · exact absurd (h'.hasRoom k hlt) (h.full (Nat.lt_of_lt_of_le hlt h'.le_length))
  · exact heq
  · exact absurd (h.hasRoom k' hgt) (h'.full (Nat.lt_of_lt_of_le hgt h.le_length))

open Surface

/-- **The instructions of a row say what its cells ask for**, up to the first cell without room, if
the style that is taken for granted is in force. -/
theorem inscribes_glyphs (cols : Nat) (cells : List Cell) (current : Option Style) (x : Nat) :
    ∃ k, IsCut cols x cells k ∧ ∀ c : Condition, (∀ style, current = some style → c.pen = style) →
      c.inscribes (glyphs cols current x cells) = (cells.take k).flatMap Cell.inscription := by
  -- what is taken for granted is the style of the last text that was drawn, whichever cell had it
  induction cells generalizing current x with
  | nil => exact ⟨0, ⟨Nat.le_refl 0, nofun, nofun⟩, fun _ _ => rfl⟩
  | cons first rest ih =>
    cases first with
    -- a right half is counted and says nothing
    | continuation style =>
      obtain ⟨k, hcut, hglyphs⟩ := ih current (x + 1)
      exact ⟨k + 1, IsCut.cons nofun hcut, hglyphs⟩
    | drawn text style =>
      -- the first cell without room ends the row
      by_cases hfull : x + (Cell.drawn text style).width > cols
      · refine ⟨0, ⟨Nat.zero_le _, nofun, fun _ hroom => ?_⟩, fun c _ => ?_⟩
        · exact absurd (hroom text style rfl) (Nat.not_le.2 hfull)
        · rw [glyphs, if_pos hfull]
          rfl
      · -- a cell with room is drawn, and the cells after it begin where it ends
        obtain ⟨k, hcut, hglyphs⟩ := ih (some style) (x + (Cell.drawn text style).width)
        refine ⟨k + 1, IsCut.cons ?_ hcut, fun c hpen => ?_⟩
        · rintro _ _ ⟨⟩
          exact Nat.le_of_not_lt hfull
        · -- the style of the cell is in force once it is selected, if it was not before
          have hstyle : c.inscribes (if current = some style then [] else Instruction.setStyle style)
                = [] ∧ (c.obeyAll (if current = some style then []
                  else Instruction.setStyle style)).pen = style := by
            split
            · next hsame => exact ⟨rfl, hpen style hsame⟩
            · exact c.obeyAll_setStyle style
          rw [glyphs, if_neg hfull, c.inscribes_append, hstyle.1, List.nil_append,
            Condition.inscribes, Condition.obey,
            hglyphs _ fun _ h => hstyle.2.trans (Option.some.inj h), Instruction.inscription, hstyle.2,
            List.take_succ_cons, List.flatMap_cons]
          rfl

theorem isOfRow_row {start : Position} {cells : List Cell}
    (h : ∀ text style, .drawn text style ∈ cells → ∀ c ∈ text, Text.isControl c = false)
    (size : Size) : ∀ i ∈ row size start cells, i.IsOfRow := by
  -- selections of a style and texts of the cells are all that a row has besides its ends
  have hstyle : ∀ style, ∀ i ∈ Instruction.setStyle style, i.IsOfRow :=
    fun style i hi => .inl (Instruction.isSelection_setStyle style i hi)
  have hprint : ∀ text style, .drawn text style ∈ cells → (Instruction.print text).IsOfRow :=
    fun text style hmem => .inr ⟨text, rfl, h text style hmem⟩
  exact forall_mem_row hstyle hprint (.inl (Instruction.isSelection_moveTo start))
    (.inl Instruction.isSelection_resetStyle) size

theorem row_eq_nil_iff {size : Size} {start : Position} {cells : List Cell} :
    row size start cells = [] ↔ size.rows ≤ start.row ∨ size.cols ≤ start.col := by
  unfold row
  split
  · next h => exact iff_of_true rfl h
  · next h => exact iff_of_false nofun h

/-! ### The row -/

/-- **Every character is printed in the style of its cell.** Whatever was done with a surface before,
the cells of a row are added to its stream as bytes from which a terminal prints, whatever its style
was, the characters of the cells up to the first one without room, each in the style of its cell; and
if there are such bytes at all, it is in the plain style afterwards. -/
theorem row_inscribed (window : Size) (operations : List Operation) (start : Position)
    (cells : List Cell)
    (hclean : ∀ text style, .drawn text style ∈ cells → ∀ c ∈ text, Text.isControl c = false) :
    let s := Operation.runAll { window := window } operations
    ∃ s' emitted, s.draw (.putCells start cells) = (.ok (), s') ∧ s'.stream = s.stream ++ emitted ∧
      (s.seen.rows ≤ start.row ∨ s.seen.cols ≤ start.col → emitted = []) ∧
      (start.row < s.seen.rows → start.col < s.seen.cols →
        ∃ k, IsCut s.seen.cols.toNat start.col.toNat cells k ∧
          ∀ p : Parser, p.state = .ground → ∃ q commands, p.scan emitted = (q, commands) ∧
            q.state = .ground ∧ ∀ c : Condition,
              c.inscribe commands = (cells.take k).flatMap Cell.inscription ∧
                (commands.foldl .perform c).pen = .plain) := by
  intro s
  have hadds := (Surface.isCounted_runAll window operations).holdAll (row s.seen start cells)
  refine ⟨_, _, rfl, hadds.2, fun houtside => ?_, fun hrow hcol => ?_⟩
  · -- outside of the size that was seen nothing is sent
    rw [row_eq_nil_iff.2 houtside]
    rfl
  obtain ⟨k, hcut, hglyphs⟩ :=
    inscribes_glyphs s.seen.cols.toNat cells none start.col.toNat
  refine ⟨k, hcut, fun p hp => ?_⟩
  obtain ⟨q, commands, hscan, hground, hread⟩ := inscribe_bytesOf (isOfRow_row hclean s.seen) hp
  refine ⟨q, commands, hscan, hground, fun c => ?_⟩
  -- the row begins with the cursor's place and ends with the plain style
  have hshape : row s.seen start cells = .moveTo start ::
      glyphs s.seen.cols.toNat none start.col.toNat cells ++ [.resetStyle, .resetStyle] := by
    unfold row
    rw [if_neg]
    rintro (h | h)
    · exact absurd hrow (UInt16.not_lt.2 h)
    · exact absurd hcol (UInt16.not_lt.2 h)
  rw [(hread c).1, (hread c).2, hshape]
  constructor
  · rw [Condition.inscribes_append, Condition.inscribes, hglyphs _ nofun]
    exact List.append_nil _
  · rw [Condition.obeyAll_append]
    rfl

/-- A row with a wide character and its right half, which ends with a cell that has no room. The
first two texts share their style, and the third is in another one. -/
def motleyRow : List Cell :=
  let bright : Style := { foreground := .indexed 9, attributes := { bold := true } }
  [.drawn ['a'] bright, .drawn ['中'] bright, .continuation bright,
    .drawn ['b'] { background := .rgb 1 2 3, attributes := { inverse := true } },
    .drawn ['c'] .plain]

theorem isCut_motleyRow : IsCut 6 1 motleyRow 4 where
  le_length := by decide
  hasRoom i hi := by
    obtain rfl | rfl | rfl | rfl : i = 0 ∨ i = 1 ∨ i = 2 ∨ i = 3 := by omega
    all_goals
      intro text style hcell
      cases hcell <;> decide +kernel
  full _ h := absurd (h _ _ rfl) (by decide +kernel)

theorem row_inscribed_motley :
    (∀ text style, .drawn text style ∈ motleyRow → ∀ c ∈ text, Text.isControl c = false) ∧
      ∃ s' emitted, (Operation.runAll { window := ⟨2, 6⟩ } [.askSize]).draw
          (.putCells ⟨0, 1⟩ motleyRow) = (.ok (), s') ∧ s'.stream = emitted ∧
        Condition.neutral.inscribe (({} : Parser).scan emitted).2
          = (motleyRow.take 4).flatMap Cell.inscription := by
  have hclean : ∀ text style, .drawn text style ∈ motleyRow →
      ∀ c ∈ text, Text.isControl c = false := by
    intro text style hmem
    simp only [motleyRow, List.mem_cons, Cell.drawn.injEq, reduceCtorEq, false_or, List.not_mem_nil,
      or_false] at hmem
    obtain ⟨rfl, -⟩ | ⟨rfl, -⟩ | ⟨rfl, -⟩ | ⟨rfl, -⟩ := hmem <;>
      exact List.forall_mem_singleton.2 rfl
  obtain ⟨s', emitted, hdraw, hstream, -, hrow⟩ :=
    row_inscribed ⟨2, 6⟩ [.askSize] ⟨0, 1⟩ motleyRow hclean
  obtain ⟨k, hcut, hread⟩ := hrow (by decide) (by decide)
  obtain ⟨q, commands, hscan, -, hcondition⟩ := hread {} rfl
  refine ⟨hclean, s', emitted, hdraw, hstream, ?_⟩
  rw [hscan, (hcondition _).1, hcut.unique isCut_motleyRow]

end Terminal

end FramedShell
