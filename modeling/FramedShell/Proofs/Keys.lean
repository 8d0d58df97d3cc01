import FramedShell.Toml.Document
import Mathlib.Data.List.Nodup

/-!
# No key stands twice in a table

A table is a list of keys and values, and looking up a key takes the first of them. For the tables that
a document describes this is no choice: a key is only added where it is missing, and every other change
replaces the value of a key that is there. So membership decides what a table has for a key, and the
order of its entries does not matter.

The values come from readers that are put together from smaller ones. What is proved of a reader is that
everything it yields has a property (`Reader.Yields`), with one rule for each way of putting readers
together.

## Main definitions

* `Value.IsProper`, `Entries.IsProper` — no key stands twice, in a table and in all tables within it;
* `Reader.Yields` — everything that a reader yields has a property.

## Main results

* `isProper_nestedValue` — every value that is read is proper;
* `isProper_read?` — so is the table that a document describes.
-/

namespace FramedShell.Toml

/-! ### Proper tables -/

/-- **No key stands twice** in a value, neither in itself nor in anything within it. -/
inductive Value.IsProper : Value → Prop where
  | string (text : String) : IsProper (.string text)
  | integer (n : Int) : IsProper (.integer n)
  | float : IsProper .float
  | boolean (b : Bool) : IsProper (.boolean b)
  | date : IsProper .date
  | array {items : List Value} (hitems : ∀ v ∈ items, IsProper v) : IsProper (.array items)
  | table {origin : Origin} {entries : List (String × Value)}
      (hkeys : (entries.map Prod.fst).Nodup) (hentries : ∀ e ∈ entries, IsProper e.2) :
      IsProper (.table origin entries)
  | tables {elements : List (List (String × Value))}
      (hkeys : ∀ es ∈ elements, (es.map Prod.fst).Nodup)
      (helements : ∀ es ∈ elements, ∀ e ∈ es, IsProper e.2) : IsProper (.tables elements)

namespace Entries

/-- **No key stands twice** among some entries, nor within any of them. -/
structure IsProper (es : Entries) : Prop where
  keys : (es.map Prod.fst).Nodup
  values : ∀ e ∈ es, e.2.IsProper

theorem IsProper.table {es : Entries} (h : es.IsProper) (origin : Origin) :
    (Value.table origin es).IsProper :=
  .table h.keys h.values

theorem isProper_of_table {origin : Origin} {es : Entries} (h : (Value.table origin es).IsProper) :
    es.IsProper := by
  cases h with
  | table hkeys hentries => exact ⟨hkeys, hentries⟩

theorem isProper_tables {elements : List Entries} :
    (Value.tables elements).IsProper ↔ ∀ es ∈ elements, es.IsProper := by
  constructor
  · intro h
    cases h with
    | tables hkeys helements => exact fun es hes => ⟨hkeys es hes, helements es hes⟩
  · exact fun h => .tables (fun es hes => (h es hes).keys) fun es hes => (h es hes).values

theorem isProper_nil : IsProper [] := ⟨List.nodup_nil, nofun⟩

/-! ### Looking up -/

variable {key : String} {value : Value} {es : Entries}

theorem lookup?_eq_none_iff : es.lookup? key = none ↔ key ∉ es.map Prod.fst := by
  induction es with
  | nil => exact iff_of_true rfl List.not_mem_nil
  | cons first rest ih =>
    obtain ⟨k, v⟩ := first
    -- the key is that of the first entry, or it is among the others
    rw [lookup?, List.map_cons, List.mem_cons, not_or]
    split
    · next h => exact iff_of_false nofun fun hne => hne.1 h.symm
    · next h => rw [ih, and_iff_right (Ne.symm h)]

theorem mem_of_lookup? (h : es.lookup? key = some value) : (key, value) ∈ es := by
  induction es with
  | nil => cases h
  | cons first rest ih =>
    obtain ⟨k, v⟩ := first
    rw [lookup?] at h
    split at h
    -- the first entry with the key is the one that is found
    · next hkey =>
      cases h
      rw [hkey]
      exact List.mem_cons_self
    · exact List.mem_cons_of_mem _ (ih h)

/-- **Where no key stands twice**, what is among the entries is what is found. -/
theorem lookup?_eq_some_iff (hkeys : (es.map Prod.fst).Nodup) :
    es.lookup? key = some value ↔ (key, value) ∈ es := by
  refine ⟨mem_of_lookup?, fun hmem => ?_⟩
  cases hfound : es.lookup? key with
  -- a key that is not found stands nowhere
  | none => exact absurd (List.mem_map.2 ⟨_, hmem, rfl⟩) (lookup?_eq_none_iff.1 hfound)
  | some v =>
    -- two entries with the same key are one entry
    have heq := List.inj_on_of_nodup_map hkeys (mem_of_lookup? hfound) hmem rfl
    exact congrArg (fun e => some e.2) heq

/-! ### Changing a table -/

theorem map_fst_replace : (es.replace key value).map Prod.fst = es.map Prod.fst := by
  induction es with
  | nil => rfl
  | cons first rest ih =>
    obtain ⟨k, v⟩ := first
    -- the value changes in place, and the keys stay as they are
    rw [replace]
    split
    · rfl
    · exact congrArg (k :: ·) ih

theorem mem_replace {e : String × Value} (h : e ∈ es.replace key value) :
    e ∈ es ∨ e = (key, value) := by
  induction es with
  | nil => cases h
  | cons first rest ih =>
    obtain ⟨k, v⟩ := first
    rw [replace] at h
    split at h
    · next hkey =>
      obtain rfl | h := List.mem_cons.1 h
      · exact .inr (by rw [hkey])
      · exact .inl (List.mem_cons_of_mem _ h)
    · obtain rfl | h := List.mem_cons.1 h
      · exact .inl List.mem_cons_self
      · exact (ih h).imp_left (List.mem_cons_of_mem _)

/-- A key is added where it is missing. -/
theorem IsProper.append (h : es.IsProper) (hkey : es.lookup? key = none) (hvalue : value.IsProper) :
    IsProper (es ++ [(key, value)]) := by
  constructor
  · -- the new key is none of those before it
    rw [List.map_append, List.nodup_append]
    refine ⟨h.keys, List.nodup_singleton _, fun k hk k' hk' heq => ?_⟩
    rw [heq, List.mem_singleton.1 hk'] at hk
    exact lookup?_eq_none_iff.1 hkey hk
  · intro e he
    obtain he | he := List.mem_append.1 he
    · exact h.values e he
    · rw [List.mem_singleton.1 he]
      exact hvalue

/-- The value of a key is replaced. -/
theorem IsProper.replace (h : es.IsProper) (hvalue : value.IsProper) :
    (es.replace key value).IsProper := by
  refine ⟨map_fst_replace.symm ▸ h.keys, fun e he => ?_⟩
  -- what is among the entries now was there before, or is the new one
  obtain he | rfl := mem_replace he
  · exact h.values e he
  · exact hvalue

theorem IsProper.lookup? (h : es.IsProper) (hfound : es.lookup? key = some value) :
    value.IsProper :=
  h.values _ (mem_of_lookup? hfound)

/-- The last of some tables is replaced. -/
theorem isProper_tables_concat {elements : List Entries} {last : Entries}
    (h : (Value.tables elements).IsProper) (hlast : last.IsProper) :
    (Value.tables (elements.dropLast ++ [last])).IsProper := by
  refine isProper_tables.2 fun es hes => ?_
  obtain hes | hes := List.mem_append.1 hes
  · exact isProper_tables.1 h es (List.dropLast_subset elements hes)
  · rw [List.mem_singleton.1 hes]
    exact hlast

theorem isProper_getLast {elements : List Entries} {last : Entries}
    (h : (Value.tables elements).IsProper) (hlast : elements.getLast? = some last) :
    last.IsProper :=
  isProper_tables.1 h last (List.mem_of_getLast? hlast)

/-! ### Building tables -/

/-- **A change of a table keeps it proper**, where it succeeds. -/
def Keeps (f : Entries → Option Entries) : Prop :=
  ∀ es es', f es = some es' → es.IsProper → es'.IsProper

theorem keeps_put (hvalue : value.IsProper) (path : List String) (extensible : Bool) :
    Keeps (put extensible key value path) := by
  -- on the way down a key is added where it is missing, and otherwise its value is replaced
  induction path generalizing extensible with
  | nil =>
    intro es es' hput h
    rw [put] at hput
    split at hput
    -- the last key is new to its table
    · next hnew =>
      cases hput
      exact h.append (Option.isNone_iff_eq_none.1 (Bool.and_eq_true_iff.1 hnew).2) hvalue
    · cases hput
  | cons k path ih =>
    intro es es' hput h
    rw [put] at hput
    split at hput
    -- a table is made for the rest of the path
    · next hmissing =>
      obtain ⟨sub, hsub, heq⟩ := Option.bind_eq_some_iff.1 hput
      cases heq
      exact h.append hmissing ((ih _ _ _ hsub isProper_nil).table _)
    -- the path leads through a table that dotted keys have made
    · next sub hfound =>
      obtain ⟨sub', hsub, heq⟩ := Option.bind_eq_some_iff.1 hput
      cases heq
      exact h.replace ((ih _ _ _ hsub (isProper_of_table (h.lookup? hfound))).table _)
    -- it leads through a table that headers have passed
    · next sub hfound =>
      obtain ⟨sub', hsub, heq⟩ := Option.bind_eq_some_iff.1 hput
      cases heq
      exact h.replace ((ih _ _ _ hsub (isProper_of_table (h.lookup? hfound))).table _)
    -- of an array of tables the last one is meant
    · next elements hfound =>
      split at hput
      · next last hlast =>
        obtain ⟨last', hput', heq⟩ := Option.bind_eq_some_iff.1 hput
        cases heq
        have helements := h.lookup? hfound
        exact h.replace (isProper_tables_concat helements
          (ih _ _ _ hput' (isProper_getLast helements hlast)))
      · cases hput
    · -- it leads through a value that is no table, and nothing is put
      cases hput

/-- Several changes, one after the other. -/
theorem keeps_foldlM {α : Type} {f : Entries → α → Option Entries} {changes : List α}
    (h : ∀ a ∈ changes, Keeps (f · a)) : Keeps (changes.foldlM f) := by
  -- the induction is on the changes, from the table that the first one has left
  induction changes with
  | nil =>
    intro es es' heq hes
    cases heq
    exact hes
  | cons a rest ih =>
    intro es es' heq hes
    obtain ⟨es'', hfirst, hrest⟩ := Option.bind_eq_some_iff.1 heq
    exact ih (fun a' ha' => h a' (List.mem_cons_of_mem a ha')) _ _ hrest
      (h a List.mem_cons_self _ _ hfirst hes)

/-- Assignments of proper values. -/
def AreProper (as : List Assignment) : Prop := ∀ a ∈ as, a.value.IsProper

theorem keeps_assignAll {as : List Assignment} (has : AreProper as) : Keeps (assignAll as) :=
  keeps_foldlM fun a ha => keeps_put (has a ha) a.path true

theorem keeps_within {f : Entries → Option Entries} (hf : Keeps f) (path : List String) :
    Keeps (within f path) := by
  -- the induction is on the headers that are still to be passed
  induction path with
  | nil => exact hf
  | cons k path ih =>
    intro es es' hwithin h
    rw [within] at hwithin
    split at hwithin
    -- a table is made on the way
    · next hmissing =>
      obtain ⟨sub, hsub, heq⟩ := Option.bind_eq_some_iff.1 hwithin
      cases heq
      exact h.append hmissing ((ih _ _ hsub isProper_nil).table _)
    · -- a table in braces is closed to headers
      cases hwithin
    -- the way leads through a table, whatever has made it
    · next origin sub _ hfound =>
      obtain ⟨sub', hsub, heq⟩ := Option.bind_eq_some_iff.1 hwithin
      cases heq
      exact h.replace ((ih _ _ hsub (isProper_of_table (h.lookup? hfound))).table _)
    -- it leads through the last of several tables
    · next elements hfound =>
      split at hwithin
      · next last hlast =>
        obtain ⟨last', hlast', heq⟩ := Option.bind_eq_some_iff.1 hwithin
        cases heq
        have helements := h.lookup? hfound
        exact h.replace (isProper_tables_concat helements
          (ih _ _ hlast' (isProper_getLast helements hlast)))
      · cases hwithin
    · cases hwithin

section

variable {as : List Assignment} (has : AreProper as)

include has

theorem keeps_defineTable (key : String) : Keeps (defineTable key as) := by
  intro es es' hdefine h
  unfold defineTable at hdefine
  split at hdefine
  -- the table is new
  · next hmissing =>
    obtain ⟨sub, hsub, heq⟩ := Option.bind_eq_some_iff.1 hdefine
    cases heq
    exact h.append hmissing ((keeps_assignAll has _ _ hsub isProper_nil).table _)
  -- headers have led through the table before, and it has entries already
  · next sub hfound =>
    obtain ⟨sub', hsub, heq⟩ := Option.bind_eq_some_iff.1 hdefine
    cases heq
    exact h.replace
      ((keeps_assignAll has _ _ hsub (isProper_of_table (h.lookup? hfound))).table _)
  · -- a table is not defined twice
    cases hdefine

theorem keeps_defineElement (key : String) : Keeps (defineElement key as) := by
  intro es es' hdefine h
  unfold defineElement at hdefine
  split at hdefine
  -- the array begins with this element
  · next hmissing =>
    obtain ⟨sub, hsub, heq⟩ := Option.bind_eq_some_iff.1 hdefine
    cases heq
    have hnew := keeps_assignAll has _ _ hsub isProper_nil
    exact h.append hmissing (isProper_tables.2 fun es hes => List.mem_singleton.1 hes ▸ hnew)
  -- the element comes after the ones before it, which are proper as they were
  · next elements hfound =>
    obtain ⟨sub, hsub, heq⟩ := Option.bind_eq_some_iff.1 hdefine
    cases heq
    have hnew := keeps_assignAll has _ _ hsub isProper_nil
    refine h.replace (isProper_tables.2 fun es hes => ?_)
    obtain hes | hes := List.mem_append.1 hes
    · exact isProper_tables.1 (h.lookup? hfound) es hes
    · rw [List.mem_singleton.1 hes]
      exact hnew
  · cases hdefine

theorem isProper_ofBraces {value : Value} (h : ofBraces as = some value) : value.IsProper := by
  obtain ⟨es, hes, rfl⟩ := Option.map_eq_some_iff.1 h
  exact (keeps_assignAll has _ _ hes isProper_nil).table _

end

end Entries

/-! ### Readers -/

namespace Reader

variable {α β : Type} {P : α → Prop} {Q : β → Prop}

/-- **Everything that a reader yields** has a property. -/
def Yields (P : α → Prop) (r : Reader α) : Prop :=
  ∀ text a rest, r text = some (a, rest) → P a

theorem yields_true (r : Reader α) : r.Yields fun _ => True := fun _ _ _ _ => trivial

theorem yields_pure {a : α} (h : P a) : (pure a : Reader α).Yields P := by
  rintro text a' rest hpure
  cases hpure
  exact h

theorem yields_bind {r : Reader α} {f : α → Reader β} (hr : r.Yields P)
    (hf : ∀ a, P a → (f a).Yields Q) : (r >>= f).Yields Q := by
  intro text b rest hbind
  obtain ⟨⟨a, rest'⟩, hfirst, hrest⟩ := Option.bind_eq_some_iff.1 hbind
  exact hf a (hr _ _ _ hfirst) _ _ _ hrest

theorem yields_then {r : Reader α} {f : α → Reader β} (h : ∀ a, (f a).Yields Q) :
    (r >>= f).Yields Q :=
  yields_bind r.yields_true fun a _ => h a

theorem yields_failure : (failure : Reader α).Yields P := nofun

theorem yields_map {r : Reader α} {f : α → β} (hr : r.Yields P) (hf : ∀ a, P a → Q (f a)) :
    (f <$> r).Yields Q :=
  yields_bind hr fun a ha => yields_pure (hf a ha)

theorem yields_orElse {r r' : Reader α} (h : r.Yields P) (h' : r'.Yields P) :
    (r <|> r').Yields P := by
  intro text a rest heq
  change (r text <|> r' text) = some (a, rest) at heq
  -- the second reader is tried only where the first one has failed
  cases hfirst : r text with
  | none =>
    rw [hfirst] at heq
    exact h' _ _ _ heq
  | some result =>
    rw [hfirst] at heq
    cases heq
    exact h _ _ _ hfirst

theorem yields_lift {o : Option α} (h : ∀ a, o = some a → P a) :
    Reader.Yields P (StateT.lift o) := by
  intro text a rest heq
  obtain ⟨a', ha', hpure⟩ := Option.bind_eq_some_iff.1 heq
  cases hpure
  exact h a ha'

theorem yields_option {r : Reader α} (h : r.Yields P) :
    (option r).Yields fun o => ∀ a, o = some a → P a :=
  yields_orElse (yields_map h fun _ ha _ heq => Option.some.inj heq ▸ ha) (yields_pure nofun)

theorem yields_many {r : Reader α} (h : r.Yields P) : (many r).Yields fun as => ∀ a ∈ as, P a := by
  -- the length of the text only bounds how often something is read
  have hupTo : ∀ n, (upTo r n).Yields fun as => ∀ a ∈ as, P a := by
    intro n
    induction n with
    | zero => exact yields_pure nofun
    | succ n ih =>
      refine yields_bind (yields_option h) fun o ho => ?_
      cases o with
      | none => exact yields_pure nofun
      | some a =>
        exact yields_map ih fun as has => List.forall_mem_cons.2 ⟨ho a rfl, has⟩
  exact fun text => hupTo text.length text

theorem yields_separated {r : Reader α} (h : r.Yields P) (separator : Char) :
    (separated r separator).Yields fun as => ∀ a ∈ as, P a :=
  yields_bind h fun _ ha => yields_bind (yields_many (yields_then fun _ => h)) fun _ has =>
    yields_pure (List.forall_mem_cons.2 ⟨ha, has⟩)

end Reader

/-! ### Documents -/

open Reader

theorem isProper_integer? {n : Int} {v : Value} (h : integer? n = some v) : v.IsProper := by
  unfold integer? at h
  split at h
  · cases h
    exact .integer n
  · cases h

theorem isProper_integer : integer.Yields Value.IsProper := by
  -- the three bases with a mark of their own, and then the decimal digits
  have hmarked : ∀ mark base isDigit, (marked mark base isDigit).Yields Value.IsProper :=
    fun _ _ _ => yields_then fun _ => yields_then fun _ => yields_lift fun _ => isProper_integer?
  refine yields_orElse (hmarked _ _ _) <| yields_orElse (hmarked _ _ _) <|
    yields_orElse (hmarked _ _ _) ?_
  exact yields_then fun _ => yields_then fun _ => yields_lift fun _ => isProper_integer?

theorem isProper_float : float.Yields Value.IsProper := by
  refine yields_orElse (yields_then fun _ => yields_then fun _ => yields_then fun _ => ?_) <|
    yields_then fun _ => yields_then fun _ => yields_pure .float
  dsimp only
  split
  · exact yields_failure
  · exact yields_pure .float

theorem isProper_plainValue : plainValue.Yields Value.IsProper :=
  yields_orElse (yields_map (yields_true _) fun _ _ => .string _) <|
    yields_orElse (yields_then fun _ => yields_pure .date) <| yields_orElse isProper_float <|
    yields_orElse isProper_integer <|
    yields_orElse (yields_then fun _ => yields_pure (.boolean true)) <|
    yields_then fun _ => yields_pure (.boolean false)

theorem isProper_assignment {value : Reader Value} (h : value.Yields Value.IsProper) :
    (assignment value).Yields fun a => a.value.IsProper :=
  yields_then fun _ => yields_then fun _ => yields_then fun _ => yields_bind h fun _ hv =>
    yields_then fun _ => yields_pure hv

theorem isProper_array {item : Reader Value} (h : item.Yields Value.IsProper) :
    (array item).Yields Value.IsProper := by
  refine yields_then fun _ => yields_bind (yields_option (yields_separated (yields_then fun _ =>
    yields_bind h fun _ hv => yields_then fun _ => yields_pure hv) ',')) fun items hitems => ?_
  -- a comma after the last item adds nothing
  have hrest : (gap >>= fun _ => Reader.char ']' >>= fun _ =>
      pure (.array (items.getD [])) : Reader Value).Yields Value.IsProper := by
    refine yields_then fun _ => yields_then fun _ => yields_pure (.array fun v hv => ?_)
    cases items with
    | none => cases hv
    | some vs => exact hitems vs rfl v hv
  dsimp only
  split
  · exact yields_then fun _ => hrest
  · exact hrest

theorem isProper_braces {value : Reader Value} (h : value.Yields Value.IsProper) :
    (braces value).Yields Value.IsProper := by
  refine yields_then fun _ => yields_bind
    (yields_option (yields_separated (isProper_assignment h) ',')) fun pairs hpairs => ?_
  refine yields_then fun _ => yields_then fun _ => yields_lift fun v hv => ?_
  refine Entries.isProper_ofBraces (fun a ha => ?_) hv
  cases pairs with
  | none => cases ha
  | some as => exact hpairs as rfl a ha

/-- **Every value that is read is proper.** -/
theorem isProper_nestedValue (depth : Nat) : (nestedValue depth).Yields Value.IsProper := by
  induction depth with
  | zero => exact isProper_plainValue
  | succ depth ih =>
    exact yields_orElse (isProper_array ih) (yields_orElse (isProper_braces ih) isProper_plainValue)

/-- A line whose value is proper, if it has one. -/
def Line.IsProper : Line → Prop
  | .assign a => a.value.IsProper
  | _ => True

theorem isProper_lines : lines.Yields fun ls => ∀ l ∈ ls, l.IsProper := by
  have hline : line.Yields Line.IsProper :=
    yields_orElse (yields_then fun _ => yields_pure trivial) <|
      yields_orElse (yields_then fun _ => yields_then fun _ => yields_pure trivial) <|
      yields_orElse (yields_then fun _ => yields_then fun _ => yields_pure trivial) <|
      yields_bind (isProper_assignment (isProper_nestedValue maxDepth)) fun _ ha =>
        yields_then fun _ => yields_pure ha
  exact yields_then fun _ => yields_many <| yields_bind hline fun _ hl =>
    yields_then fun _ => yields_pure hl

/-- A document whose values are proper. -/
structure Document.IsProper (d : Document) : Prop where
  assignments : Entries.AreProper d.assignments
  sections : ∀ s ∈ d.sections, Entries.AreProper s.assignments

theorem isProper_ofLines {ls : List Line} (h : ∀ l ∈ ls, l.IsProper) :
    (Document.ofLines ls).IsProper := by
  induction ls with
  | nil => exact ⟨nofun, nofun⟩
  | cons l rest ih =>
    have hrest := ih fun l' hl' => h l' (List.mem_cons_of_mem l hl')
    cases l with
    | blank => exact hrest
    | assign a =>
      exact ⟨List.forall_mem_cons.2 ⟨h _ List.mem_cons_self, hrest.assignments⟩, hrest.sections⟩
    | header header =>
      exact ⟨nofun, List.forall_mem_cons.2 ⟨hrest.assignments, hrest.sections⟩⟩

theorem keeps_define {s : Section} (h : Entries.AreProper s.assignments) :
    Entries.Keeps (Document.define · s) := by
  refine Entries.keeps_within ?_ _
  split
  · exact Entries.keeps_defineElement h _
  · exact Entries.keeps_defineTable h _

theorem isProper_entries? {d : Document} (h : d.IsProper) {es : Entries}
    (hentries : d.entries? = some es) : es.IsProper := by
  obtain ⟨first, hfirst, hsections⟩ := Option.bind_eq_some_iff.1 hentries
  exact Entries.keeps_foldlM (fun s hs => keeps_define (h.sections s hs)) _ _ hsections
    (Entries.keeps_assignAll h.assignments _ _ hfirst Entries.isProper_nil)

/-- **The table that a text describes is proper.** -/
theorem isProper_read? {text : List Char} {es : Entries} (h : read? text = some es) :
    es.IsProper := by
  obtain ⟨d, hd, hentries⟩ := Option.bind_eq_some_iff.1 h
  refine isProper_entries? ?_ hentries
  unfold Document.read? at hd
  dsimp only at hd
  generalize (if text.head? = some '\ufeff' then text.tail else text) = body at hd
  split at hd
  · next ls hlines =>
    cases hd
    exact isProper_ofLines (isProper_lines _ _ _ hlines)
  · cases hd

end FramedShell.Toml
