import FramedShell.Proofs.Keys
import FramedShell.Proofs.Settings
import Mathlib.Logic.Relation

/-!
# The settings of a document

A document describes a tree of values, and each setting has its place in the tree: among the entries of
the document itself, or in one of two groups, by name or by its position. What stands there must be a
value of the setting. The settings are read one by one, but a document is used as a whole or not at all:
it is used if every value that stands in a place of a setting is a value of that setting, and then each
setting has the value that stands in its place, or its default where there is none.

Nothing else in the document matters. This is stated by edits: reordering the entries of tables, and
adding and removing entries that are neither settings nor groups, anywhere in the tree. Only where an
engine is given as a table every key counts. Two documents whose trees are connected by edits have the
same settings.

## Main definitions

* `Field.Stands` — a value stands in the place of a setting;
* `Field.Means` — a value is that of a setting;
* `IsAdmissible` — everything that stands in the place of a setting is right;
* `Edit`, `Edited` — what can be changed in a tree without consequences.

## Main results

* `given?_eq_some_iff`, `given?_eq_none_iff` — what is read for a setting is what stands in its place;
* `Edited.given?_eq` — edits change nothing.
-/

namespace FramedShell.Config

open Toml (Entries)

/-! ### Values -/

/-- The name of an engine. -/
def engineWord : EngineKind → String
  | .emulator => "vt100"
  | .off => "none"

/-- **A value is that of a setting.** An engine may also be the only key of a table, with nothing in it;
a color is an array, of which the first three items count. -/
def Field.Means : (f : Field) → Toml.Value → f.Value → Prop
  | shell, v, text => v = .string text
  | title, v, text => v = .string text
  | pollInterval, v, n => v = .integer n.toNat
  | measure _, v, n => v = .integer n.toNat
  | engine, v, kind => v = .string (engineWord kind) ∨
      ∃ origin w, v = .table origin [(engineWord kind, w)] ∧ isEmptyGroup w = true
  | color _, v, mix => ∃ items, v = .array items ∧ items[0]? = some (.integer mix.red.toNat) ∧
      items[1]? = some (.integer mix.green.toNat) ∧ items[2]? = some (.integer mix.blue.toNat)

theorem text?_eq_some_iff {v : Toml.Value} {text : String} : text? v = some text ↔ v = .string text := by
  cases v <;> simp [text?]

theorem natBelow?_eq_some_iff {bound n : Nat} {v : Toml.Value} :
    natBelow? bound v = some n ↔ v = .integer n ∧ n < bound := by
  cases v with
  | integer i =>
    rw [natBelow?, Option.ite_none_right_eq_some, Option.some.injEq, Toml.Value.integer.injEq]
    omega
  -- nothing but an integer is read as a number
  | _ => exact iff_of_false nofun nofun

section

variable {α : Type} {bound : Nat} {ofNat : Nat → α} {toNat : α → Nat}

/-- Words of a bounded size are the numbers below a bound. -/
theorem map_natBelow?_eq_some_iff (hlt : ∀ a, toNat a < bound)
    (htoNat : ∀ n < bound, toNat (ofNat n) = n) (hofNat : ∀ a, ofNat (toNat a) = a)
    {v : Toml.Value} {a : α} :
    (natBelow? bound v).map ofNat = some a ↔ v = .integer (toNat a) := by
  rw [Option.map_eq_some_iff]
  constructor
  · -- what is read is a number below the bound, which the word stands for
    rintro ⟨n, hn, rfl⟩
    obtain ⟨rfl, hbound⟩ := natBelow?_eq_some_iff.1 hn
    rw [htoNat n hbound]
  · rintro rfl
    exact ⟨toNat a, natBelow?_eq_some_iff.2 ⟨rfl, hlt a⟩, hofNat a⟩

end

theorem coord?_eq_some_iff {v : Toml.Value} {n : Coord} : coord? v = some n ↔ v = .integer n.toNat :=
  map_natBelow?_eq_some_iff UInt16.toNat_lt (fun _ => UInt16.toNat_ofNat_of_lt)
    fun _ => UInt16.ofNat_toNat

theorem word?_eq_some_iff {v : Toml.Value} {n : UInt64} : word? v = some n ↔ v = .integer n.toNat :=
  map_natBelow?_eq_some_iff UInt64.toNat_lt (fun _ => UInt64.toNat_ofNat_of_lt)
    fun _ => UInt64.ofNat_toNat

theorem part?_eq_some_iff {v : Toml.Value} {n : UInt8} : part? v = some n ↔ v = .integer n.toNat :=
  map_natBelow?_eq_some_iff UInt8.toNat_lt (fun _ => UInt8.toNat_ofNat_of_lt)
    fun _ => UInt8.ofNat_toNat

theorem mix?_eq_some_iff {v : Toml.Value} {mix : Mix} {s : Shade} :
    mix? v = some mix ↔ (Field.color s).Means v mix := by
  constructor
  · intro h
    unfold mix? at h
    split at h
    · next r g b rest =>
      -- the first three items are parts of a color, and the others are not looked at
      simp only [Option.bind_eq_bind, Option.bind_eq_some_iff, part?_eq_some_iff] at h
      obtain ⟨red, rfl, green, rfl, blue, rfl, heq⟩ := h
      cases heq
      exact ⟨_, rfl, rfl, rfl, rfl⟩
    · cases h
  · rintro ⟨items, rfl, hred, hgreen, hblue⟩
    -- an array with three items to look at has at least three
    obtain _ | ⟨r, _ | ⟨g, _ | ⟨b, rest⟩⟩⟩ := items
    · cases hred
    · cases hgreen
    · cases hblue
    · cases hred
      cases hgreen
      cases hblue
      simp only [mix?, Option.bind_eq_bind, Option.bind_eq_some_iff, part?_eq_some_iff]
      exact ⟨_, rfl, _, rfl, _, rfl, rfl⟩

theorem engineNamed?_eq_some_iff {name : String} {kind : EngineKind} :
    engineNamed? name = some kind ↔ name = engineWord kind := by
  constructor
  · intro h
    unfold engineNamed? at h
    -- the two names are tried one after the other
    split at h
    · next hname =>
      cases h
      exact hname
    · split at h
      · next hname =>
        cases h
        exact hname
      · cases h
  · rintro rfl
    cases kind <;> decide

theorem engine?_eq_some_iff {v : Toml.Value} {kind : EngineKind} :
    engine? v = some kind ↔ Field.engine.Means v kind := by
  constructor
  · intro h
    unfold engine? at h
    split at h
    · next name => exact .inl (by rw [engineNamed?_eq_some_iff.1 h])
    · next origin name w =>
      obtain ⟨hempty, hname⟩ := Option.ite_none_right_eq_some.1 h
      exact .inr ⟨origin, w, by rw [engineNamed?_eq_some_iff.1 hname], hempty⟩
    · cases h
  · -- an engine by its name, and one by the only key of a table
    rintro (rfl | ⟨origin, w, rfl, hempty⟩)
    · exact engineNamed?_eq_some_iff.2 rfl
    · rw [engine?, if_pos hempty]
      exact engineNamed?_eq_some_iff.2 rfl

theorem Field.read_eq_some_iff {f : Field} {v : Toml.Value} {x : f.Value} :
    f.read v = some x ↔ f.Means v x := by
  cases f with
  | shell => exact text?_eq_some_iff
  | engine => exact engine?_eq_some_iff
  | pollInterval => exact word?_eq_some_iff
  | measure m => exact coord?_eq_some_iff
  | color s => exact mix?_eq_some_iff
  | title => exact text?_eq_some_iff

/-! ### Places -/

/-- **A value stands in a group** under a name: in a table by its key, and in an array by the position
of the name among the names of the group. -/
inductive Holds (names : List String) : Toml.Value → String → Toml.Value → Prop where
  | entry {origin : Toml.Origin} {es : Entries} {name : String} {v : Toml.Value} (h : (name, v) ∈ es) :
      Holds names (.table origin es) name v
  | item {items : List Toml.Value} {name : String} {v : Toml.Value} {i : Nat}
      (hname : names[i]? = some name) (hitem : items[i]? = some v) : Holds names (.array items) name v
  | element {elements : List Entries} {name : String} {es : Entries} {i : Nat}
      (hname : names[i]? = some name) (helement : elements[i]? = some es) :
      Holds names (.tables elements) name (.table .header es)

/-- **A value stands in the place of a setting.** -/
def Field.Stands (f : Field) (es : Entries) (v : Toml.Value) : Prop :=
  match f.group with
  | none => (f.name, v) ∈ es
  | some (group, names) => ∃ w, (group, w) ∈ es ∧ Holds names w f.name v

/-- A value is a table or an array. -/
def IsStruct : Toml.Value → Prop
  | .table _ _ => True
  | .array _ => True
  | .tables _ => True
  | _ => False

instance : DecidablePred IsStruct
  | .table _ _ | .array _ | .tables _ => inferInstanceAs (Decidable True)
  | .string _ | .integer _ | .float | .boolean _ | .date => inferInstanceAs (Decidable False)

/-- **A value is a group**: a table or an array. A date passes for a group in which nothing stands. -/
def IsGroup (v : Toml.Value) : Prop := IsStruct v ∨ v = .date

/-- **The entries of a document are admissible**, given what a group may be: the groups are such, and
what stands in the place of a setting is a value of it. -/
structure IsAdmissible (MayBeGroup : Toml.Value → Prop) (es : Entries) : Prop where
  groups : ∀ w, ("chrome", w) ∈ es ∨ ("theme", w) ∈ es → MayBeGroup w
  values : ∀ (f : Field) (v : Toml.Value), f.Stands es v → ∃ x, f.Means v x

/-! ### What is read for a setting -/

/-- Where a key stands in a list of names and values. -/
theorem lookup?_zip {names : List String} (hnames : names.Nodup) {name : String}
    {items : List Toml.Value} {v : Toml.Value} :
    Entries.lookup? name (names.zip items) = some v ↔
      ∃ i : Nat, names[i]? = some name ∧ items[i]? = some v := by
  -- the keys are names from the beginning of the list, so they are distinct as well
  have hkeys : ((names.zip items).map Prod.fst).Nodup := by
    rw [List.zip_eq_zip_take_min, List.map_fst_zip (by simp)]
    exact hnames.sublist (List.take_sublist _ _)
  rw [Entries.lookup?_eq_some_iff hkeys, List.mem_iff_getElem?]
  simp only [List.getElem?_zip_eq_some]

theorem group?_eq_none_iff {names : List String} {w : Toml.Value} :
    group? names w = none ↔ ¬ IsGroup w := by
  cases w <;> simp [group?, IsGroup, IsStruct]

/-- **What is found in a group** is what stands in it. -/
theorem lookup?_group? {names : List String} (hnames : names.Nodup) {w : Toml.Value}
    (hw : w.IsProper) {es : Entries} (h : group? names w = some es) {name : String}
    {v : Toml.Value} : es.lookup? name = some v ↔ Holds names w name v := by
  unfold group? at h
  split at h
  · -- a table: its entries are what stands in it
    cases h
    rw [Entries.lookup?_eq_some_iff (Entries.isProper_of_table hw).keys]
    refine ⟨.entry, fun hholds => ?_⟩
    cases hholds with
    | entry hmem => exact hmem
  · -- an array: the items are named by their positions
    cases h
    rw [lookup?_zip hnames]
    refine ⟨fun ⟨i, hname, hitem⟩ => .item hname hitem, fun hholds => ?_⟩
    cases hholds with
    | item hname hitem => exact ⟨_, hname, hitem⟩
  · -- an array of tables: each element counts as a table under its name
    cases h
    rw [lookup?_zip hnames]
    constructor
    · rintro ⟨i, hname, hitem⟩
      rw [List.getElem?_map, Option.map_eq_some_iff] at hitem
      obtain ⟨es, helement, rfl⟩ := hitem
      exact .element hname helement
    · intro hholds
      cases hholds with
      | element hname helement =>
        exact ⟨_, hname, by rw [List.getElem?_map, helement, Option.map_some]⟩
  · -- a date has no entries, and nothing stands in it
    cases h
    exact iff_of_false nofun nofun
  · -- anything else is no group
    cases h

/-- The group of a setting is given as something else. -/
def Field.IsMisplaced (f : Field) (es : Entries) : Prop :=
  ∃ group names w, f.group = some (group, names) ∧ (group, w) ∈ es ∧ ¬ IsGroup w

theorem Field.nodup_of_group {f : Field} {group : String} {names : List String}
    (h : f.group = some (group, names)) : names.Nodup := by
  cases f <;> cases h <;> decide

section

variable {f : Field} {es sub : Entries}

theorem Holds.isGroup {names : List String} {w v : Toml.Value} {name : String}
    (h : Holds names w name v) : IsGroup w := by
  cases h <;> exact .inl trivial

theorem entries?_eq_none_iff (h : es.IsProper) : f.entries? es = none ↔ f.IsMisplaced es := by
  unfold Field.entries? Field.IsMisplaced
  cases hgroup : f.group with
  | none => exact iff_of_false nofun nofun
  | some place =>
    obtain ⟨group, names⟩ := place
    unfold setting
    dsimp only
    -- the group is found if it is given at all
    have hfound : ∀ w, (group, w) ∈ es → es.lookup? group = some w :=
      fun w => (Entries.lookup?_eq_some_iff h.keys).2
    cases hlookup : es.lookup? group with
    -- the group is not given, and nothing can be misplaced in it
    | none =>
      refine iff_of_false nofun ?_
      rintro ⟨_, _, w, heq, hmem, -⟩
      cases heq
      cases hlookup.symm.trans (hfound w hmem)
    -- the group is given once, as the keys are distinct, so it decides alone
    | some w =>
      dsimp only
      rw [group?_eq_none_iff]
      refine ⟨fun hw => ⟨group, names, w, rfl, Entries.mem_of_lookup? hlookup, hw⟩, ?_⟩
      rintro ⟨_, _, w', heq, hmem, hw⟩
      cases heq
      cases hlookup.symm.trans (hfound w' hmem)
      exact hw

/-- **What is found for a setting** is what stands in its place. -/
theorem lookup?_entries? (h : es.IsProper) (hsub : f.entries? es = some sub) {v : Toml.Value} :
    sub.lookup? f.name = some v ↔ f.Stands es v := by
  unfold Field.entries? at hsub
  unfold Field.Stands
  cases hgroup : f.group with
  -- a setting at the top of the document
  | none =>
    rw [hgroup] at hsub
    cases hsub
    exact Entries.lookup?_eq_some_iff h.keys
  | some place =>
    obtain ⟨group, names⟩ := place
    rw [hgroup] at hsub
    unfold setting at hsub
    dsimp only at hsub ⊢
    have hfound : ∀ w, (group, w) ∈ es → es.lookup? group = some w :=
      fun w => (Entries.lookup?_eq_some_iff h.keys).2
    cases hlookup : es.lookup? group with
    -- without the group the place of the setting is empty on both sides
    | none =>
      rw [hlookup] at hsub
      cases hsub
      refine iff_of_false nofun ?_
      rintro ⟨w, hmem, -⟩
      cases hlookup.symm.trans (hfound w hmem)
    -- in the group that is given, the setting is looked up by its name
    | some w =>
      rw [hlookup] at hsub
      rw [lookup?_group? (Field.nodup_of_group hgroup) (h.lookup? hlookup) hsub]
      refine ⟨fun hholds => ⟨w, Entries.mem_of_lookup? hlookup, hholds⟩, ?_⟩
      rintro ⟨w', hmem, hholds⟩
      cases hlookup.symm.trans (hfound w' hmem)
      exact hholds

theorem Field.Stands.not_isMisplaced (h : es.IsProper) {v : Toml.Value} (hstands : f.Stands es v) :
    ¬ f.IsMisplaced es := by
  rintro ⟨group, names, w, hgroup, hmem, hw⟩
  unfold Field.Stands at hstands
  rw [hgroup] at hstands
  obtain ⟨w', hmem', hholds⟩ := hstands
  have hfound := (Entries.lookup?_eq_some_iff h.keys).2 hmem
  cases hfound.symm.trans ((Entries.lookup?_eq_some_iff h.keys).2 hmem')
  exact hw hholds.isGroup

theorem given?_of_entries? (hsub : f.entries? es = some sub) :
    f.given? es = setting sub f.name (fun v => some <$> f.read v) none := by
  rw [Field.given?, hsub]
  rfl

/-- **A setting is given a value** if a value of it stands in its place. -/
theorem given?_eq_some_iff (h : es.IsProper) {x : f.Value} :
    f.given? es = some (some x) ↔ ∃ v, f.Stands es v ∧ f.read v = some x := by
  cases hsub : f.entries? es with
  | none =>
    -- nothing stands in a group that is none
    have hmisplaced := (entries?_eq_none_iff h).1 hsub
    refine iff_of_false ?_ fun ⟨v, hstands, _⟩ => hstands.not_isMisplaced h hmisplaced
    rw [Field.given?, hsub]
    exact nofun
  | some sub =>
    rw [given?_of_entries? hsub, setting]
    simp only [← lookup?_entries? h hsub]
    cases sub.lookup? f.name with
    | none => exact iff_of_false nofun nofun
    | some v => simp

/-- **A setting is wrong** if its group is, or if what stands in its place is no value of it. -/
theorem given?_eq_none_iff (h : es.IsProper) :
    f.given? es = none ↔ f.IsMisplaced es ∨ ∃ v, f.Stands es v ∧ f.read v = none := by
  cases hsub : f.entries? es with
  -- the group is something else, and both sides hold
  | none =>
    refine iff_of_true ?_ (.inl ((entries?_eq_none_iff h).1 hsub))
    rw [Field.given?, hsub]
    rfl
  -- the group is one, so only the value in it can be wrong
  | some sub =>
    have hplaced : ¬ f.IsMisplaced es := by
      rw [← entries?_eq_none_iff h, hsub]
      exact nofun
    rw [given?_of_entries? hsub, setting, or_iff_right hplaced]
    simp only [← lookup?_entries? h hsub]
    cases sub.lookup? f.name with
    | none => exact iff_of_false nofun nofun
    | some v => simp

end

/-! ### Edits -/

/-- **Where a value stands**: as the document, as one of the groups, as the engine or within it, or
elsewhere. -/
inductive Level where
  | document
  | chrome
  | theme
  | engine
  | elsewhere

namespace Level

/-- **The keys that count**: settings and groups. In the table of an engine every key does, since there
must be only one. -/
def Knows : Level → String → Prop
  | document, key => key ∈ ["shell", "engine", "poll_interval_ms", "chrome", "theme"]
  | chrome, key => key ∈ measureNames
  | theme, key => key ∈ themeNames
  | engine, _ => True
  | elsewhere, _ => False

instance : (level : Level) → (key : String) → Decidable (level.Knows key)
  | document, _ => inferInstanceAs (Decidable (_ ∈ _))
  | chrome, _ => inferInstanceAs (Decidable (_ ∈ _))
  | theme, _ => inferInstanceAs (Decidable (_ ∈ _))
  | engine, _ => inferInstanceAs (Decidable True)
  | elsewhere, _ => inferInstanceAs (Decidable False)

/-- Where the value of a key stands. -/
def below : Level → String → Level
  | document, key =>
    if key = "chrome" then chrome
    else if key = "theme" then theme
    else if key = "engine" then engine
    else elsewhere
  | engine, _ => engine
  | _, _ => elsewhere

end Level

/-- Where the value of a setting stands. -/
def Field.level : Field → Level
  | engine => .engine
  | _ => .elsewhere

/-- **An edit of a value**: the entries of a table are reordered, an entry is added that does not count,
or a part is edited. Entries are removed by going back, and changed by removing and adding them. -/
inductive Edit : Level → Toml.Value → Toml.Value → Prop where
  | reorder {level : Level} {origin : Toml.Origin} {es es' : Entries} (h : es.Perm es') :
      Edit level (.table origin es) (.table origin es')
  | add {level : Level} {origin : Toml.Origin} {es : Entries} {key : String} {v : Toml.Value}
      (h : ¬ level.Knows key) : Edit level (.table origin es) (.table origin ((key, v) :: es))
  | entry {level : Level} {origin : Toml.Origin} {before after : Entries} {key : String}
      {v v' : Toml.Value} (h : Edit (level.below key) v v') :
      Edit level (.table origin (before ++ (key, v) :: after))
        (.table origin (before ++ (key, v') :: after))
  | item {level : Level} {before after : List Toml.Value} {v v' : Toml.Value}
      (h : Edit .elsewhere v v') :
      Edit level (.array (before ++ v :: after)) (.array (before ++ v' :: after))
  | element {level : Level} {before after : List Entries} {es es' : Entries}
      (h : Edit .elsewhere (.table .header es) (.table .header es')) :
      Edit level (.tables (before ++ es :: after)) (.tables (before ++ es' :: after))

/-- **Trees that are connected by edits.** -/
def Edited : Entries → Entries → Prop :=
  Relation.EqvGen fun es es' => Edit .document (.table .header es) (.table .header es')

section

variable {level : Level} {v v' : Toml.Value}

/-- Only tables and arrays are edited. -/
theorem Edit.isStruct (h : Edit level v v') : IsStruct v ∧ IsStruct v' := by
  cases h <;> exact ⟨trivial, trivial⟩

theorem text?_of_isStruct (h : IsStruct v) : text? v = none := by
  cases v <;> first | rfl | cases h

theorem natBelow?_of_isStruct {bound : Nat} (h : IsStruct v) : natBelow? bound v = none := by
  cases v <;> first | rfl | cases h

theorem part?_of_isStruct (h : IsStruct v) : part? v = none := by
  rw [part?, natBelow?_of_isStruct h, Option.map_none]

theorem isEmpty_congr {α : Type} {as bs : List α} (h : as.length = bs.length) :
    as.isEmpty = bs.isEmpty := by
  rw [Bool.eq_iff_iff, List.isEmpty_iff_length_eq_zero, List.isEmpty_iff_length_eq_zero, h]

/-- An edit of an engine empties no table and no array, and fills none. -/
theorem Edit.isEmptyGroup_eq (h : Edit .engine v v') : isEmptyGroup v = isEmptyGroup v' := by
  -- the number of entries or items stays as it is: no entry is added,
  -- as every key counts within an engine
  cases h with
  | reorder h => exact isEmpty_congr h.length_eq
  | add h => exact absurd trivial h
  | entry h => exact isEmpty_congr (by simp)
  | item h => exact isEmpty_congr (by simp)
  | element h => exact isEmpty_congr (by simp)

/-- A table of any other number of entries than one is no engine. -/
theorem engine?_of_length {origin : Toml.Origin} {es : Entries} (h : es.length ≠ 1) :
    engine? (.table origin es) = none := by
  obtain _ | ⟨e, _ | ⟨e', rest⟩⟩ := es
  · rfl
  · exact absurd rfl h
  · rfl

theorem Edit.engine?_eq (h : Edit .engine v v') : engine? v = engine? v' := by
  cases h with
  | @reorder _ origin es es' h =>
    -- a table of one entry has no other order
    by_cases hone : es.length = 1
    · obtain ⟨e, rfl⟩ := List.length_eq_one_iff.1 hone
      rw [List.singleton_perm.1 h]
    · rw [engine?_of_length hone, engine?_of_length fun hone' => hone (h.length_eq.trans hone')]
  -- no key is added to an engine, where every key counts
  | add h => exact absurd trivial h
  | @entry _ origin before after key v v' h =>
    have hlength : ∀ u : Toml.Value, (before ++ (key, u) :: after).length
        = before.length + after.length + 1 := fun u => by simp; omega
    -- the edited entry is the only one, and its value is as empty as before
    by_cases hone : before = [] ∧ after = []
    · obtain ⟨rfl, rfl⟩ := hone
      change (if isEmptyGroup v then _ else _) = if isEmptyGroup v' then _ else _
      rw [Edit.isEmptyGroup_eq h]
    · -- there are other entries, and the table is no engine before or after
      have hmore : before.length + after.length + 1 ≠ 1 := by
        rw [← List.length_eq_zero_iff, ← List.length_eq_zero_iff] at hone
        omega
      rw [engine?_of_length (hlength v ▸ hmore), engine?_of_length (hlength v' ▸ hmore)]
  | item h => rfl
  | element h => rfl

theorem Edit.mix?_eq (h : Edit .elsewhere v v') : mix? v = mix? v' := by
  cases h with
  -- a table is no color
  | reorder h => rfl
  | add h => rfl
  | entry h => rfl
  | @item _ before after v v' h =>
    -- an edited item is no part of a color, before or after
    have hv := part?_of_isStruct h.isStruct.1
    have hv' := part?_of_isStruct h.isStruct.2
    -- the edited item is the first, the second, the third, or a later one that does not count
    obtain _ | ⟨r, _ | ⟨g, _ | ⟨b, rest⟩⟩⟩ := before
    · obtain _ | ⟨g, _ | ⟨b, rest⟩⟩ := after
      · rfl
      · rfl
      · simp [mix?, hv, hv']
    · obtain _ | ⟨b, rest⟩ := after
      · rfl
      · simp [mix?, hv, hv']
    · simp [mix?, hv, hv']
    · rfl
  | element h => rfl

/-- **An edit in the place of a setting** does not change what a value is read as. -/
theorem Edit.read_eq {f : Field} (h : Edit f.level v v') : f.read v = f.read v' := by
  obtain ⟨hv, hv'⟩ := h.isStruct
  cases f with
  -- an edited value is a table or an array, so it is no text and no number
  | shell | title => exact (text?_of_isStruct hv).trans (text?_of_isStruct hv').symm
  | engine => exact h.engine?_eq
  | pollInterval | measure _ =>
    change (natBelow? _ v).map _ = (natBelow? _ v').map _
    rw [natBelow?_of_isStruct hv, natBelow?_of_isStruct hv']
  | color s => exact h.mix?_eq

/-! ### What stands in a place after an edit -/

section

variable {α : Type} {before after : List α} {a a' : α} {P : α → Prop} (h : P a ↔ P a')

include h

theorem exists_mem_replaced :
    (∃ x ∈ before ++ a :: after, P x) ↔ ∃ x ∈ before ++ a' :: after, P x := by
  simp only [List.mem_append, List.mem_cons, or_and_right, exists_or, exists_eq_left, h]

theorem exists_getElem?_replaced {i : Nat} :
    (∃ x, (before ++ a :: after)[i]? = some x ∧ P x) ↔
      ∃ x, (before ++ a' :: after)[i]? = some x ∧ P x := by
  -- a place before the replaced item, the item itself, or a place after it
  by_cases hi : i < before.length
  · rw [List.getElem?_append_left hi, List.getElem?_append_left hi]
  · rw [List.getElem?_append_right (Nat.le_of_not_lt hi), List.getElem?_append_right
      (Nat.le_of_not_lt hi)]
    cases i - before.length with
    | zero => simp [h]
    | succ j => rfl

end

/-- **A known key of an edited table** has values of the same kind as before, if edits of its values do
not change the kind. -/
theorem Edit.exists_entry_iff {origin origin' : Toml.Origin} {es es' : Entries} {key : String}
    {P : Toml.Value → Prop} (h : Edit level (.table origin es) (.table origin' es'))
    (hknown : level.Knows key) (hP : ∀ v v', Edit (level.below key) v v' → (P v ↔ P v')) :
    (∃ v, (key, v) ∈ es ∧ P v) ↔ ∃ v, (key, v) ∈ es' ∧ P v := by
  cases h with
  -- the order of the entries does not matter to what is among them
  | reorder h => simp only [h.mem_iff]
  | @add _ _ _ k u h =>
    -- the key that is added does not count, so it is another one
    have hother : ∀ v, (key, v) ∈ (k, u) :: es ↔ (key, v) ∈ es := by
      intro v
      rw [List.mem_cons, or_iff_right]
      intro heq
      cases heq
      exact h hknown
    simp only [hother]
  -- one entry has a new value: of its own kind if the key is this one
  | @entry _ _ before after k u u' h =>
    have hpairs : ∀ es : Entries, (∃ v, (key, v) ∈ es ∧ P v) ↔ ∃ e ∈ es, e.1 = key ∧ P e.2 := by
      intro es
      constructor
      · rintro ⟨v, hmem, hv⟩
        exact ⟨_, hmem, rfl, hv⟩
      · rintro ⟨⟨_, v⟩, hmem, rfl, hv⟩
        exact ⟨v, hmem, hv⟩
    rw [hpairs, hpairs]
    refine exists_mem_replaced (and_congr_right ?_)
    rintro rfl
    exact hP u u' h

section

variable {names : List String} {name : String} {P : Toml.Value → Prop}

theorem exists_holds_table_iff {origin : Toml.Origin} {es : Entries} :
    (∃ u, Holds names (.table origin es) name u ∧ P u) ↔ ∃ u, (name, u) ∈ es ∧ P u := by
  constructor
  · rintro ⟨u, hholds, hu⟩
    cases hholds with
    | entry hmem => exact ⟨u, hmem, hu⟩
  · rintro ⟨u, hmem, hu⟩
    exact ⟨u, .entry hmem, hu⟩

theorem exists_holds_array_iff {items : List Toml.Value} :
    (∃ u, Holds names (.array items) name u ∧ P u) ↔
      ∃ i : Nat, names[i]? = some name ∧ ∃ u, items[i]? = some u ∧ P u := by
  constructor
  · rintro ⟨u, hholds, hu⟩
    cases hholds with
    | item hname hitem => exact ⟨_, hname, u, hitem, hu⟩
  · rintro ⟨i, hname, u, hitem, hu⟩
    exact ⟨u, .item hname hitem, hu⟩

theorem exists_holds_tables_iff {elements : List Entries} :
    (∃ u, Holds names (.tables elements) name u ∧ P u) ↔
      ∃ i : Nat, names[i]? = some name ∧ ∃ es, elements[i]? = some es ∧ P (.table .header es) := by
  constructor
  · rintro ⟨u, hholds, hu⟩
    cases hholds with
    | element hname helement => exact ⟨_, hname, _, helement, hu⟩
  · rintro ⟨i, hname, es, helement, hu⟩
    exact ⟨_, .element hname helement, hu⟩

end

/-- **A known name of an edited group** has values of the same kind as before. -/
theorem Edit.exists_holds_iff {names : List String} {name : String} {P : Toml.Value → Prop}
    (h : Edit level v v') (hknown : level.Knows name) (hbelow : level.below name = .elsewhere)
    (hP : ∀ v v', Edit .elsewhere v v' → (P v ↔ P v')) :
    (∃ u, Holds names v name u ∧ P u) ↔ ∃ u, Holds names v' name u ∧ P u := by
  -- the three edits of a table come to the same, as its entries are what stands in it
  have hentries : ∀ {origin origin' : Toml.Origin} {es es' : Entries},
      Edit level (.table origin es) (.table origin' es') →
      ((∃ u, Holds names (.table origin es) name u ∧ P u) ↔
        ∃ u, Holds names (.table origin' es') name u ∧ P u) := by
    intro origin origin' es es' h
    rw [exists_holds_table_iff, exists_holds_table_iff]
    exact h.exists_entry_iff hknown (hbelow ▸ hP)
  cases h with
  | reorder h => exact hentries (.reorder h)
  | add h => exact hentries (.add h)
  | entry h => exact hentries (.entry h)
  -- an item keeps its position, so it keeps the name it stands under
  | item h =>
    rw [exists_holds_array_iff, exists_holds_array_iff]
    exact exists_congr fun i => and_congr_right fun _ => exists_getElem?_replaced (hP _ _ h)
  | element h =>
    rw [exists_holds_tables_iff, exists_holds_tables_iff]
    exact exists_congr fun i => and_congr_right fun _ =>
      exists_getElem?_replaced (P := fun es => P (.table .header es)) (hP _ _ h)

end

/-! ### Settings after an edit -/

theorem Level.of_group {f : Field} {group : String} {names : List String}
    (h : f.group = some (group, names)) :
    document.Knows group ∧ (document.below group).Knows f.name ∧
      (document.below group).below f.name = elsewhere ∧ f.level = elsewhere := by
  -- each setting of a group is one of the known keys of that group, and its value is not looked into
  cases f with
  | measure m =>
    cases h
    cases m <;> exact ⟨by decide, by decide, rfl, rfl⟩
  | color s =>
    cases h
    cases s <;> exact ⟨by decide, by decide, rfl, rfl⟩
  | title =>
    cases h
    exact ⟨by decide, by decide, rfl, rfl⟩
  | _ => cases h

theorem Level.of_no_group {f : Field} (h : f.group = none) :
    document.Knows f.name ∧ document.below f.name = f.level := by
  cases f with
  | shell | engine | pollInterval => exact ⟨by decide, rfl⟩
  | _ => cases h

section

variable {f : Field} {es es' : Entries}
  (h : Edit .document (.table .header es) (.table .header es'))

include h

/-- **What stands in the place of a setting** is of the same kind after an edit. -/
theorem Edit.exists_stands_iff {P : Toml.Value → Prop}
    (hP : ∀ v v', Edit f.level v v' → (P v ↔ P v')) :
    (∃ v, f.Stands es v ∧ P v) ↔ ∃ v, f.Stands es' v ∧ P v := by
  unfold Field.Stands
  -- the setting is an entry of the document itself
  cases hgroup : f.group with
  | none =>
    obtain ⟨hknown, hbelow⟩ := Level.of_no_group hgroup
    exact h.exists_entry_iff hknown (hbelow ▸ hP)
  -- the edit may be one of the group, and then it is an edit of what stands in it
  | some place =>
    obtain ⟨group, names⟩ := place
    obtain ⟨hgroup, hknown, hbelow, hlevel⟩ := Level.of_group hgroup
    have hplace : ∀ es : Entries, (∃ v, (∃ w, (group, w) ∈ es ∧ Holds names w f.name v) ∧ P v) ↔
        ∃ w, (group, w) ∈ es ∧ ∃ v, Holds names w f.name v ∧ P v := by
      intro es
      constructor
      · rintro ⟨v, ⟨w, hmem, hholds⟩, hv⟩
        exact ⟨w, hmem, v, hholds, hv⟩
      · rintro ⟨w, hmem, v, hholds, hv⟩
        exact ⟨v, ⟨w, hmem, hholds⟩, hv⟩
    dsimp only
    rw [hplace, hplace]
    exact h.exists_entry_iff hgroup fun w w' hw => hw.exists_holds_iff hknown hbelow (hlevel ▸ hP)

theorem Edit.isMisplaced_iff : f.IsMisplaced es ↔ f.IsMisplaced es' := by
  unfold Field.IsMisplaced
  refine exists_congr fun group => exists_congr fun names => ?_
  simp only [exists_and_left]
  refine and_congr_right fun hgroup => ?_
  refine h.exists_entry_iff (Level.of_group hgroup).1 fun w w' hw => ?_
  -- an edited group is a table or an array on both sides, so it is misplaced on neither
  exact iff_of_false (fun hnot => hnot (.inl hw.isStruct.1)) fun hnot => hnot (.inl hw.isStruct.2)

end

/-- **What trees have for a setting.** -/
structure SameFor (f : Field) (es es' : Entries) : Prop where
  stands_iff : ∀ r, (∃ v, f.Stands es v ∧ f.read v = r) ↔ ∃ v, f.Stands es' v ∧ f.read v = r
  misplaced_iff : f.IsMisplaced es ↔ f.IsMisplaced es'

section

variable {es es' : Entries}

theorem Edited.sameFor (h : Edited es es') (f : Field) : SameFor f es es' := by
  -- the equivalence is generated by single edits, so the induction is on how the trees are connected
  induction h with
  | rel es es' h =>
    exact ⟨fun r => h.exists_stands_iff fun _ _ hv => by rw [hv.read_eq], h.isMisplaced_iff⟩
  | refl es => exact ⟨fun _ => Iff.rfl, Iff.rfl⟩
  | symm es es' _ ih => exact ⟨fun r => (ih.stands_iff r).symm, ih.misplaced_iff.symm⟩
  | trans es es' es'' _ _ ih ih' =>
    exact ⟨fun r => (ih.stands_iff r).trans (ih'.stands_iff r),
      ih.misplaced_iff.trans ih'.misplaced_iff⟩

/-- **Edits change nothing** that is read. -/
theorem Edited.given?_eq (h : Edited es es') (hes : es.IsProper) (hes' : es'.IsProper) (f : Field) :
    f.given? es = f.given? es' := by
  -- the trees between the two need not be proper, so they are compared by what stands in them
  obtain ⟨hstands, hmisplaced⟩ := h.sameFor f
  have hnone : f.given? es = none ↔ f.given? es' = none := by
    rw [given?_eq_none_iff hes, given?_eq_none_iff hes', hmisplaced, hstands]
  have hsome : ∀ x, f.given? es = some (some x) ↔ f.given? es' = some (some x) := fun x => by
    rw [given?_eq_some_iff hes, given?_eq_some_iff hes', hstands]
  cases hgiven : f.given? es with
  | none => exact (hnone.1 hgiven).symm
  | some given =>
    cases given with
    | some x => exact ((hsome x).1 hgiven).symm
    | none =>
      -- what is neither wrong nor given is not given
      cases hgiven' : f.given? es' with
      | none => cases hgiven.symm.trans (hnone.2 hgiven')
      | some given' =>
        cases given' with
        | none => rfl
        | some x => cases hgiven.symm.trans ((hsome x).2 hgiven')

theorem Edited.ofEntries?_eq (h : Edited es es') (hes : es.IsProper) (hes' : es'.IsProper) :
    ofEntries? es = ofEntries? es' := by
  have hgiven : ∀ f : Field, f.given? es = f.given? es' := h.given?_eq hes hes'
  have hchoice : Choice.ofEntries es = Choice.ofEntries es' := funext fun f => by
    rw [Choice.ofEntries, hgiven]
    rfl
  refine Option.ext fun c => ?_
  rw [ofEntries?_eq_some_iff, ofEntries?_eq_some_iff, hchoice]
  simp only [hgiven]

/-! ### Documents -/

theorem Field.exists_means_of_given? {f : Field} (hes : es.IsProper) (hgiven : f.given? es ≠ none)
    {v : Toml.Value} (hstands : f.Stands es v) : ∃ x, f.read v = some x :=
  Option.ne_none_iff_exists'.1 fun hread =>
    hgiven ((given?_eq_none_iff hes).2 (.inr ⟨v, hstands, hread⟩))

theorem Field.group_eq {f : Field} {group : String} {names : List String}
    (h : f.group = some (group, names)) : group = "chrome" ∨ group = "theme" := by
  cases f <;> cases h
  · exact .inl rfl
  · exact .inr rfl
  · exact .inr rfl

/-- **Entries are used** if they are admissible. -/
theorem exists_ofEntries?_iff (hes : es.IsProper) :
    (∃ c, ofEntries? es = some c) ↔ IsAdmissible IsGroup es := by
  have hused : (∃ c, ofEntries? es = some c) ↔ ∀ f : Field, f.given? es ≠ none :=
    ⟨fun ⟨_, hc⟩ => (ofEntries?_eq_some_iff.1 hc).1, fun h => ⟨_, ofEntries?_eq_some_iff.2 ⟨h, rfl⟩⟩⟩
  rw [hused]
  constructor
  · intro hgiven
    -- a group is one for each of its settings
    have hgroup : ∀ (f : Field) group names w, f.group = some (group, names) → (group, w) ∈ es →
        IsGroup w := fun f group names w hgroup hmem => not_not.1 fun hw =>
      hgiven f ((given?_eq_none_iff hes).2 (.inl ⟨group, names, w, hgroup, hmem, hw⟩))
    refine ⟨fun w hmem => ?_, fun f v hstands => ?_⟩
    · obtain hmem | hmem := hmem
      · exact hgroup (.measure .bannerHeight) _ _ w rfl hmem
      · exact hgroup .title _ _ w rfl hmem
    · obtain ⟨x, hx⟩ := Field.exists_means_of_given? hes (hgiven f) hstands
      exact ⟨x, Field.read_eq_some_iff.1 hx⟩
  · intro h f hnone
    obtain ⟨group, names, w, hgroup, hmem, hw⟩ | ⟨v, hstands, hread⟩ :=
      (given?_eq_none_iff hes).1 hnone
    · refine hw (h.groups w ?_)
      obtain rfl | rfl := Field.group_eq hgroup
      · exact .inl hmem
      · exact .inr hmem
    · obtain ⟨x, hx⟩ := h.values f v hstands
      cases hread.symm.trans (Field.read_eq_some_iff.2 hx)

/-- **What stands in the place of a setting** is its value, and where nothing stands it has its default.
-/
theorem value?_of_ofEntries? {c : Config} (hes : es.IsProper) (hc : ofEntries? es = some c)
    (f : Field) :
    (∀ v, f.Stands es v → ∃ x, f.Means v x ∧ c.value? f = some x) ∧
      ((∀ v, ¬ f.Stands es v) → c.value? f = ({} : Config).value? f) := by
  obtain ⟨given, hgiven, hvalue⟩ := ofEntries?_eq_some_iff_given.1 hc f
  constructor
  · intro v hstands
    obtain ⟨x, hx⟩ := Field.exists_means_of_given? hes (by rw [hgiven]; exact nofun) hstands
    cases hgiven.symm.trans ((given?_eq_some_iff hes).2 ⟨v, hstands, hx⟩)
    exact ⟨x, Field.read_eq_some_iff.1 hx, hvalue⟩
  · intro hnowhere
    cases given with
    | none => exact hvalue
    | some x =>
      obtain ⟨v, hstands, -⟩ := (given?_eq_some_iff hes).1 hgiven
      exact absurd hstands (hnowhere v)

end

/-- **A document is read setting by setting, and used as a whole or not at all.** A text is used if it is
a document, its groups are groups, and every value that stands in the place of a setting is a value of
it. Then each setting has the value that stands in its place, and its default where there is none.
Reordering entries, and adding and removing entries that do not count, changes nothing. -/
theorem parse_decodes (text : List Char) :
    ((∃ c, parse text = .ok c) ↔
      ∃ es, Toml.read? text = some es ∧ IsAdmissible IsGroup es) ∧
    (∀ c es, parse text = .ok c → Toml.read? text = some es → ∀ f : Field,
      (∀ v, f.Stands es v → ∃ x, f.Means v x ∧ c.value? f = some x) ∧
        ((∀ v, ¬ f.Stands es v) → c.value? f = ({} : Config).value? f)) ∧
    ∀ text' es es', Toml.read? text = some es → Toml.read? text' = some es' → Edited es es' →
      parse text' = parse text := by
  refine ⟨?_, fun c es hc hes => ?_, fun text' es es' hes hes' hedited => ?_⟩
  · constructor
    · rintro ⟨c, hc⟩
      obtain ⟨es, hes, hc⟩ := parse_eq_ok_iff.1 hc
      exact ⟨es, hes, (exists_ofEntries?_iff (Toml.isProper_read? hes)).1 ⟨c, hc⟩⟩
    · rintro ⟨es, hes, hadmissible⟩
      obtain ⟨c, hc⟩ := (exists_ofEntries?_iff (Toml.isProper_read? hes)).2 hadmissible
      exact ⟨c, parse_eq_ok_iff.2 ⟨es, hes, hc⟩⟩
  · obtain ⟨es', hes', hc⟩ := parse_eq_ok_iff.1 hc
    cases hes.symm.trans hes'
    exact value?_of_ofEntries? (Toml.isProper_read? hes) hc
  · unfold parse
    rw [hes, hes', Option.bind_some, Option.bind_some, hedited.ofEntries?_eq
      (Toml.isProper_read? hes) (Toml.isProper_read? hes')]

/-- **A group need not be a table or an array**: a date passes for a group, and nothing stands in it. -/
theorem parse_decodes_date :
    ¬ ∀ text, (∃ c, parse text = .ok c) ↔
      ∃ es, Toml.read? text = some es ∧ IsAdmissible IsStruct es := by
  intro h
  have hparse : (parse "chrome = 1979-05-27".toList).toOption = some {} := by decide +kernel
  have hdate : ((Toml.read? "chrome = 1979-05-27".toList).bind (Entries.lookup? "chrome")).any
      (fun v => !decide (IsStruct v)) = true := by decide +kernel
  have hok : ∃ c, parse "chrome = 1979-05-27".toList = .ok c := by
    cases hcase : parse "chrome = 1979-05-27".toList with
    | error e =>
      rw [hcase] at hparse
      cases hparse
    | ok c => exact ⟨c, rfl⟩
  obtain ⟨es, hes, hadmissible⟩ := (h _).1 hok
  rw [hes, Option.bind_some, Option.any_eq_true] at hdate
  obtain ⟨v, hlookup, hv⟩ := hdate
  rw [Bool.not_eq_true', decide_eq_false_iff_not] at hv
  exact hv (hadmissible.groups v (.inl (Entries.mem_of_lookup? hlookup)))

end FramedShell.Config
