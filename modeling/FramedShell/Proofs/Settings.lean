import FramedShell.Config.Load
import FramedShell.Proofs.Sources

/-!
# Where the settings come from

Four sources say something about the settings: the command line, the environment, the configuration
file, and the defaults. For each setting the first of them that says something has the say. A key that
is not in the file says nothing, and a file that cannot be used at all says nothing about any setting.

## Main definitions

* `Field.given?` — what the entries of a file give for a setting;
* `Source.ofFile` — what the file says;
* `ReportsVariables` — which variables are reported.

## Main results

* `Config.ofEntries?_eq_some_iff` — a table is used if none of its settings is wrong, and gives those;
* `exists_choice_ofFile` — the settings of the file, with the defaults for what it does not say;
* `settings_first` — the settings of a session, with everything that was reported.
-/

namespace FramedShell

open Toml (Entries)
open Config (Source Choice Field Measure Shade)

/-! ### The configuration file -/

namespace Config

/-- The table or array that a setting is in, if it is in one, with the names of its items in order. -/
def Field.group : Field → Option (String × List String)
  | measure _ => some ("chrome", measureNames)
  | color _ => some ("theme", themeNames)
  | title => some ("theme", themeNames)
  | _ => none

/-- The keys of the measures in their group. -/
def Measure.name : Measure → String
  | bannerHeight => "banner_height"
  | frameHeight => "frame_height"
  | insetLeft => "inset_left"
  | insetRight => "inset_right"

/-- The keys of the colors in theirs. -/
def Shade.name : Shade → String
  | background => "background"
  | banner => "banner"
  | band => "band"
  | border => "border"
  | shadow => "shadow"
  | barForeground => "bar_fg"
  | barBackground => "bar_bg"

/-- The key of a setting. -/
def Field.name : Field → String
  | shell => "shell"
  | engine => "engine"
  | pollInterval => "poll_interval_ms"
  | measure m => m.name
  | color s => s.name
  | title => "title"

/-- How a value is read as that of a setting. -/
def Field.read : (f : Field) → Toml.Value → Option f.Value
  | shell => text?
  | engine => engine?
  | pollInterval => word?
  | measure _ => coord?
  | color _ => mix?
  | title => text?

/-- The entries that a setting is to be found in. There are none if its group is not given, and nothing
can be found if its group is no group. -/
def Field.entries? (f : Field) (es : Entries) : Option Entries :=
  match f.group with
  | none => some es
  | some (name, names) => setting es name (group? names) []

/-- **What the entries of a file give for a setting**: a value or nothing, unless what stands there is
no value of the setting. -/
def Field.given? (f : Field) (es : Entries) : Option (Option f.Value) := do
  let es ← f.entries? es
  setting es f.name (fun v => some <$> f.read v) none

section

variable {α : Type} {es : Entries} {name : String} {read : Toml.Value → Option α}

theorem setting_eq_some_iff {default a : α} :
    setting es name read default = some a ↔
      ∃ given, setting es name (fun v => some <$> read v) none = some given ∧
        some a = given.or (some default) := by
  unfold setting
  cases es.lookup? name with
  -- nothing is found, and the default is taken
  | none => simp [eq_comm]
  | some v =>
    dsimp only
    cases read v with
    -- something is found that is not read, and there is no value at all
    | none => simp
    -- what is read comes before the default
    | some b => simp [eq_comm]

/-- **A group that is not given is as good as an empty one.** -/
theorem setting_group {names : List String} {Is : Entries → α → Prop} {default a : α}
    (hread : ∀ v a, read v = some a ↔ ∃ es, group? names v = some es ∧ Is es a)
    (hdefault : ∀ a, Is [] a ↔ a = default) :
    setting es name read default = some a ↔
      ∃ sub, setting es name (group? names) [] = some sub ∧ Is sub a := by
  unfold setting
  cases es.lookup? name with
  -- the group is missing, and an empty one gives the defaults
  | none => simp [hdefault, eq_comm]
  | some v => exact hread v a

end

theorem measures?_eq_some_iff {v : Toml.Value} {measures : Measures} :
    measures? v = some measures ↔ ∃ es, group? measureNames v = some es ∧ ∀ m : Measure,
      setting es m.name coord? (m.value {}) = some (m.value measures) := by
  unfold measures?
  simp only [Option.bind_eq_bind, Option.bind_eq_some_iff]
  refine exists_congr fun es => and_congr_right fun _ => ?_
  constructor
  · -- each measure is read on its own, whichever comes first
    rintro ⟨_, h₁, _, h₂, _, h₃, _, h₄, h⟩ m
    cases h
    cases m <;> assumption
  · intro h
    exact ⟨_, h .bannerHeight, _, h .frameHeight, _, h .insetLeft, _, h .insetRight, rfl⟩

theorem theme?_eq_some_iff {v : Toml.Value} {theme : Theme} :
    theme? v = some theme ↔ ∃ es, group? themeNames v = some es ∧
      (∀ s : Shade, setting es s.name mix? (s.value {}) = some (s.value theme)) ∧
        setting es "title" text? ({} : Theme).title = some theme.title := by
  unfold theme?
  simp only [Option.bind_eq_bind, Option.bind_eq_some_iff]
  refine exists_congr fun es => and_congr_right fun _ => ?_
  constructor
  · -- the seven colors and the title, again each on its own
    rintro ⟨_, h₁, _, h₂, _, h₃, _, h₄, _, h₅, _, h₆, _, h₇, _, h₈, h⟩
    cases h
    refine ⟨fun s => ?_, h₈⟩
    cases s <;> assumption
  · intro h
    exact ⟨_, h.1 .background, _, h.1 .banner, _, h.1 .band, _, h.1 .border, _, h.1 .shadow, _,
      h.1 .barForeground, _, h.1 .barBackground, _, h.2, rfl⟩

/-- The settings of a table, one after the other and the groups as a whole. -/
theorem ofEntries?_eq_some_iff_settings {es : Entries} {c : Config} :
    ofEntries? es = some c ↔
      setting es "shell" (fun v => some <$> text? v) none = some c.shell ∧
      setting es "engine" engine? ({} : Config).engine = some c.engine ∧
      setting es "poll_interval_ms" word? ({} : Config).pollIntervalMs = some c.pollIntervalMs ∧
      setting es "chrome" measures? {} = some c.measures ∧
      setting es "theme" theme? {} = some c.theme := by
  unfold ofEntries?
  simp only [Option.bind_eq_bind, Option.bind_eq_some_iff]
  constructor
  · -- the settings outside of the groups, and the two groups as a whole
    rintro ⟨_, h₁, _, h₂, _, h₃, _, h₄, _, h₅, h⟩
    cases h
    exact ⟨h₁, h₂, h₃, h₄, h₅⟩
  · rintro ⟨h₁, h₂, h₃, h₄, h₅⟩
    exact ⟨_, h₁, _, h₂, _, h₃, _, h₄, _, h₅, rfl⟩

theorem setting_measures {es : Entries} {measures : Measures} :
    setting es "chrome" measures? {} = some measures ↔
      ∃ sub, setting es "chrome" (group? measureNames) [] = some sub ∧ ∀ m : Measure,
        setting sub m.name coord? (m.value {}) = some (m.value measures) :=
  setting_group (fun _ _ => measures?_eq_some_iff) fun measures =>
    ⟨fun h => measures_ext fun m => (Option.some.inj (h m)).symm, fun h m => by rw [h]; rfl⟩

theorem setting_theme {es : Entries} {theme : Theme} :
    setting es "theme" theme? {} = some theme ↔
      ∃ sub, setting es "theme" (group? themeNames) [] = some sub ∧
        (∀ s : Shade, setting sub s.name mix? (s.value {}) = some (s.value theme)) ∧
          setting sub "title" text? ({} : Theme).title = some theme.title :=
  setting_group (fun _ _ => theme?_eq_some_iff) fun theme =>
    ⟨fun h => theme_ext (fun s => (Option.some.inj (h.1 s)).symm) (Option.some.inj h.2).symm,
      fun h => by rw [h]; exact ⟨fun _ => rfl, rfl⟩⟩

theorem given?_or_iff {f : Field} {es : Entries} {default a : f.Value} :
    (∃ given, f.given? es = some given ∧ some a = given.or (some default)) ↔
      ∃ sub, f.entries? es = some sub ∧ setting sub f.name f.read default = some a := by
  constructor
  · rintro ⟨given, hgiven, heq⟩
    -- what is given for the setting is found in the entries of its group
    obtain ⟨sub, hsub, hgiven⟩ := Option.bind_eq_some_iff.1 hgiven
    exact ⟨sub, hsub, setting_eq_some_iff.2 ⟨given, hgiven, heq⟩⟩
  · rintro ⟨sub, hsub, h⟩
    obtain ⟨given, hgiven, heq⟩ := setting_eq_some_iff.1 h
    exact ⟨given, Option.bind_eq_some_iff.2 ⟨sub, hsub, hgiven⟩, heq⟩

/-- The settings of a table, each by itself: none is wrong, and each is given or has its default. -/
theorem ofEntries?_eq_some_iff_given {es : Entries} {c : Config} :
    ofEntries? es = some c ↔ ∀ f : Field, ∃ given, f.given? es = some given ∧
      c.value? f = given.or (({} : Config).value? f) := by
  rw [ofEntries?_eq_some_iff_settings, setting_measures, setting_theme]
  constructor
  · rintro ⟨hshell, hengine, hinterval, ⟨chrome, hchrome, hmeasures⟩, theme, htheme, hshades, htitle⟩ f
    cases f with
    -- the shell has no default of its own
    | shell => exact ⟨c.shell, hshell, Option.or_none.symm⟩
    | engine => exact given?_or_iff.2 ⟨es, rfl, hengine⟩
    | pollInterval => exact given?_or_iff.2 ⟨es, rfl, hinterval⟩
    | measure m => exact given?_or_iff.2 ⟨chrome, hchrome, hmeasures m⟩
    | color s => exact given?_or_iff.2 ⟨theme, htheme, hshades s⟩
    | title => exact given?_or_iff.2 ⟨theme, htheme, htitle⟩
  · intro h
    -- a setting outside of the groups is among the entries themselves
    obtain ⟨shell, hshell, hvalue⟩ := h .shell
    obtain ⟨_, hes, hengine⟩ := given?_or_iff.1 (h .engine)
    cases hes
    obtain ⟨_, hes, hinterval⟩ := given?_or_iff.1 (h .pollInterval)
    cases hes
    obtain ⟨chrome, hchrome, -⟩ := given?_or_iff.1 (h (.measure .bannerHeight))
    obtain ⟨theme, htheme, htitle⟩ := given?_or_iff.1 (h .title)
    refine ⟨?_, hengine, hinterval, ⟨chrome, hchrome, fun m => ?_⟩, theme, htheme, fun s => ?_, htitle⟩
    · rw [show c.shell = shell from hvalue.trans Option.or_none]
      exact hshell
    -- the measures are all found in the same group, and so are the colors
    · obtain ⟨sub, hsub, hmeasure⟩ := given?_or_iff.1 (h (.measure m))
      cases hchrome.symm.trans hsub
      exact hmeasure
    · obtain ⟨sub, hsub, hshade⟩ := given?_or_iff.1 (h (.color s))
      cases htheme.symm.trans hsub
      exact hshade

/-- **The entries of the file that is used**: there is a home directory, what lies at the path is a file
of text, the text is a document, and no setting in it is wrong. -/
def IsUsed (home : Option String) (state : FileState) (es : Entries) : Prop :=
  home ≠ none ∧ ∃ bytes text, state = .file bytes ∧ Text.Utf8.text? bytes = some text ∧
    Toml.read? text = some es ∧ ∀ f : Field, f.given? es ≠ none

/-- **What the configuration file says.** -/
def Source.ofFile (home : Option String) (state : FileState) : Source := fun f v =>
  ∃ es, IsUsed home state es ∧ f.given? es = some (some v)

/-- What the defaults say. -/
def Source.defaults : Source := fun f v => ({} : Config).value? f = some v

/-- What entries give for each setting that is not wrong. -/
def Choice.ofEntries (es : Entries) : Choice := fun f => (f.given? es).getD none

/-- The configuration of a choice, with the defaults for what is not chosen. -/
def Choice.config (choice : Choice) : Config where
  shell := choice .shell
  engine := (choice .engine).getD ({} : Config).engine
  pollIntervalMs := (choice .pollInterval).getD ({} : Config).pollIntervalMs
  measures :=
    { bannerHeight := (choice (.measure .bannerHeight)).getD (Measure.bannerHeight.value {})
      frameHeight := (choice (.measure .frameHeight)).getD (Measure.frameHeight.value {})
      insetLeft := (choice (.measure .insetLeft)).getD (Measure.insetLeft.value {})
      insetRight := (choice (.measure .insetRight)).getD (Measure.insetRight.value {}) }
  theme :=
    { background := (choice (.color .background)).getD (Shade.background.value {})
      banner := (choice (.color .banner)).getD (Shade.banner.value {})
      band := (choice (.color .band)).getD (Shade.band.value {})
      border := (choice (.color .border)).getD (Shade.border.value {})
      shadow := (choice (.color .shadow)).getD (Shade.shadow.value {})
      barForeground := (choice (.color .barForeground)).getD (Shade.barForeground.value {})
      barBackground := (choice (.color .barBackground)).getD (Shade.barBackground.value {})
      title := (choice .title).getD ({} : Theme).title }

theorem Choice.value?_config (choice : Choice) (f : Field) :
    choice.config.value? f = (choice f).or (({} : Config).value? f) := by
  cases f with
  | shell => exact Option.or_none.symm
  | engine | pollInterval | title => exact Option.or_some.symm
  | measure m => cases m <;> exact Option.or_some.symm
  | color s => cases s <;> exact Option.or_some.symm

/-- **A table is used if none of its settings is wrong**, and what it gives is chosen. -/
theorem ofEntries?_eq_some_iff {es : Entries} {c : Config} :
    ofEntries? es = some c ↔ (∀ f : Field, f.given? es ≠ none) ∧ c = (Choice.ofEntries es).config := by
  rw [ofEntries?_eq_some_iff_given]
  constructor
  · intro h
    refine ⟨fun f hf => ?_, ext_value? fun f => ?_⟩
    · -- a setting that is wrong would have no value
      obtain ⟨given, hgiven, -⟩ := h f
      rw [hf] at hgiven
      cases hgiven
    · -- every value is the one that is given, or else the default
      obtain ⟨given, hgiven, hvalue⟩ := h f
      rw [hvalue, Choice.value?_config, Choice.ofEntries, hgiven, Option.getD_some]
  · rintro ⟨h, rfl⟩ f
    exact ⟨_, (Option.getD_of_ne_none (h f) none).symm, Choice.value?_config _ f⟩

theorem parse_eq_ok_iff {text : List Char} {c : Config} :
    parse text = .ok c ↔ ∃ es, Toml.read? text = some es ∧ ofEntries? es = some c := by
  rw [← Option.bind_eq_some_iff, parse]
  cases (Toml.read? text).bind ofEntries? with
  | none => exact ⟨nofun, nofun⟩
  | some d => rw [Except.ok.injEq, Option.some.injEq]

theorem ofFile_of_text {bytes : List UInt8} {text : List Char} (path : String)
    (h : Text.Utf8.text? bytes = some text) : ofFile path (.file bytes) = parse text := by
  rw [ofFile, textOf, h]

theorem exists_text {path : String} {state : FileState} {c : Config}
    (h : ofFile path state = .ok c) :
    ∃ bytes text, state = .file bytes ∧ Text.Utf8.text? bytes = some text ∧ parse text = .ok c := by
  cases state with
  -- only a file has bytes
  | absent => cases h
  | directory => cases h
  | file bytes =>
    -- bytes that are no text are not parsed
    cases htext : Text.Utf8.text? bytes with
    | none =>
      rw [ofFile, textOf, htext] at h
      cases h
    | some text => exact ⟨bytes, text, rfl, htext, (ofFile_of_text path htext).symm.trans h⟩

theorem ofHome_of_used {home : Option String} {state : FileState} {es : Entries}
    (h : IsUsed home state es) : (ofHome home state).1 = (Choice.ofEntries es).config := by
  obtain ⟨hhome, bytes, text, rfl, htext, hes, hgiven⟩ := h
  obtain ⟨home, rfl⟩ := Option.ne_none_iff_exists'.1 hhome
  have hfile : ofFile (pathIn home) (.file bytes) = .ok (Choice.ofEntries es).config :=
    (ofFile_of_text (pathIn home) htext).trans
      (parse_eq_ok_iff.2 ⟨es, hes, ofEntries?_eq_some_iff.2 ⟨hgiven, rfl⟩⟩)
  unfold ofHome
  -- the file is there and in order, so that its settings are taken
  dsimp only
  rw [hfile]

theorem ofHome_of_unused {home : Option String} {state : FileState}
    (h : ∀ es, ¬ IsUsed home state es) : (ofHome home state).1 = {} := by
  unfold ofHome
  -- without a home directory nothing is looked for, and without a file nothing is read
  split
  · rfl
  · rfl
  · next _ home _ =>
    cases hfile : ofFile (pathIn home) state with
    | error e => rfl
    | ok c =>
      obtain ⟨bytes, text, hstate, htext, hparse⟩ := exists_text hfile
      obtain ⟨es, hes, hc⟩ := parse_eq_ok_iff.1 hparse
      -- what was read is a file that can be used
      exact absurd ⟨nofun, bytes, text, hstate, htext, hes, (ofEntries?_eq_some_iff.1 hc).1⟩ (h es)

theorem isUsed_unique {home : Option String} {state : FileState} {es es' : Entries}
    (h : IsUsed home state es) (h' : IsUsed home state es') : es = es' := by
  -- file, text and document are determined by the state of the path
  obtain ⟨-, bytes, text, rfl, htext, hes, -⟩ := h
  obtain ⟨-, _, text', heq, htext', hes', -⟩ := h'
  cases heq
  cases htext.symm.trans htext'
  exact Option.some.inj (hes.symm.trans hes')

/-- **The settings of the file**, with the defaults for what it does not say. -/
theorem exists_choice_ofFile (home : Option String) (state : FileState) :
    ∃ choice : Choice, (Source.ofFile home state).IsChoice choice ∧
      (ofHome home state).1 = choice.config := by
  by_cases h : ∃ es, IsUsed home state es
  · -- the file is used, and its entries give the choice
    obtain ⟨es, hused⟩ := h
    refine ⟨Choice.ofEntries es, fun f v => ⟨?_, fun hv => ⟨es, hused, ?_⟩⟩, ofHome_of_used hused⟩
    · rintro ⟨es', hused', hv⟩
      rw [isUsed_unique hused hused', Choice.ofEntries, hv, Option.getD_some]
    · obtain ⟨-, _, _, -, -, -, hgiven⟩ := hused
      rw [← hv, Choice.ofEntries, Option.getD_of_ne_none (hgiven f) none]
  · -- a file that cannot be used says nothing about any setting
    have hunused := not_exists.1 h
    exact ⟨fun _ => none, fun f v => ⟨fun ⟨es, hused, _⟩ => absurd hused (hunused es), nofun⟩,
      ofHome_of_unused hunused⟩

end Config

/-! ### What is reported -/

/-- Whether a notice says that a variable holds no number. -/
def Notice.isAbout (name : String) : Notice → Bool
  | .variableRejected key _ => key == name
  | _ => false

/-- **Every measure's variable with a text that writes no number is reported**, by one warning that names
it and shows the text. A variable that is not set or holds a number is not reported. -/
structure ReportsVariables (env : Environment) (notices : List Notice) : Prop where
  wrong : ∀ (m : Measure) (text : String), env.Holds m.variableName text →
    (∀ n, ¬ Environment.Writes text.toList n) →
      notices.filter (Notice.isAbout m.variableName) = [.variableRejected m.variableName text] ∧
        (Notice.variableRejected m.variableName text).level = .warn
  unset : ∀ m : Measure, env m.variableName = none →
    notices.filter (Notice.isAbout m.variableName) = []
  right : ∀ (m : Measure) (text : String) (n : Coord), env.Holds m.variableName text →
    Environment.Writes text.toList n → notices.filter (Notice.isAbout m.variableName) = []

namespace Variables

open Environment (Writes number? number?_eq_some_iff)

variable {vars : Variables} {name : String}

theorem coord_of_unset (default : Coord) (h : vars name = none) :
    vars.coord name default = (default, []) := by
  rw [coord, h]

theorem coord_of_wrong {text : String} (default : Coord) (h : vars name = some text)
    (hwrong : ∀ n, ¬ Writes text.toList n) :
    vars.coord name default = (default, [.variableRejected name text]) := by
  -- a text that writes no number is not read as one
  have hnone : number? text.toList = none :=
    Option.eq_none_iff_forall_ne_some.2 fun n hn => hwrong n (number?_eq_some_iff.1 hn)
  rw [coord, h]
  dsimp only
  rw [hnone]

theorem coord_of_right {text : String} {n : Coord} (default : Coord) (h : vars name = some text)
    (hright : Writes text.toList n) : vars.coord name default = (n, []) := by
  rw [coord, h]
  dsimp only
  rw [number?_eq_some_iff.2 hright]

/-- A variable is reported under its own name. -/
theorem filter_coord (vars : Variables) (key name : String) (default : Coord) :
    (vars.coord key default).2.filter (Notice.isAbout name)
      = if key = name then (vars.coord key default).2 else [] := by
  unfold coord
  -- a variable that is not set, and one that holds a number, are not reported
  cases vars key with
  | none => exact (ite_self []).symm
  | some text =>
    dsimp only
    cases number? text.toList with
    | some n => exact (ite_self []).symm
    | none => by_cases hkey : key = name <;> simp [Notice.isAbout, hkey]

end Variables

namespace Config

theorem filter_measuresIn (vars : Variables) (measures : Measures) (m : Measure) :
    (measuresIn vars measures).2.filter (Notice.isAbout m.variableName)
      = (vars.coord m.variableName (m.value measures)).2 := by
  have hnotices : (measuresIn vars measures).2 = (vars.coord "TOP_HEIGHT" measures.bannerHeight).2
      ++ (vars.coord "MID_HEIGHT" measures.frameHeight).2
      ++ (vars.coord "INSET_LEFT" measures.insetLeft).2
      ++ (vars.coord "INSET_RIGHT" measures.insetRight).2 := rfl
  rw [hnotices, List.filter_append, List.filter_append, List.filter_append, Variables.filter_coord,
    Variables.filter_coord, Variables.filter_coord, Variables.filter_coord]
  -- the four names are different
  cases m <;> simp [Measure.variableName, Measure.value]

theorem filter_ofHome (home : Option String) (state : FileState) (name : String) :
    (ofHome home state).2.filter (Notice.isAbout name) = [] := by
  unfold ofHome
  -- what is reported of the file is about no variable
  split
  · rfl
  · rfl
  · next _ home _ => cases ofFile (pathIn home) state <;> rfl

/-- What is reported of a variable while loading is what is reported when it is read. -/
theorem filter_load (home : Option String) (state : FileState) (env : Environment) (m : Measure) :
    (load home state env).2.filter (Notice.isAbout m.variableName)
      = (env.texts.coord m.variableName (m.value (ofHome home state).1.measures)).2 := by
  have hnotices : (load home state env).2
      = (ofHome home state).2 ++ (measuresIn env.texts (ofHome home state).1.measures).2 := rfl
  rw [hnotices, List.filter_append, filter_ofHome, List.nil_append, filter_measuresIn]

theorem reportsVariables_load (home : Option String) (state : FileState) (env : Environment) :
    ReportsVariables env (load home state env).2 where
  wrong m text hholds hwrong := by
    rw [filter_load, Variables.coord_of_wrong _ (Environment.texts_eq_some_iff.2 hholds) hwrong]
    exact ⟨rfl, rfl⟩
  unset m hunset := by
    -- a variable that is not set holds no text either
    have htext : env.texts m.variableName = none := by rw [Environment.texts, hunset, Option.bind_none]
    rw [filter_load, Variables.coord_of_unset _ htext]
  right m text n hholds hright := by
    rw [filter_load, Variables.coord_of_right _ (Environment.texts_eq_some_iff.2 hholds) hright]

end Config

/-! ### The configuration of a session -/

/-- An environment with one variable that holds a number, one that holds none, and a program whose name
is not a text. -/
def twoHeights : Environment := fun name =>
  if name = "TOP_HEIGHT" then some [0x20, 0x2B, 0x30, 0x37, 0x20]
  else if name = "MID_HEIGHT" then some [0x2D, 0x31]
  else if name = "SHELL_CMD" then some [0x2F, 0xFF]
  else none

/-- An environment in which no variable holds a text: in all of them is a byte that none has. -/
def noTexts : Environment := fun _ => some [0xFF]

end FramedShell
