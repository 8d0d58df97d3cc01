import FramedShell.CommandLine
import FramedShell.Config.Environment
import FramedShell.Proofs.Encoding
import FramedShell.Proofs.Numbers

/-!
# Sources of settings

A source says something about some of the settings and nothing about the others; it is a relation
between settings and values. Of several sources, the first that says something about a setting has the
say. What is stated for every setting is stated once: settings are named, and each has its own type of
values.

The command line and the environment are two sources, and what the program does with them is proved to
be what they say. An option that is not there says nothing, and neither does a variable that is not set
or holds nothing of use. What a variable holds is a text; bytes that encode none say nothing either.

## Main definitions

* `Config.Field` — a setting, `Field.Value` its values, and `Config.value?` its value in a configuration;
* `Config.Source` — what a source says, and `Source.first` the precedence;
* `Switch` — an option of the command line;
* `Environment.Holds` — a variable holds a text;
* `Source.ofSwitches`, `Source.ofEnvironment` — the two sources.

## Main results

* `Config.ext_value?` — a configuration is its settings;
* `Source.IsChoice.cons` — a choice from several sources, put together from their own;
* `CommandLine.parse_eq_session_iff` — the command lines that start a session;
* `Environment.texts_eq_some_iff` — what is read of a variable is what it holds;
* `value?_withOverrides`, `value?_withVariables` — the settings with what the two sources say.
-/

namespace FramedShell

/-! ### Settings -/

namespace Config

/-- The measures of the picture, by name. -/
inductive Measure where
  | bannerHeight
  | frameHeight
  | insetLeft
  | insetRight

/-- The colors of a theme, by name. -/
inductive Shade where
  | background
  | banner
  | band
  | border
  | shadow
  | barForeground
  | barBackground

/-- **The settings of a configuration.** -/
inductive Field where
  | shell
  | engine
  | pollInterval
  | measure (m : Measure)
  | color (s : Shade)
  | title

/-- The values of a setting. -/
abbrev Field.Value : Field → Type
  | shell => String
  | engine => EngineKind
  | pollInterval => UInt64
  | measure _ => Coord
  | color _ => Mix
  | title => String

/-- One of the measures. -/
def Measure.value (measures : Measures) : Measure → Coord
  | bannerHeight => measures.bannerHeight
  | frameHeight => measures.frameHeight
  | insetLeft => measures.insetLeft
  | insetRight => measures.insetRight

/-- One of the colors. -/
def Shade.value (theme : Theme) : Shade → Mix
  | background => theme.background
  | banner => theme.banner
  | band => theme.band
  | border => theme.border
  | shadow => theme.shadow
  | barForeground => theme.barForeground
  | barBackground => theme.barBackground

/-- Some of the settings have values, others have none. -/
abbrev Choice := (f : Field) → Option f.Value

/-- **The value of a setting.** Only the shell can be without one. -/
def value? (c : Config) : Choice
  | .shell => c.shell
  | .engine => some c.engine
  | .pollInterval => some c.pollIntervalMs
  | .measure m => some (m.value c.measures)
  | .color s => some (s.value c.theme)
  | .title => some c.theme.title

theorem measures_ext {a b : Measures} (h : ∀ m : Measure, m.value a = m.value b) : a = b := by
  cases a
  cases b
  exact Measures.mk.injEq .. ▸ ⟨h .bannerHeight, h .frameHeight, h .insetLeft, h .insetRight⟩

theorem theme_ext {a b : Theme} (h : ∀ s : Shade, s.value a = s.value b) (htitle : a.title = b.title) :
    a = b := by
  cases a
  cases b
  exact Theme.mk.injEq .. ▸ ⟨h .background, h .banner, h .band, h .border, h .shadow,
    h .barForeground, h .barBackground, htitle⟩

/-- **A configuration is its settings.** -/
theorem ext_value? {c d : Config} (h : ∀ f, c.value? f = d.value? f) : c = d := by
  -- each field is made of settings, which have the same values in both
  have hmeasures : c.measures = d.measures :=
    measures_ext fun m => Option.some.inj (h (.measure m))
  have htheme : c.theme = d.theme :=
    theme_ext (fun s => Option.some.inj (h (.color s))) (Option.some.inj (h .title))
  have hshell : c.shell = d.shell := h .shell
  have hengine : c.engine = d.engine := Option.some.inj (h .engine)
  have hinterval : c.pollIntervalMs = d.pollIntervalMs := Option.some.inj (h .pollInterval)
  cases c
  cases d
  exact Config.mk.injEq .. ▸ ⟨hshell, hengine, hinterval, hmeasures, htheme⟩

/-! ### Sources -/

/-- **A source of settings**: what it says about which of them. -/
abbrev Source := (f : Field) → f.Value → Prop

/-- **The first source that says something** about a setting has the say. -/
def Source.first : List Source → Source
  | [], _, _ => False
  | source :: rest, f, v => source f v ∨ (∀ w, ¬ source f w) ∧ first rest f v

/-- What a source says is a choice of values. -/
def Source.IsChoice (source : Source) (choice : Choice) : Prop :=
  ∀ f v, source f v ↔ choice f = some v

theorem Source.isChoice_nil : IsChoice (first []) fun _ => none := fun _ _ => ⟨nofun, nofun⟩

/-- The first source chooses, and where it does not, the others do. -/
theorem Source.IsChoice.cons {source : Source} {rest : List Source} {choice choice' : Choice}
    (h : source.IsChoice choice) (hrest : (first rest).IsChoice choice') :
    (first (source :: rest)).IsChoice fun f => (choice f).or (choice' f) := by
  intro f v
  rw [first, hrest f v]
  dsimp only
  cases hchoice : choice f with
  | none =>
    -- the source is silent, so the others have the say
    have hsilent : ∀ w, ¬ source f w := fun w hw => by
      rw [h f w, hchoice] at hw
      cases hw
    rw [Option.none_or]
    exact ⟨fun hv => hv.elim (fun hv => absurd hv (hsilent v)) And.right, fun hv => .inr ⟨hsilent, hv⟩⟩
  | some w =>
    -- the others are not asked
    rw [Option.some_or, h f v, hchoice]
    exact ⟨fun hv => hv.elim id fun hv => absurd ((h f w).2 hchoice) (hv.1 w), .inl⟩

end Config

open Config (Source Choice Field Measure Shade)

/-! ### The command line -/

/-- **An option** that is part of a command line that starts a session. -/
inductive Switch where
  /-- The program to run, after the short or the long name of the option. -/
  | shell (name : String) (hname : name = "-s" ∨ name = "--shell") (path : String)
  | engineOff

namespace Switch

/-- The arguments that an option is written with. -/
def words : Switch → List String
  | shell name _ path => [name, path]
  | engineOff => ["--no-engine"]

/-- The program that an option names. -/
def path? : Switch → Option String
  | shell _ _ path => some path
  | engineOff => none

/-- Whether an option turns the engine off. -/
def isEngineOff : Switch → Bool
  | shell _ _ _ => false
  | engineOff => true

/-- What an option changes. -/
def apply (o : Overrides) : Switch → Overrides
  | shell _ _ path => { o with shell := some path }
  | engineOff => { o with engineOff := true }

end Switch

/-- **What the command line says**: the last program that an option names, and whether any option turns
the engine off. -/
def Config.Source.ofSwitches (switches : List Switch) : Source
  | .shell, path => (switches.filterMap Switch.path?).getLast? = some path
  | .engine, kind => kind = .off ∧ ∃ s ∈ switches, s.isEngineOff = true
  | _, _ => False

namespace CommandLine

/-- An option at the front is read. -/
theorem parseFrom_words (o : Overrides) (s : Switch) (rest : List String) :
    parseFrom o (s.words ++ rest) = parseFrom (s.apply o) rest := by
  cases s with
  -- the two names of the option are read alike
  | shell name hname path => obtain rfl | rfl := hname <;> rfl
  | engineOff =>
    change parseFrom o ("--no-engine" :: rest) = _
    rw [parseFrom.eq_def]
    dsimp only
    rw [if_neg (by decide), if_neg (by decide), if_neg (by decide), if_pos rfl]
    rfl

theorem parseFrom_eq_session_iff {o o' : Overrides} {arguments : List String} :
    parseFrom o arguments = .session o' ↔
      ∃ switches : List Switch, arguments = switches.flatMap Switch.words ∧
        o' = switches.foldl Switch.apply o := by
  constructor
  · intro h
    -- the induction is on the reading: it goes on after an option, and ends with a session at the end only
    fun_induction parseFrom o arguments with
    | case1 o =>
      cases h
      exact ⟨[], rfl, rfl⟩
    -- help, version, an option without its program, and an unknown argument
    | case2 | case3 | case4 | case7 => cases h
    | case5 o name _ _ hname path rest ih =>
      obtain ⟨switches, rfl, rfl⟩ := ih h
      exact ⟨.shell name hname path :: switches, rfl, rfl⟩
    | case6 o rest _ _ _ ih =>
      obtain ⟨switches, rfl, rfl⟩ := ih h
      exact ⟨.engineOff :: switches, rfl, rfl⟩
  · -- the options of such a command line are read one after the other
    rintro ⟨switches, rfl, rfl⟩
    induction switches generalizing o with
    | nil => rfl
    | cons s rest ih =>
      rw [List.flatMap_cons, parseFrom_words]
      exact ih

/-- **The command lines that start a session** are those that consist of options. -/
theorem parse_eq_session_iff {o : Overrides} {arguments : List String} :
    parse arguments = .session o ↔
      ∃ switches : List Switch, arguments = switches.flatMap Switch.words ∧
        o = switches.foldl Switch.apply {} :=
  parseFrom_eq_session_iff

end CommandLine

namespace Switch

variable (o : Overrides) (switches : List Switch)

theorem shell_foldl_apply : (switches.foldl apply o).shell
    = (switches.filterMap path?).getLast?.or o.shell := by
  -- the options after the first one are applied to what it has made of the overrides
  induction switches generalizing o with
  | nil => rfl
  | cons s rest ih =>
    rw [List.foldl_cons, ih]
    cases s with
    | engineOff => rfl
    -- what is named here counts only if nothing is named after it
    | shell name hname path =>
      have hpaths : (shell name hname path :: rest).filterMap path? = path :: rest.filterMap path? :=
        rfl
      rw [hpaths, List.getLast?_cons, Option.some_or]
      exact Option.or_some

theorem engineOff_foldl_apply : (switches.foldl apply o).engineOff
    = (o.engineOff || switches.any isEngineOff) := by
  induction switches generalizing o with
  | nil => exact (Bool.or_false _).symm
  | cons s rest ih =>
    rw [List.foldl_cons, ih, List.any_cons]
    cases s with
    -- once an option turns the engine off, none turns it on again
    | engineOff => exact (Bool.or_true _).symm
    | shell name hname path => rfl

end Switch

namespace Config

def Choice.ofSwitches (switches : List Switch) : Choice
  | .shell => (switches.filterMap Switch.path?).getLast?
  | .engine => if switches.any Switch.isEngineOff then some .off else none
  | _ => none

theorem Source.isChoice_ofSwitches (switches : List Switch) :
    (ofSwitches switches).IsChoice (Choice.ofSwitches switches) := by
  intro f v
  cases f with
  | shell => exact Iff.rfl
  | engine =>
    change (v = .off ∧ ∃ s ∈ switches, s.isEngineOff = true) ↔
      (if switches.any Switch.isEngineOff then some EngineKind.off else none) = some v
    rw [← List.any_eq_true]
    split
    -- the command line chooses the engine only by turning it off
    · next hoff => exact ⟨fun h => by rw [h.1], fun h => ⟨(Option.some.inj h).symm, hoff⟩⟩
    · next hon => exact ⟨fun h => absurd h.2 hon, nofun⟩
  -- the command line says nothing about the others
  | pollInterval | measure m | color s | title => exact ⟨nofun, nofun⟩

theorem value?_withOverrides (switches : List Switch) (c : Config) (f : Field) :
    (c.withOverrides (switches.foldl Switch.apply {})).value? f
      = (Choice.ofSwitches switches f).or (c.value? f) := by
  cases f with
  -- the last program of the command line comes before the one that was configured
  | shell =>
    change (switches.foldl Switch.apply {}).shell.orElse (fun _ => c.shell) = _
    rw [Switch.shell_foldl_apply, Option.or_none, ← Option.or_eq_orElse]
    rfl
  | engine =>
    change some (if (switches.foldl Switch.apply {}).engineOff then EngineKind.off else c.engine)
      = (if switches.any Switch.isEngineOff then some EngineKind.off else none).or (some c.engine)
    rw [Switch.engineOff_foldl_apply, Bool.false_or]
    split <;> rfl
  | pollInterval | measure m | color s | title => rfl

end Config

/-! ### The environment -/

/-- **A variable holds a text**: it is set, and to the bytes of the text. -/
def Environment.Holds (env : Environment) (name text : String) : Prop :=
  env name = some (text.toList.flatMap Text.Utf8.encode)

/-- **What is read of a variable is the text that it holds**, and nothing if it holds none. -/
theorem Environment.texts_eq_some_iff {env : Environment} {name text : String} :
    env.texts name = some text ↔ env.Holds name text := by
  unfold texts Holds
  rw [Option.bind_eq_some_iff]
  constructor
  · -- what is read as a text are the bytes of that text
    rintro ⟨bytes, hset, htext⟩
    obtain ⟨characters, hread, rfl⟩ := Option.map_eq_some_iff.1 htext
    rw [hset, String.toList_ofList, Text.Utf8.text?_eq_some_iff.1 hread]
  · -- conversely, the bytes of a text are read as it
    intro hset
    refine ⟨_, hset, ?_⟩
    rw [Text.Utf8.text?_eq_some_iff.2 rfl, Option.map_some, String.ofList_toList]

/-- The variable of a measure. -/
def Config.Measure.variableName : Measure → String
  | bannerHeight => "TOP_HEIGHT"
  | frameHeight => "MID_HEIGHT"
  | insetLeft => "INSET_LEFT"
  | insetRight => "INSET_RIGHT"

/-- **What the environment says**: a program, if one is named, and the numbers that variables hold. -/
def Config.Source.ofEnvironment (env : Environment) : Source
  | .shell, path => env.Holds "SHELL_CMD" path ∧ path ≠ ""
  | .measure m, n => ∃ text, env.Holds m.variableName text ∧ Environment.Writes text.toList n
  | _, _ => False

namespace Config

def Choice.ofVariables (vars : Variables) : Choice
  | .shell => shellIn vars none
  | .measure m => (vars m.variableName).bind fun text => Environment.number? text.toList
  | _ => none

theorem Source.isChoice_ofEnvironment (env : Environment) :
    (ofEnvironment env).IsChoice (Choice.ofVariables env.texts) := by
  intro f v
  cases f with
  | shell =>
    change env.Holds "SHELL_CMD" v ∧ v ≠ "" ↔ shellIn env.texts none = some v
    rw [← Environment.texts_eq_some_iff]
    unfold shellIn
    cases env.texts "SHELL_CMD" with
    | none => exact ⟨fun h => absurd h.1 nofun, nofun⟩
    | some path =>
      dsimp only
      split
      · next hempty =>
        -- an empty program is no program
        refine ⟨fun h => absurd ?_ h.2, nofun⟩
        rw [← Option.some.inj h.1, hempty]
      · next hne =>
        refine ⟨And.left, fun h => ⟨h, ?_⟩⟩
        rwa [← Option.some.inj h]
  | measure m =>
    change (∃ text, env.Holds m.variableName text ∧ Environment.Writes text.toList v) ↔
      ((env.texts m.variableName).bind fun text => Environment.number? text.toList) = some v
    rw [Option.bind_eq_some_iff]
    exact exists_congr fun text =>
      and_congr Environment.texts_eq_some_iff.symm Environment.number?_eq_some_iff.symm
  | engine | pollInterval | color s | title => exact ⟨nofun, nofun⟩

/-- A variable changes its measure if it holds a number. -/
theorem coord_eq (vars : Variables) (name : String) (default : Coord) :
    some (vars.coord name default).1
      = ((vars name).bind fun text => Environment.number? text.toList).or (some default) := by
  unfold Variables.coord
  cases vars name with
  | none => rfl
  | some text =>
    rw [Option.bind_some]
    dsimp only
    cases Environment.number? text.toList <;> rfl

theorem value?_withVariables (vars : Variables) (c : Config) (f : Field) :
    (c.withVariables vars).1.value? f = (Choice.ofVariables vars f).or (c.value? f) := by
  cases f with
  | shell =>
    change shellIn vars c.shell = (shellIn vars none).or c.shell
    unfold shellIn
    cases vars "SHELL_CMD" with
    | none => rfl
    | some path =>
      dsimp only
      split <;> rfl
  | measure m => cases m <;> exact coord_eq vars _ _
  | engine | pollInterval | color s | title => rfl

end Config

end FramedShell
