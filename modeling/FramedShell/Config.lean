import FramedShell.Config.Fault
import FramedShell.Engine
import FramedShell.Theme
import FramedShell.Toml.Document

/-!
# The configuration

Every setting has a default. A configuration file may give any of them; keys that are no settings are
ignored, but a setting with a value of the wrong type or out of range makes the whole file unusable.

A group of settings may be written as a table or as an array of its settings in their order. Settings
that are missing have their defaults, and surplus items of an array are ignored.

## Main definitions

* `Config` — the settings;
* `Config.ofEntries?` — the settings of a table;
* `Config.parse` — the settings of a text.
-/

namespace FramedShell

open Toml (Value Entries)

/-- **The configuration.** -/
structure Config where
  /-- The program to run in the frame. -/
  shell : Option String := none
  engine : EngineKind := .emulator
  /-- How long each step waits for output, in milliseconds. -/
  pollIntervalMs : UInt64 := 20
  measures : Measures := {}
  theme : Theme := {}
deriving DecidableEq, Inhabited

namespace Config

/-- How long each step waits for output: at least one millisecond. -/
def pollInterval (c : Config) : Nat := max c.pollIntervalMs.toNat 1

/-! ### Values of settings -/

/-- The value as a text. -/
def text? : Value → Option String
  | .string s => some s
  | _ => none

/-- The value as a natural number below a bound. -/
def natBelow? (bound : Nat) : Value → Option Nat
  | .integer n => if 0 ≤ n ∧ n < bound then some n.toNat else none
  | _ => none

/-- The value as a coordinate. -/
def coord? (v : Value) : Option Coord := (natBelow? Coord.count v).map UInt16.ofNat

/-- The number of different words of sixty-four bits. -/
def wordCount : Nat := 18446744073709551616

/-- The value as a number of sixty-four bits without sign. -/
def word? (v : Value) : Option UInt64 := (natBelow? wordCount v).map UInt64.ofNat

/-- The value as one part of a mixed color. -/
def part? (v : Value) : Option UInt8 := (natBelow? 256 v).map UInt8.ofNat

/-- The value as a mixed color: an array of at least three parts, of which the first three count. -/
def mix? : Value → Option Mix
  | .array (r :: g :: b :: _) => do
    let red ← part? r
    let green ← part? g
    let blue ← part? b
    some ⟨red, green, blue⟩
  | _ => none

/-- The engine of a name. -/
def engineNamed? (name : String) : Option EngineKind :=
  if name = "vt100" then some .emulator else if name = "none" then some .off else none

/-- Whether a value is an empty table or array. -/
def isEmptyGroup : Value → Bool
  | .table _ es => es.isEmpty
  | .array items => items.isEmpty
  | .tables elements => elements.isEmpty
  | _ => false

/-- The value as an engine: its name, or a table with its name as only key and nothing in it. -/
def engine? : Value → Option EngineKind
  | .string name => engineNamed? name
  | .table _ [(name, v)] => if isEmptyGroup v then engineNamed? name else none
  | _ => none

/-! ### Groups of settings -/

/-- The settings of a group by name, given their names in order. A date counts as a group without any
setting. -/
def group? (names : List String) : Value → Option Entries
  | .table _ es => some es
  | .array items => some (names.zip items)
  | .tables elements => some (names.zip (elements.map (Value.table .header)))
  | .date => some []
  | _ => none

/-- A setting, or its default if it is not given. -/
def setting {α : Type} (es : Entries) (name : String) (read : Value → Option α) (default : α) :
    Option α :=
  match es.lookup? name with
  | none => some default
  | some v => read v

/-- The names of the measures, in order. -/
def measureNames : List String := ["banner_height", "frame_height", "inset_left", "inset_right"]

/-- The measures of a group. -/
def measures? (v : Value) : Option Measures := do
  let es ← group? measureNames v
  let d : Measures := {}
  let bannerHeight ← setting es "banner_height" coord? d.bannerHeight
  let frameHeight ← setting es "frame_height" coord? d.frameHeight
  let insetLeft ← setting es "inset_left" coord? d.insetLeft
  let insetRight ← setting es "inset_right" coord? d.insetRight
  some ⟨bannerHeight, frameHeight, insetLeft, insetRight⟩

/-- The names of the parts of a theme, in order. -/
def themeNames : List String :=
  ["background", "banner", "band", "border", "shadow", "bar_fg", "bar_bg", "title"]

/-- The theme of a group. -/
def theme? (v : Value) : Option Theme := do
  let es ← group? themeNames v
  let d : Theme := {}
  let background ← setting es "background" mix? d.background
  let banner ← setting es "banner" mix? d.banner
  let band ← setting es "band" mix? d.band
  let border ← setting es "border" mix? d.border
  let shadow ← setting es "shadow" mix? d.shadow
  let barForeground ← setting es "bar_fg" mix? d.barForeground
  let barBackground ← setting es "bar_bg" mix? d.barBackground
  let title ← setting es "title" text? d.title
  some ⟨background, banner, band, border, shadow, barForeground, barBackground, title⟩

/-- **The settings of a table.** -/
def ofEntries? (es : Entries) : Option Config := do
  let d : Config := {}
  let shell ← setting es "shell" (fun v => some <$> text? v) d.shell
  let engine ← setting es "engine" engine? d.engine
  let pollIntervalMs ← setting es "poll_interval_ms" word? d.pollIntervalMs
  let measures ← setting es "chrome" measures? d.measures
  let theme ← setting es "theme" theme? d.theme
  some ⟨shell, engine, pollIntervalMs, measures, theme⟩

/-- **The settings of a text.** -/
def parse (text : List Char) : Except ConfigFault Config :=
  match (Toml.read? text).bind ofEntries? with
  | some c => .ok c
  | none => .error .malformed

end Config

end FramedShell
