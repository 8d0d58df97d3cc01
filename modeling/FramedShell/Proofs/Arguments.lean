import FramedShell.Proofs.Sources

/-!
# What the arguments ask for

A command line is a run of options and what is left after it. An option for the program to run takes the
argument after it, whatever that argument looks like, so whether a word is an option or the name of a
program depends on everything before it. The grammar settles this without reading: the options at the
front are *the longest run of options that the arguments begin with* (`IsFront`), and the first argument
after them decides what is asked for (`Asks`).

The argument that ties the reading to the grammar has two halves.

* **No run goes on where another one has ended.** Options are told apart by their words
  (`Switch.words_append_inj`), so one of two runs is always the beginning of the other
  (`prefix_of_append`). A run after which no option stands is therefore the longest (`isFront_of_ends`).
* **The reading does not stop before the end of a run.** An option at the front is read, and the rest is
  read after it (`parseFrom_front`).

## Main definitions

* `IsFront` — the options at the front of the arguments, and what is left;
* `Asks` — what is asked for, and how it is answered, by the options and what is left after them.

## Main results

* `exists_isFront` — every command line has options at its front, perhaps none;
* `parse_decides` — the reading follows the grammar, and what comes after the first argument that is
  neither an option nor part of one is not looked at.
-/

namespace FramedShell

/-! ### Telling options apart -/

/-- **Options are told apart by their words**, whatever comes after them. -/
theorem Switch.words_append_inj {s t : Switch} {rest rest' : List String}
    (h : s.words ++ rest = t.words ++ rest') : s = t ∧ rest = rest' := by
  -- the first word says which option it is, and there is one more word after the name of a path
  cases s with
  | shell name hname path =>
    cases t with
    | shell name' hname' path' =>
      obtain ⟨rfl, htail⟩ := List.cons.inj h
      obtain ⟨rfl, hrest⟩ := List.cons.inj htail
      exact ⟨rfl, hrest⟩
    | engineOff =>
      obtain ⟨rfl, -⟩ := List.cons.inj h
      -- the engine is turned off by a word that names no program
      exact absurd hname (by decide)
  | engineOff =>
    cases t with
    | shell name' hname' path' =>
      obtain ⟨rfl, -⟩ := List.cons.inj h
      exact absurd hname' (by decide)
    | engineOff => exact ⟨rfl, (List.cons.inj h).2⟩

theorem Switch.length_words_pos (s : Switch) : 0 < s.words.length := by
  cases s with
  | shell name hname path => exact Nat.zero_lt_succ _
  | engineOff => exact Nat.zero_lt_succ _

namespace CommandLine

/-- **No option stands at the front.** -/
def IsEnd (arguments : List String) : Prop :=
  ∀ (s : Switch) (rest : List String), arguments ≠ s.words ++ rest

/-- Where a run of options ends, no longer one goes on: every other run is a beginning of it. -/
theorem prefix_of_append {front front' : List Switch} {rest rest' : List String} (hend : IsEnd rest)
    (h : front.flatMap Switch.words ++ rest = front'.flatMap Switch.words ++ rest') :
    front' <+: front := by
  -- the shorter run is compared option by option
  induction front' generalizing front with
  | nil => exact List.nil_prefix
  | cons t more ih =>
    rw [List.flatMap_cons, List.append_assoc] at h
    -- the run would go on where no option stands
    cases front with
    | nil => exact absurd h (hend t _)
    | cons s front =>
      rw [List.flatMap_cons, List.append_assoc] at h
      obtain ⟨rfl, htail⟩ := Switch.words_append_inj h
      exact List.cons_prefix_cons.2 ⟨rfl, ih htail⟩

/-! ### Options at the front -/

/-- **The options at the front of the arguments**: they begin with these options, and with no longer run
of options. -/
structure IsFront (arguments : List String) (front : List Switch) (rest : List String) : Prop where
  split : arguments = front.flatMap Switch.words ++ rest
  longest : ∀ (front' : List Switch) (rest' : List String),
    arguments = front'.flatMap Switch.words ++ rest' →
      (front'.flatMap Switch.words).length ≤ (front.flatMap Switch.words).length

/-- **After the options at the front** there is no other option, or they would not be the longest run. -/
theorem IsFront.ends {arguments rest : List String} {front : List Switch}
    (h : IsFront arguments front rest) : IsEnd rest := by
  intro s after hs
  -- with this option the run would be longer
  have hlonger : arguments = (front ++ [s]).flatMap Switch.words ++ after := by
    rw [h.split, hs, List.flatMap_append, List.flatMap_singleton, List.append_assoc]
  have hle := h.longest _ _ hlonger
  rw [List.flatMap_append, List.flatMap_singleton, List.length_append] at hle
  have hpos : 0 < s.words.length := s.length_words_pos
  omega

/-- **A run of options after which no option stands** is the longest one. -/
theorem isFront_of_ends {front : List Switch} {rest : List String} (hend : IsEnd rest) :
    IsFront (front.flatMap Switch.words ++ rest) front rest where
  split := rfl
  longest front' rest' h := by
    -- any other run is a beginning of this one
    obtain ⟨more, rfl⟩ := prefix_of_append hend h
    rw [List.flatMap_append, List.length_append]
    exact Nat.le_add_right _ _

/-- An option before the arguments is one more option at their front. -/
theorem IsFront.cons {arguments rest : List String} {front : List Switch}
    (h : IsFront arguments front rest) (s : Switch) :
    IsFront (s.words ++ arguments) (s :: front) rest := by
  rw [h.split, ← List.append_assoc, ← List.flatMap_cons]
  exact isFront_of_ends h.ends

/-- **Every command line has options at its front**, perhaps none. -/
theorem exists_isFront (arguments : List String) : ∃ front rest, IsFront arguments front rest := by
  by_cases hend : IsEnd arguments
  · -- no option stands at the very front
    exact ⟨[], arguments, @isFront_of_ends [] arguments hend⟩
  · unfold IsEnd at hend
    push Not at hend
    obtain ⟨s, after, rfl⟩ := hend
    -- the arguments after an option are fewer
    have hfewer : after.length < (s.words ++ after).length := by
      rw [List.length_append]
      exact Nat.lt_add_of_pos_left s.length_words_pos
    obtain ⟨front, rest, h⟩ := exists_isFront after
    exact ⟨s :: front, rest, h.cons s⟩
termination_by arguments.length

/-! ### The grammar -/

/-- An argument that asks for help. -/
def IsHelp (a : String) : Prop := a = "-h" ∨ a = "--help"

/-- An argument that asks for the version. -/
def IsVersion (a : String) : Prop := a = "-v" ∨ a = "--version"

/-- An argument that announces the program to run. -/
def IsShell (a : String) : Prop := a = "-s" ∨ a = "--shell"

/-- **What a command line asks for**, and how it is answered, by the options at its front and what is
left after them. The first argument that is left decides; what follows it is not looked at, except that
the option for the program to run is at fault only where it is the last argument. -/
inductive Asks (front : List Switch) : List String → Request → Option Reply → Prop where
  /-- Nothing is left: a session is started with the last program that is named, and without the engine
  if any option turns it off. -/
  | session {o : Overrides} (hshell : o.shell = (front.filterMap Switch.path?).getLast?)
      (hengine : o.engineOff = true ↔ ∃ s ∈ front, s.isEngineOff = true) :
      Asks front [] (.session o) none
  | help {a : String} {rest : List String} (ha : IsHelp a) :
      Asks front (a :: rest) .help (some ⟨0, helpText⟩)
  | version {a : String} {rest : List String} (ha : IsVersion a) :
      Asks front (a :: rest) .version (some ⟨0, versionText⟩)
  /-- The program to run is announced and not named. -/
  | missing {a : String} (ha : IsShell a) :
      Asks front [a] (.rejected .missingShell)
        (some ⟨1, "Error: Missing shell argument\nUse --help for usage information\n"⟩)
  /-- All else is at fault, and named as it was written. -/
  | unknown {a : String} {rest : List String} (hhelp : ¬ IsHelp a) (hversion : ¬ IsVersion a)
      (hshell : ¬ (IsShell a ∧ rest = [])) :
      Asks front (a :: rest) (.rejected (.unknown a))
        (some ⟨1, "Error: " ++ ("Unknown argument: " ++ a ++ ". Use -h for help.") ++
          "\nUse --help for usage information\n"⟩)

/-- Something is asked for, whatever is left after the options. -/
theorem exists_asks (front : List Switch) (rest : List String) : ∃ r reply, Asks front rest r reply := by
  cases rest with
  | nil =>
    let o : Overrides :=
      { shell := (front.filterMap Switch.path?).getLast?, engineOff := front.any Switch.isEngineOff }
    exact ⟨.session o, none, .session rfl List.any_eq_true⟩
  | cons a rest =>
    by_cases hhelp : IsHelp a
    · exact ⟨_, _, .help hhelp⟩
    by_cases hversion : IsVersion a
    · exact ⟨_, _, .version hversion⟩
    -- the last word announces a program that is not named
    by_cases hshell : IsShell a ∧ rest = []
    · obtain ⟨ha, rfl⟩ := hshell
      exact ⟨_, _, .missing ha⟩
    · exact ⟨_, _, .unknown hhelp hversion hshell⟩

/-! ### The reading -/

/-- The options at the front are read one after the other, and what is left after them. -/
theorem parseFrom_front (o : Overrides) (front : List Switch) (rest : List String) :
    parseFrom o (front.flatMap Switch.words ++ rest) = parseFrom (front.foldl Switch.apply o) rest := by
  -- the induction is on the options, with what was overridden before them
  induction front generalizing o with
  | nil => rfl
  | cons s front ih =>
    calc parseFrom o ((s :: front).flatMap Switch.words ++ rest)
        = parseFrom o (s.words ++ (front.flatMap Switch.words ++ rest)) := by
          rw [List.flatMap_cons, List.append_assoc]
      _ = parseFrom (s.apply o) (front.flatMap Switch.words ++ rest) := parseFrom_words o s _
      _ = parseFrom ((s :: front).foldl Switch.apply o) rest := ih (s.apply o)

section

variable (o : Overrides) {a : String}

theorem parseFrom_help (ha : IsHelp a) (rest : List String) : parseFrom o (a :: rest) = .help := by
  rw [parseFrom.eq_def]
  exact if_pos ha

theorem parseFrom_version (ha : IsVersion a) (rest : List String) :
    parseFrom o (a :: rest) = .version := by
  -- the words for help and for the version are different
  have hhelp : ¬ IsHelp a := by
    obtain rfl | rfl := ha <;> unfold IsHelp <;> decide
  rw [parseFrom.eq_def]
  dsimp only
  exact (if_neg hhelp).trans (if_pos ha)

theorem parseFrom_missing (ha : IsShell a) : parseFrom o [a] = .rejected .missingShell := by
  obtain rfl | rfl := ha <;> rfl

theorem parseFrom_unknown (hhelp : ¬ IsHelp a) (hversion : ¬ IsVersion a) (hshell : ¬ IsShell a)
    (hengine : a ≠ "--no-engine") (rest : List String) :
    parseFrom o (a :: rest) = .rejected (.unknown a) := by
  rw [parseFrom.eq_def]
  dsimp only
  unfold IsHelp at hhelp
  unfold IsVersion at hversion
  unfold IsShell at hshell
  rw [if_neg hhelp, if_neg hversion, if_neg hshell, if_neg hengine]

end

/-- An argument at the end of a run does not turn the engine off, and announces a program only if it is
the last one. -/
theorem IsEnd.head {a : String} {rest : List String} (h : IsEnd (a :: rest)) :
    a ≠ "--no-engine" ∧ (IsShell a → rest = []) := by
  refine ⟨?_, fun ha => ?_⟩
  · -- this word is an option by itself
    rintro rfl
    exact h .engineOff rest rfl
  · -- with a path after it the word would be an option
    cases rest with
    | nil => rfl
    | cons path rest => exact absurd rfl (h (.shell a ha path) rest)

/-- **What is asked for by the grammar is what is read**, and it is answered so. -/
theorem IsFront.parse_eq {arguments rest : List String} {front : List Switch} {r : Request}
    {reply : Option Reply} (h : IsFront arguments front rest) (hasks : Asks front rest r reply) :
    parse arguments = r ∧ r.reply? = reply := by
  have hread : parse arguments = parseFrom (front.foldl Switch.apply {}) rest := by
    rw [h.split]
    exact parseFrom_front {} front rest
  rw [hread]
  cases hasks with
  | session hshell hengine =>
    rename_i o
    refine ⟨congrArg Request.session ?_, rfl⟩
    -- the last path wins, and the engine is off once any option has turned it off
    have hpath : (front.foldl Switch.apply {}).shell = o.shell := by
      rw [Switch.shell_foldl_apply, hshell]
      exact Option.or_none
    have hoff : (front.foldl Switch.apply {}).engineOff = o.engineOff := by
      rw [Switch.engineOff_foldl_apply, Bool.false_or, Bool.eq_iff_iff, hengine, List.any_eq_true]
    generalize front.foldl Switch.apply {} = read at hpath hoff
    cases read
    cases o
    exact Overrides.mk.injEq .. ▸ ⟨hpath, hoff⟩
  | help ha => exact ⟨parseFrom_help _ ha _, rfl⟩
  | version ha => exact ⟨parseFrom_version _ ha _, rfl⟩
  | missing ha => exact ⟨parseFrom_missing _ ha, rfl⟩
  | unknown hhelp hversion hshell =>
    -- what is left does not begin with an option, so that no other reading comes before this one
    obtain ⟨hengine, hlast⟩ := h.ends.head
    exact ⟨parseFrom_unknown _ hhelp hversion (fun ha => hshell ⟨ha, hlast ha⟩) hengine _, rfl⟩

/-- After other arguments the first one that is left is the same, if it announces no program. -/
theorem IsEnd.of_head {a : String} {rest : List String} (h : IsEnd (a :: rest)) (ha : ¬ IsShell a)
    (rest' : List String) : IsEnd (a :: rest') := by
  intro s after hs
  cases s with
  | shell name hname path =>
    obtain ⟨rfl, -⟩ := List.cons.inj hs
    exact ha hname
  | engineOff =>
    obtain ⟨rfl, -⟩ := List.cons.inj hs
    exact h.head.1 rfl

/-- **The command line is read by its grammar**: what is read, and how it is answered, is what the first
argument after the longest run of options asks for. The name of the program itself comes first and asks
for nothing. After an argument that is neither an option nor part of one, nothing is looked at. -/
theorem parse_decides (line : List String) :
    (∀ r reply, parse line.tail = r ∧ r.reply? = reply ↔
      ∃ front rest, IsFront line.tail front rest ∧ Asks front rest r reply) ∧
    ∀ front a rest, IsFront line.tail front (a :: rest) → ¬ IsShell a →
      ∀ rest', parse (front.flatMap Switch.words ++ a :: rest') = parse line.tail := by
  constructor
  · intro r reply
    constructor
    · rintro ⟨rfl, rfl⟩
      obtain ⟨front, rest, h⟩ := exists_isFront line.tail
      obtain ⟨r, reply, hasks⟩ := exists_asks front rest
      obtain ⟨rfl, rfl⟩ := h.parse_eq hasks
      exact ⟨front, rest, h, hasks⟩
    · rintro ⟨front, rest, h, hasks⟩
      exact h.parse_eq hasks
  · intro front a rest h ha rest'
    -- the same options are at the front, and the same argument is the first that is left
    have h' : IsFront (front.flatMap Switch.words ++ a :: rest') front (a :: rest') :=
      isFront_of_ends (h.ends.of_head ha rest')
    by_cases hhelp : IsHelp a
    · exact (h'.parse_eq (.help hhelp)).1.trans (h.parse_eq (.help hhelp)).1.symm
    by_cases hversion : IsVersion a
    · exact (h'.parse_eq (.version hversion)).1.trans (h.parse_eq (.version hversion)).1.symm
    · have hunknown (after : List String) :
          Asks front (a :: after) (.rejected (.unknown a)) _ :=
        .unknown hhelp hversion fun hshell => ha hshell.1
      exact (h'.parse_eq (hunknown rest')).1.trans (h.parse_eq (hunknown rest)).1.symm

/-- A program may be named like an option, and of two programs the last one counts. -/
example : parse ["-s", "-h", "--no-engine", "--shell", "--shell"]
    = .session { shell := some "--shell", engineOff := true } := rfl

end CommandLine

end FramedShell
