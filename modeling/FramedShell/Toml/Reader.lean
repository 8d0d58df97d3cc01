/-!
# Readers

A reader takes something from the beginning of a text and leaves the rest, or it fails. Choice goes back
to where the first reader began. Repetition is bounded by the length of the rest, which every repeated
reader shortens.

## Main definitions

* `Reader` — with its choice `<|>`;
* `Reader.many`, `Reader.separated` — repetition;
* `blanks`, `newline`, `comment`, `lineEnd`, `gap` — what stands between the parts of a document.
-/

namespace FramedShell.Toml

/-- **A reader.** -/
abbrev Reader := StateT (List Char) Option

namespace Reader

/-- Read one given character. -/
def char (c : Char) : Reader Unit
  | d :: rest => if d = c then some ((), rest) else none
  | [] => none

/-- Read one character of a class. -/
def one (p : Char → Bool) : Reader Char
  | c :: rest => if p c then some (c, rest) else none
  | [] => none

/-- Read given characters. -/
def word : List Char → Reader Unit
  | [] => pure ()
  | c :: rest => do
    char c
    word rest

/-- Read characters of a class, as many as there are. -/
def takeWhile (p : Char → Bool) : Reader (List Char) := fun cs => some (cs.takeWhile p, cs.dropWhile p)

/-- Whether the text is at its end. -/
def atEnd : Reader Bool := fun cs => some (cs.isEmpty, cs)

/-- Read something if it is there. -/
def option {α : Type} (r : Reader α) : Reader (Option α) := (some <$> r) <|> pure none

/-- Read something as often as it is there, and at most so many times. -/
def upTo {α : Type} (r : Reader α) : Nat → Reader (List α)
  | 0 => pure []
  | n + 1 => do
    match ← option r with
    | none => pure []
    | some a => (a :: ·) <$> upTo r n

/-- Read something as often as it is there. -/
def many {α : Type} (r : Reader α) : Reader (List α) := fun cs => upTo r cs.length cs

/-- Read some items with a separator between them; at least one. -/
def separated {α : Type} (item : Reader α) (separator : Char) : Reader (List α) := do
  let first ← item
  let more ← many do
    char separator
    item
  pure (first :: more)

end Reader

/-- A space or a tab. -/
def isBlank (c : Char) : Bool := c == ' ' || c == '\t'

/-- Any character that may stand in a comment: no control characters but the tab. -/
def isPrintable (c : Char) : Bool :=
  c == '\t' || (decide (0x20 ≤ c.toNat) && c.toNat != 0x7F)

/-- Read spaces and tabs. -/
def blanks : Reader Unit := do let _ ← Reader.takeWhile isBlank

/-- Read the end of a line: a line feed, with or without a carriage return before it. -/
def newline : Reader Unit := Reader.char '\n' <|> Reader.word ['\r', '\n']

/-- Read a comment up to the end of its line. -/
def comment : Reader Unit := do
  Reader.char '#'
  let _ ← Reader.takeWhile isPrintable

/-- Read what may follow an expression on its line, and the end of the line or of the document. -/
def lineEnd : Reader Unit := do
  blanks
  let _ ← Reader.option comment
  if ← Reader.atEnd then pure () else newline

/-- Read spaces, line ends and comments. A comment ends with its line. -/
def gap : Reader Unit := do
  let _ ← Reader.many ((do let _ ← Reader.one isBlank) <|> newline <|> do
    comment
    newline)

end FramedShell.Toml
