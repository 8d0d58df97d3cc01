import FramedShell.Toml.Number
import FramedShell.Toml.Quotation
import FramedShell.Toml.Table

/-!
# Documents

A document is a sequence of lines. Each line is blank, or assigns a value to a key, or is a header that
says which table the following assignments belong to.

## Main definitions

* `value` — reading a value;
* `Header`, `Section`, `Document` — what a document says, before any table is built;
* `Document.entries?` — the table that a document describes;
* `read?` — both steps together.
-/

namespace FramedShell.Toml

/-- How deep arrays and tables in braces may be nested, and how many parts a dotted key may have. -/
def maxDepth : Nat := 79

/-! ### Keys -/

/-- A character of a key without quotes. -/
def isBare (c : Char) : Bool := c.isAlphanum || c == '-' || c == '_'

/-- Read a key without dots. -/
def simpleKey : Reader String :=
  String.ofList <$> (basicString <|> literalString <|> do
    let first ← Reader.one isBare
    let more ← Reader.takeWhile isBare
    pure (first :: more))

/-- Read a key with blanks around it. -/
def spacedKey : Reader String := do
  blanks
  let k ← simpleKey
  blanks
  pure k

/-- **Read a key**, dotted or not: the parts before the last one, and the last one. -/
def key : Reader (List String × String) := do
  let parts ← Reader.separated spacedKey '.'
  if maxDepth < parts.length then failure
  else StateT.lift (parts.getLast?.map fun last => (parts.dropLast, last))

/-- Read an assignment, given how to read its value. -/
def assignment (value : Reader Value) : Reader Assignment := do
  let (path, last) ← key
  Reader.char '='
  blanks
  let v ← value
  blanks
  pure ⟨path, last, v⟩

/-! ### Values -/

/-- Read a value without parts. -/
def plainValue : Reader Value :=
  ((Value.string ∘ String.ofList) <$> string) <|> date <|> float <|> integer <|>
    (do
      Reader.word "true".toList
      pure (Value.boolean true)) <|> do
    Reader.word "false".toList
    pure (Value.boolean false)

/-- Read an array, given how to read its items. A comma may follow the last item. -/
def array (item : Reader Value) : Reader Value := do
  Reader.char '['
  let items ← Reader.option <| Reader.separated (do
    gap
    let v ← item
    gap
    pure v) ','
  if items.isSome then
    let _ ← Reader.option (Reader.char ',')
  gap
  Reader.char ']'
  pure (.array (items.getD []))

/-- Read a table in braces, given how to read its values. It stands on one line. -/
def braces (value : Reader Value) : Reader Value := do
  Reader.char '\x7b'
  let pairs ← Reader.option (Reader.separated (assignment value) ',')
  blanks
  Reader.char '\x7d'
  StateT.lift (Entries.ofBraces (pairs.getD []))

/-- Read a value in which arrays and tables are nested at most so deep. -/
def nestedValue : Nat → Reader Value
  | 0 => plainValue
  | depth + 1 => array (nestedValue depth) <|> braces (nestedValue depth) <|> plainValue

/-- **Read a value.** -/
def value : Reader Value := nestedValue maxDepth

/-! ### Lines -/

/-- **A header**: whether it is in double brackets, and the key in it. -/
structure Header where
  isElement : Bool
  path : List String
  key : String
deriving DecidableEq, Inhabited

/-- **A line.** -/
inductive Line where
  | blank
  | assign (a : Assignment)
  | header (h : Header)
deriving Inhabited

/-- Read a header. -/
def header : Reader Header :=
  (do
    Reader.word ['[', '[']
    let (path, last) ← key
    Reader.word [']', ']']
    pure ⟨true, path, last⟩) <|> do
  Reader.char '['
  let (path, last) ← key
  Reader.char ']'
  pure ⟨false, path, last⟩

/-- Read a line, from its first character that is no blank on. -/
def line : Reader Line :=
  (do
    newline
    pure .blank) <|>
  (do
    comment
    lineEnd
    pure .blank) <|>
  (do
    let h ← header
    lineEnd
    pure (.header h)) <|> do
  let a ← assignment value
  lineEnd
  pure (.assign a)

/-- Read the lines of a document. -/
def lines : Reader (List Line) := do
  blanks
  Reader.many do
    let l ← line
    blanks
    pure l

/-! ### Documents -/

/-- **A section**: a header and the assignments that follow it. -/
structure Section where
  header : Header
  assignments : List Assignment
deriving Inhabited

/-- **A document**: the assignments before the first header, and the sections. -/
structure Document where
  assignments : List Assignment := []
  sections : List Section := []
deriving Inhabited

namespace Document

/-- The document of some lines. -/
def ofLines : List Line → Document
  | [] => {}
  | .blank :: rest => ofLines rest
  | .assign a :: rest =>
    let d := ofLines rest
    { d with assignments := a :: d.assignments }
  | .header h :: rest =>
    let d := ofLines rest
    ⟨[], ⟨h, d.assignments⟩ :: d.sections⟩

/-- Read a document to its end. A mark of the byte order may stand before it. -/
def read? (text : List Char) : Option Document :=
  let text := if text.head? = some '\ufeff' then text.tail else text
  match lines text with
  | some (ls, []) => some (ofLines ls)
  | _ => none

/-- Add a section to the table of a document. -/
def define (es : Entries) (s : Section) : Option Entries :=
  es.within (if s.header.isElement then Entries.defineElement s.header.key s.assignments
    else Entries.defineTable s.header.key s.assignments) s.header.path

/-- **The table that a document describes**, if its assignments and headers agree. -/
def entries? (d : Document) : Option Entries := do
  let es ← Entries.assignAll d.assignments []
  d.sections.foldlM define es

end Document

/-- **Read the table that a text describes.** -/
def read? (text : List Char) : Option Entries := do
  let d ← Document.read? text
  d.entries?

end FramedShell.Toml
