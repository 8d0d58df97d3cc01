import FramedShell.Toml.Value

/-!
# Building tables

A document gives the entries of its tables piece by piece: by headers, by headers in double brackets,
and by dotted keys. Each table may be defined by one header only, and a table that one way of writing
has defined cannot be extended by another.

## Main definitions

* `Assignment` — a key, dotted or not, with its value;
* `Entries.assign` — adding an assignment to a table;
* `Entries.within` — changing the table that a header's path leads to;
* `Entries.defineTable`, `Entries.defineElement` — what the two kinds of headers do;
* `Entries.ofBraces` — the table that is written out in braces.
-/

namespace FramedShell.Toml

/-- **An assignment**: a path of keys, the last of them apart, and a value. -/
structure Assignment where
  path : List String
  key : String
  value : Value
deriving Inhabited

namespace Entries

/-- Add an assignment to a table. The keys before the last one lead through tables that exist only for
what is in them; the last of these must be there because of dotted keys. `extensible` says so of the
table itself. -/
def put (extensible : Bool) (key : String) (value : Value) : List String → Entries → Option Entries
  | [], es =>
    if extensible && (es.lookup? key).isNone then some (es ++ [(key, value)]) else none
  | k :: path, es =>
    match es.lookup? k with
    | none => do
      let sub ← put true key value path []
      some (es ++ [(k, .table .dotted sub)])
    | some (.table .dotted sub) => do
      let sub ← put true key value path sub
      some (es.replace k (.table .dotted sub))
    | some (.table .passed sub) => do
      let sub ← put false key value path sub
      some (es.replace k (.table .passed sub))
    | some (.tables elements) =>
      match elements.getLast? with
      | some last => do
        let last ← put false key value path last
        some (es.replace k (.tables (elements.dropLast ++ [last])))
      | none => none
    | some _ => none

/-- **Add an assignment** to a table. -/
def assign (es : Entries) (a : Assignment) : Option Entries := put true a.key a.value a.path es

/-- Add assignments in order. -/
def assignAll (as : List Assignment) (es : Entries) : Option Entries := as.foldlM assign es

/-- **Change the table at a path of headers.** Tables that are missing on the way are made, and of tables
in an array the last one is meant. -/
def within (f : Entries → Option Entries) : List String → Entries → Option Entries
  | [], es => f es
  | k :: path, es =>
    match es.lookup? k with
    | none => do
      let sub ← within f path []
      some (es ++ [(k, .table .passed sub)])
    | some (.table .closed _) => none
    | some (.table origin sub) => do
      let sub ← within f path sub
      some (es.replace k (.table origin sub))
    | some (.tables elements) =>
      match elements.getLast? with
      | some last => do
        let last ← within f path last
        some (es.replace k (.tables (elements.dropLast ++ [last])))
      | none => none
    | some _ => none

/-- **Define a table by its header.** It may exist already because headers lead through it. -/
def defineTable (key : String) (as : List Assignment) (es : Entries) : Option Entries :=
  match es.lookup? key with
  | none => do
    let sub ← assignAll as []
    some (es ++ [(key, .table .header sub)])
  | some (.table .passed sub) => do
    let sub ← assignAll as sub
    some (es.replace key (.table .header sub))
  | some _ => none

/-- **Define one more element** of an array of tables. -/
def defineElement (key : String) (as : List Assignment) (es : Entries) : Option Entries :=
  match es.lookup? key with
  | none => do
    let sub ← assignAll as []
    some (es ++ [(key, .tables [sub])])
  | some (.tables elements) => do
    let sub ← assignAll as []
    some (es.replace key (.tables (elements ++ [sub])))
  | some _ => none

/-- **The table that is written out in braces.** -/
def ofBraces (as : List Assignment) : Option Value := (assignAll as []).map (Value.table .closed)

end Entries

end FramedShell.Toml
