/-!
# Values of the configuration language

The configuration file is written in TOML. Its contents are a tree: tables of keys and values, arrays,
and plain values.

## Main definitions

* `Value` — a value; a table remembers how it came to be, which decides whether it can still be extended;
* `Entries` — the keys and values of a table, in the order in which they were written;
* `Entries.lookup?` — the value of a key.
-/

namespace FramedShell.Toml

/-- **How a table came to be.** -/
inductive Origin where
  /-- By a header of its own. -/
  | header
  /-- Because a header names a table inside of it. -/
  | passed
  /-- Because a dotted key names a value inside of it. -/
  | dotted
  /-- Written out in braces. It cannot be extended. -/
  | closed
deriving DecidableEq, Inhabited

/-- **A value.** Floats and dates carry nothing, since no setting is one. -/
inductive Value where
  | string (text : String)
  | integer (n : Int)
  | float
  | boolean (b : Bool)
  | date
  | array (items : List Value)
  | table (origin : Origin) (entries : List (String × Value))
  /-- The tables that headers in double brackets add up to. -/
  | tables (elements : List (List (String × Value)))
deriving Inhabited

/-- **The entries of a table.** -/
abbrev Entries := List (String × Value)

namespace Entries

/-- The value of a key. -/
def lookup? (key : String) : Entries → Option Value
  | [] => none
  | (k, v) :: rest => if k = key then some v else lookup? key rest

/-- The entries with another value for a key that is among them. -/
def replace (key : String) (value : Value) : Entries → Entries
  | [] => []
  | (k, v) :: rest => if k = key then (k, value) :: rest else (k, v) :: replace key value rest

end Entries

end FramedShell.Toml
