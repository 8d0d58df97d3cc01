import FramedShell.Toml.Reader

/-!
# Strings

Strings stand in double or single quotes, on one line or on several lines between tripled quotes. Only
double quotes know escapes. Between tripled quotes, a line end right after the opening is dropped, line
ends are read as line feeds, and up to two quotes may stand before the closing ones.
-/

namespace FramedShell.Toml

/-- The double quote. -/
def quote : Char := '\x22'

/-- The single quote. -/
def apostrophe : Char := '\x27'

/-- The value of a hexadecimal digit. -/
def hexValue? (c : Char) : Option Nat :=
  if '0' ≤ c ∧ c ≤ '9' then some (c.toNat - 0x30)
  else if 'a' ≤ c ∧ c ≤ 'f' then some (c.toNat - 0x57)
  else if 'A' ≤ c ∧ c ≤ 'F' then some (c.toNat - 0x37)
  else none

/-- The character whose number is written in hexadecimal digits. -/
def codePoint? (digits : List Char) : Option Char := do
  let n ← digits.foldlM (fun n c => (hexValue? c).map fun d => n * 16 + d) 0
  if n.isValidChar then some (Char.ofNat n) else none

/-- The character of an escape of one letter. -/
def escaped? (c : Char) : Option Char :=
  match c with
  | 'b' => some '\x08'
  | 't' => some '\t'
  | 'n' => some '\n'
  | 'f' => some '\x0c'
  | 'r' => some '\r'
  | '\x22' => some '\x22'
  | '\\' => some '\\'
  | _ => none

/-- Put a character before what a reader has read. -/
def push (c : Option Char) (r : Option (List Char × List Char)) : Option (List Char × List Char) := do
  let c ← c
  let (text, rest) ← r
  some (c :: text, rest)

/-- The text up to the double quote that ends it. -/
def basicBody : Reader (List Char)
  | [] => none
  | '\x22' :: rest => some ([], rest)
  | '\\' :: 'u' :: a :: b :: c :: d :: rest => push (codePoint? [a, b, c, d]) (basicBody rest)
  | '\\' :: 'U' :: a :: b :: c :: d :: e :: f :: g :: h :: rest =>
    push (codePoint? [a, b, c, d, e, f, g, h]) (basicBody rest)
  | '\\' :: e :: rest => push (escaped? e) (basicBody rest)
  | c :: rest => if isPrintable c then push (some c) (basicBody rest) else none

/-- **What an escaped line end does**: the backslash needs a line end after it, and then everything up to
the next visible character is dropped. -/
inductive Folding where
  | none
  /-- Between a backslash and the line end it needs. -/
  | needed
  /-- After that line end. -/
  | begun
deriving DecidableEq, Inhabited

/-- The text of several lines up to the double quotes that end it. -/
def basicLines : Folding → Reader (List Char)
  | _, [] => none
  | .needed, '\n' :: rest => basicLines .begun rest
  | .needed, '\r' :: '\n' :: rest => basicLines .begun rest
  | .needed, c :: rest => if isBlank c then basicLines .needed rest else none
  | .begun, ' ' :: rest => basicLines .begun rest
  | .begun, '\t' :: rest => basicLines .begun rest
  | .begun, '\n' :: rest => basicLines .begun rest
  | .begun, '\r' :: '\n' :: rest => basicLines .begun rest
  | _, '\x22' :: '\x22' :: '\x22' :: '\x22' :: '\x22' :: rest => some ([quote, quote], rest)
  | _, '\x22' :: '\x22' :: '\x22' :: '\x22' :: rest => some ([quote], rest)
  | _, '\x22' :: '\x22' :: '\x22' :: rest => some ([], rest)
  | _, '\x22' :: rest => push (some quote) (basicLines .none rest)
  | _, '\n' :: rest => push (some '\n') (basicLines .none rest)
  | _, '\r' :: '\n' :: rest => push (some '\n') (basicLines .none rest)
  | _, '\\' :: 'u' :: a :: b :: c :: d :: rest =>
    push (codePoint? [a, b, c, d]) (basicLines .none rest)
  | _, '\\' :: 'U' :: a :: b :: c :: d :: e :: f :: g :: h :: rest =>
    push (codePoint? [a, b, c, d, e, f, g, h]) (basicLines .none rest)
  | _, '\\' :: ' ' :: rest => basicLines .needed rest
  | _, '\\' :: '\t' :: rest => basicLines .needed rest
  | _, '\\' :: '\n' :: rest => basicLines .begun rest
  | _, '\\' :: '\r' :: '\n' :: rest => basicLines .begun rest
  | _, '\\' :: e :: rest => push (escaped? e) (basicLines .none rest)
  | _, c :: rest => if isPrintable c then push (some c) (basicLines .none rest) else none

/-- The text up to the single quote that ends it. -/
def literalBody : Reader (List Char)
  | [] => none
  | c :: rest =>
    if c = apostrophe then some ([], rest)
    else if isPrintable c then push (some c) (literalBody rest)
    else none

/-- The text of several lines up to the single quotes that end it. -/
def literalLines : Reader (List Char)
  | [] => none
  | '\x27' :: '\x27' :: '\x27' :: '\x27' :: '\x27' :: rest => some ([apostrophe, apostrophe], rest)
  | '\x27' :: '\x27' :: '\x27' :: '\x27' :: rest => some ([apostrophe], rest)
  | '\x27' :: '\x27' :: '\x27' :: rest => some ([], rest)
  | '\n' :: rest => push (some '\n') (literalLines rest)
  | '\r' :: '\n' :: rest => push (some '\n') (literalLines rest)
  | c :: rest => if isPrintable c then push (some c) (literalLines rest) else none

/-- Read a string in double quotes on one line. -/
def basicString : Reader (List Char) := do
  Reader.char quote
  basicBody

/-- Read a string in single quotes on one line. -/
def literalString : Reader (List Char) := do
  Reader.char apostrophe
  literalBody

/-- Read a string in tripled double quotes. -/
def longBasicString : Reader (List Char) := do
  Reader.word [quote, quote, quote]
  let _ ← Reader.option newline
  basicLines .none

/-- Read a string in tripled single quotes. -/
def longLiteralString : Reader (List Char) := do
  Reader.word [apostrophe, apostrophe, apostrophe]
  let _ ← Reader.option newline
  literalLines

/-- **Read a string** in any quotes. -/
def string : Reader (List Char) :=
  longBasicString <|> basicString <|> longLiteralString <|> literalString

end FramedShell.Toml
