import FramedShell.Toml.Reader
import FramedShell.Toml.Value

/-!
# Numbers and dates

An integer has sixty-four bits and is written in decimal digits with an optional sign, or in hexadecimal,
octal or binary digits after a mark. A single underscore may stand between two digits. A float has a
fraction or an exponent, or is infinite or no number; a positive one must not exceed the largest float.
Dates are checked against the calendar.
-/

namespace FramedShell.Toml

/-- A decimal digit. -/
def isDigit (c : Char) : Bool := c.isDigit

/-- The value of a digit of any base up to sixteen. -/
def digitValue (c : Char) : Nat :=
  if c.isDigit then c.toNat - 0x30 else if 'a' ≤ c then c.toNat - 0x57 else c.toNat - 0x37

/-- The number that digits write. -/
def numberOf (base : Nat) (digits : List Char) : Nat :=
  digits.foldl (fun n c => n * base + digitValue c) 0

/-- The digits after the first one, without the underscores between them. -/
def digitsAfter (isDigit : Char → Bool) : Reader (List Char)
  | [] => some ([], [])
  | '_' :: c :: rest => if isDigit c then do
      let (more, rest) ← digitsAfter isDigit rest
      some (c :: more, rest)
    else none
  | c :: rest =>
    if isDigit c then do
      let (more, rest) ← digitsAfter isDigit rest
      some (c :: more, rest)
    else if c = '_' then none
    else some ([], c :: rest)

/-- Read digits, at least one. -/
def digits (isDigit : Char → Bool) : Reader (List Char) := do
  let first ← Reader.one isDigit
  let more ← digitsAfter isDigit
  pure (first :: more)

/-- Read a sign, if there is one; whether it is a minus. -/
def sign : Reader Bool := do
  match ← Reader.option (Reader.one fun c => c == '+' || c == '-') with
  | some c => pure (c == '-')
  | none => pure false

/-- Read the digits of a decimal number: no zero stands before others. -/
def decimalDigits : Reader (List Char) :=
  (do
    Reader.char '0'
    pure ['0']) <|> digits isDigit

/-- The integer, if it has sixty-four bits. -/
def integer? (n : Int) : Option Value :=
  if -9223372036854775808 ≤ n ∧ n ≤ 9223372036854775807 then some (.integer n) else none

/-- Read the digits of a number after the mark of its base. -/
def marked (mark : Char) (base : Nat) (isDigit : Char → Bool) : Reader Value := do
  Reader.word ['0', mark]
  let ds ← digits isDigit
  StateT.lift (integer? (numberOf base ds))

/-- A hexadecimal digit. -/
def isHexDigit (c : Char) : Bool := c.isDigit || ('a' ≤ c && c ≤ 'f') || ('A' ≤ c && c ≤ 'F')

/-- **Read an integer.** -/
def integer : Reader Value :=
  marked 'x' 16 isHexDigit <|> marked 'o' 8 (fun c => '0' ≤ c && c ≤ '7') <|>
    marked 'b' 2 (fun c => c == '0' || c == '1') <|> do
      let negative ← sign
      let n := numberOf 10 (← decimalDigits)
      StateT.lift (integer? (if negative then -(n : Int) else n))

/-- Whether the decimal number `significand · 10 ^ exponent` is nearer to infinity than to any float. -/
def exceedsFloats (significand : Nat) (exponent : Int) : Bool :=
  let magnitude : Int := (Nat.toDigits 10 significand).length + exponent
  if significand = 0 ∨ magnitude < 308 then false
  else if magnitude > 310 then true
  else
    let bound := (Nat.pow 2 54 - 1) * Nat.pow 2 970
    if 0 ≤ exponent then bound ≤ significand * Nat.pow 10 exponent.toNat
    else bound * Nat.pow 10 (-exponent).toNat ≤ significand

/-- Read an exponent. -/
def exponent : Reader Int := do
  let _ ← Reader.one fun c => c == 'e' || c == 'E'
  let negative ← sign
  let n := numberOf 10 (← digits isDigit)
  pure (if negative then -(n : Int) else n)

/-- Read a fraction. -/
def fraction : Reader (List Char) := do
  Reader.char '.'
  digits isDigit

/-- Read a float that is written in digits. -/
def finiteFloat : Reader Value := do
  let negative ← sign
  let whole ← decimalDigits
  let (part, power) ← (do pure ([], ← exponent)) <|> do
    let part ← fraction
    let power ← Reader.option exponent
    pure (part, power.getD 0)
  if !negative && exceedsFloats (numberOf 10 (whole ++ part)) (power - part.length) then failure
  else pure .float

/-- **Read a float.** -/
def float : Reader Value :=
  finiteFloat <|> do
    let _ ← sign
    Reader.word "inf".toList <|> Reader.word "nan".toList
    pure .float

/-! ### Dates and times -/

/-- Read exactly two digits of a number within bounds. -/
def twoDigits (low high : Nat) : Reader Nat := do
  let a ← Reader.one isDigit
  let b ← Reader.one isDigit
  let n := numberOf 10 [a, b]
  if low ≤ n ∧ n ≤ high then pure n else failure

/-- Whether a year has a twenty-ninth of February. -/
def isLeap (year : Nat) : Bool := year % 4 == 0 && (year % 100 != 0 || year % 400 == 0)

/-- The days of a month. -/
def daysOf (year month : Nat) : Nat :=
  if month = 2 then (if isLeap year then 29 else 28)
  else if month = 4 ∨ month = 6 ∨ month = 9 ∨ month = 11 then 30
  else 31

/-- Read a date of the calendar. -/
def calendarDate : Reader Unit := do
  let century ← twoDigits 0 99
  let rest ← twoDigits 0 99
  Reader.char '-'
  let month ← twoDigits 1 12
  Reader.char '-'
  let _ ← twoDigits 1 (daysOf (century * 100 + rest) month)

/-- Read a time of the day. -/
def dayTime : Reader Unit := do
  let _ ← twoDigits 0 23
  Reader.char ':'
  let _ ← twoDigits 0 59
  Reader.char ':'
  let _ ← twoDigits 0 60
  let _ ← Reader.option do
    Reader.char '.'
    let _ ← Reader.one isDigit
    let _ ← Reader.takeWhile isDigit

/-- Read an offset from the time of Greenwich. -/
def offset : Reader Unit :=
  (do let _ ← Reader.one fun c => c == 'Z' || c == 'z') <|> do
    let _ ← Reader.one fun c => c == '+' || c == '-'
    let _ ← twoDigits 0 23
    Reader.char ':'
    let _ ← twoDigits 0 59

/-- **Read a date, a time, or both.** -/
def date : Reader Value := do
  (do
    calendarDate
    let _ ← Reader.option do
      let _ ← Reader.one fun c => c == 'T' || c == 't' || c == ' '
      dayTime
      let _ ← Reader.option offset) <|> dayTime
  pure .date

end FramedShell.Toml
