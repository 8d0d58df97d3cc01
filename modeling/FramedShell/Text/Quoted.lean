import FramedShell.Text.Ranges
import FramedShell.Text.HiddenTable

/-!
# Quoted texts

A value that is shown in a message stands between double quotes. Quotes and backslashes are escaped by a
backslash, four controls have a letter of their own, and any other character without a picture is shown
by its number.
-/

namespace FramedShell.Text

/-- The code point of `c` in lower-case hexadecimal digits, without leading zeros. -/
def hexDigits (c : Char) : List Char := Nat.toDigits 16 c.toNat

/-- One character inside the quotes. -/
def quoteChar (c : Char) : List Char :=
  match c.toNat with
  | 0x00 => ['\\', '0']
  | 0x09 => ['\\', 't']
  | 0x0A => ['\\', 'n']
  | 0x0D => ['\\', 'r']
  | 0x22 => ['\\', '\x22']
  | 0x5C => ['\\', '\\']
  | _ => if inRanges hiddenRanges c then ['\\', 'u', '\x7b'] ++ hexDigits c ++ ['\x7d'] else [c]

/-- **The quoted form** of a text. -/
def quoted (text : List Char) : List Char := ['\x22'] ++ text.flatMap quoteChar ++ ['\x22']

end FramedShell.Text
