/-!
# White space around a value

`trim` removes the characters with the property *white space* from both ends of a text, over the whole
character set and not only its first block.
-/

namespace FramedShell.Text

/-- **White space**: the five controls from tab to carriage return, the space, the next-line control, and
the spaces and separators beyond the first block. -/
def isBlank (c : Char) : Bool :=
  let n := c.toNat
  (decide (0x09 ≤ n) && decide (n ≤ 0x0D)) || n == 0x20 || n == 0x85 || n == 0xA0 || n == 0x1680 ||
    (decide (0x2000 ≤ n) && decide (n ≤ 0x200A)) || n == 0x2028 || n == 0x2029 || n == 0x202F ||
    n == 0x205F || n == 0x3000

/-- The text without the white space at its beginning. -/
def trimStart (text : List Char) : List Char := text.dropWhile isBlank

/-- The text without the white space at both ends. -/
def trim (text : List Char) : List Char := (trimStart (trimStart text).reverse).reverse

end FramedShell.Text
