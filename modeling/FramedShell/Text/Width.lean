import FramedShell.Text.Ranges
import FramedShell.Text.ZeroWidthTable
import FramedShell.Text.WideTable

/-!
# How many columns a text takes

A control character has no width, a combining mark has width zero, an East Asian wide character has
width two and any other character width one.

* `charWidth` — the columns of a character, `none` for a control character;
* `textWidth` — the columns of a text, in which a control character counts as one column.

## What is assumed

The program takes widths from `unicode-width`, in a 0.1 release. Of it are assumed the tables of
characters of width zero and two, and that a text is as wide as its characters together. Newer 0.1
releases measure some sequences as a whole, such as an emoji with a variation selector or joined emoji;
for these the sum stands in place of what such a release says.
-/

namespace FramedShell.Text

/-- Whether `c` is one of the two blocks of control characters. -/
def isControl (c : Char) : Bool := decide (c.toNat < 0x20) || (decide (0x7F ≤ c.toNat) && decide (c.toNat < 0xA0))

/-- **The columns that a character takes.** A control character has no width at all. -/
def charWidth (c : Char) : Option Nat :=
  if isControl c then none
  else if c.toNat < 0x7F then some 1
  else if inRanges zeroWidthRanges c then some 0
  else if inRanges wideRanges c then some 2
  else some 1

/-- **The columns that a text takes**: the sum over its characters, a control character counting one.
That no sequence of characters has a width of its own is an assumption about `unicode-width`. -/
def textWidth : List Char → Nat
  | [] => 0
  | c :: rest => (charWidth c).getD 1 + textWidth rest

@[simp] theorem textWidth_nil : textWidth [] = 0 := rfl

@[simp] theorem textWidth_cons (c : Char) (text : List Char) :
    textWidth (c :: text) = (charWidth c).getD 1 + textWidth text := rfl

@[simp] theorem textWidth_append (s t : List Char) : textWidth (s ++ t) = textWidth s + textWidth t := by
  induction s with
  | nil => simp
  | cons c rest ih => simp [ih, Nat.add_assoc]

/-- No character takes more than two columns. -/
theorem charWidth_le_two {c : Char} {n : Nat} (h : charWidth c = some n) : n ≤ 2 := by
  unfold charWidth at h
  repeat' split at h
  all_goals simp at h
  all_goals omega

end FramedShell.Text
