import FramedShell.Config.Environment
import Mathlib.Data.List.Induction
import Mathlib.Data.List.TakeWhile
import Mathlib.Data.Nat.Digits.Defs

/-!
# Numbers in variables

A variable holds a number if its text is one or more decimal digits with an optional plus before them
and white space on both sides, and the digits write a coordinate. Zeros at the front do not count, and a
minus is never read.

## Main definitions

* `Environment.Writes` — a text writes a coordinate.

## Main results

* `Text.trim_eq` — white space on both sides is all that is removed;
* `Environment.number?_eq_some_iff` — the number in a variable is the one that its text writes.
-/

namespace FramedShell

/-! ### White space on both sides -/

namespace Text

theorem trimStart_append {before : List Char} (h : ∀ c ∈ before, isBlank c = true)
    (rest : List Char) : trimStart (before ++ rest) = trimStart rest :=
  List.dropWhile_append_of_pos h

/-- A text that begins with another character stays as it is. -/
theorem trimStart_of_solid {core : List Char} (hne : core ≠ [])
    (h : ∀ c ∈ core, isBlank c = false) (rest : List Char) :
    trimStart (core ++ rest) = core ++ rest := by
  obtain ⟨c, core', rfl⟩ := List.exists_cons_of_ne_nil hne
  have hc : ¬ isBlank c = true := by
    rw [h c List.mem_cons_self]
    exact Bool.false_ne_true
  exact List.dropWhile_cons_of_neg hc

/-- **White space on both sides is removed.** -/
theorem trim_eq {before core after : List Char} (hbefore : ∀ c ∈ before, isBlank c = true)
    (hne : core ≠ []) (hcore : ∀ c ∈ core, isBlank c = false)
    (hafter : ∀ c ∈ after, isBlank c = true) : trim (before ++ (core ++ after)) = core := by
  have hstart : trimStart (before ++ (core ++ after)) = core ++ after :=
    (trimStart_append hbefore _).trans (trimStart_of_solid hne hcore after)
  -- the other end is the beginning of the reversed text
  have hend : trimStart (core ++ after).reverse = core.reverse := by
    rw [List.reverse_append, trimStart_append fun c hc => hafter c (List.mem_reverse.1 hc)]
    have hsolid := trimStart_of_solid (mt List.reverse_eq_nil_iff.1 hne)
      (fun c hc => hcore c (List.mem_reverse.1 hc)) []
    rwa [List.append_nil] at hsolid
  rw [trim, hstart, hend, List.reverse_reverse]

theorem exists_trim (text : List Char) :
    ∃ before after, text = before ++ (trim text ++ after) ∧
      (∀ c ∈ before, isBlank c = true) ∧ ∀ c ∈ after, isBlank c = true := by
  refine ⟨text.takeWhile isBlank, ((trimStart text).reverse.takeWhile isBlank).reverse, ?_,
    fun c hc => List.mem_takeWhile_imp hc,
    fun c hc => List.mem_takeWhile_imp (List.mem_reverse.1 hc)⟩
  have hend : trim text ++ ((trimStart text).reverse.takeWhile isBlank).reverse
      = trimStart text := by
    rw [trim, trimStart, ← List.reverse_append, List.takeWhile_append_dropWhile,
      List.reverse_reverse]
  rw [hend]
  exact List.takeWhile_append_dropWhile.symm

end Text

/-! ### Digits -/

namespace Environment

open Text (isBlank)

/-- The value of a decimal digit. -/
def digitValue (c : Char) : Nat := c.toNat - 0x30

/-- Reading digits from the left gives their value in base ten. -/
theorem decimal_eq (digits : List Char) :
    decimal digits = Nat.ofDigits 10 (digits.reverse.map digitValue) := by
  -- the fold reads a digit more at the right end, which is the least significant one
  induction digits using List.reverseRecOn with
  | nil => rfl
  | append_singleton digits c ih =>
    have hlast : decimal (digits ++ [c]) = decimal digits * 10 + digitValue c := List.foldl_append
    rw [hlast, List.reverse_concat, List.map_cons, Nat.ofDigits_cons, ← ih]
    omega

theorem isBlank_of_isDigit {c : Char} (h : c.isDigit = true) : isBlank c = false := by
  have hrange : 48 ≤ c.toNat ∧ c.toNat ≤ 57 := Char.isDigit_iff_toNat.1 h
  unfold isBlank
  simp only [Bool.or_eq_false_iff, Bool.and_eq_false_iff, decide_eq_false_iff_not, beq_eq_false_iff_ne]
  omega

/-! ### The number in a text -/

/-- **A text writes a coordinate**: white space, an optional plus, digits whose value in base ten is the
coordinate, and white space. -/
def Writes (text : List Char) (n : Coord) : Prop :=
  ∃ before sign digits after : List Char, text = before ++ (sign ++ digits ++ after) ∧
    (∀ c ∈ before, isBlank c = true) ∧ (∀ c ∈ after, isBlank c = true) ∧
    (sign = [] ∨ sign = ['+']) ∧ digits ≠ [] ∧ (∀ c ∈ digits, c.isDigit = true) ∧
    Nat.ofDigits 10 (digits.reverse.map digitValue) = n.toNat

theorem exists_sign (text : List Char) :
    ∃ sign, (sign = [] ∨ sign = ['+']) ∧ text = sign ++ unsigned text := by
  by_cases h : ∃ rest, text = '+' :: rest
  · obtain ⟨rest, rfl⟩ := h
    exact ⟨['+'], .inr rfl, rfl⟩
  · refine ⟨[], .inl rfl, ?_⟩
    unfold unsigned
    split
    · exact absurd ⟨_, rfl⟩ h
    · rfl

theorem unsigned_append {sign digits : List Char} (hsign : sign = [] ∨ sign = ['+'])
    (hdigits : ∀ c ∈ digits, c.isDigit = true) : unsigned (sign ++ digits) = digits := by
  obtain rfl | rfl := hsign
  · unfold unsigned
    split
    · next rest heq =>
      -- a plus is no digit
      exact absurd (hdigits '+' (by rw [← List.nil_append digits, heq]; exact List.mem_cons_self))
        (by decide)
    · rfl
  · rfl

theorem coord_ofNat?_eq_some_iff {value : Nat} {n : Coord} :
    Coord.ofNat? value = some n ↔ value = n.toNat := by
  unfold Coord.ofNat?
  split
  · next h =>
    rw [Option.some.injEq, ← UInt16.toNat_inj, UInt16.toNat_ofNat_of_lt' h]
  · next h =>
    refine ⟨nofun, ?_⟩
    rintro rfl
    exact absurd n.toNat_lt h

/-- **The number in a variable** is the one that its text writes, and there is none otherwise. -/
theorem number?_eq_some_iff {text : List Char} {n : Coord} :
    number? text = some n ↔ Writes text n := by
  unfold number?
  dsimp only
  constructor
  · intro h
    split at h
    · next hdigits =>
      -- white space is removed from both ends, and a sign from what is left
      obtain ⟨before, after, htext, hbefore, hafter⟩ := Text.exists_trim text
      obtain ⟨sign, hsign, htrim⟩ := exists_sign (Text.trim text)
      rw [coord_ofNat?_eq_some_iff, decimal_eq] at h
      refine ⟨before, sign, unsigned (Text.trim text), after, ?_, hbefore, hafter, hsign,
        hdigits.1, List.all_eq_true.1 hdigits.2, h⟩
      rw [← htrim]
      exact htext
    · cases h
  · rintro ⟨before, sign, digits, after, rfl, hbefore, hafter, hsign, hne, hdigits, hvalue⟩
    -- neither a sign nor a digit is white space, so the trimming stops at them
    have hsolid : ∀ c ∈ sign ++ digits, isBlank c = false := by
      intro c hc
      obtain hc | hc := List.mem_append.1 hc
      · obtain rfl | rfl := hsign
        · cases hc
        · rw [List.mem_singleton.1 hc]
          rfl
      · exact isBlank_of_isDigit (hdigits c hc)
    rw [Text.trim_eq hbefore (List.append_ne_nil_of_right_ne_nil sign hne) hsolid hafter,
      unsigned_append hsign hdigits, if_pos ⟨hne, List.all_eq_true.2 hdigits⟩,
      coord_ofNat?_eq_some_iff, decimal_eq]
    exact hvalue

example : number? "\u3000+0042\t".toList = some 42 ∧ number? "65536".toList = none := by decide

end Environment

end FramedShell
