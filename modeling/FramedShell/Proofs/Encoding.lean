import FramedShell.Keyboard.Decoder

/-!
# The bytes of a text read back

The reader of UTF-8 takes a character apart in the same places as the encoding puts it together: a
lead byte with the highest bits, then groups of six bits, the lowest last. The reader *awaits* a
value (`Partial.Awaits`) if what it has read are the higher bits of it and the next byte may be the
next group. Every byte of the encoding keeps that up, so at the last one the character is there.

The way back is the same: a byte that the reader takes is the continuation byte of every value that is
awaited after it (`Partial.IsSound.of_more`), and the ranges of the first continuation bytes leave no
value that is not a character. So the reader takes the bytes of texts and no others.

## Main definitions

* `Partial.Awaits` — the values that a begun character may have;
* `Spells` — what the bytes ahead of the reader have to be, in every state of it.

## Main results

* `encode_of_lead` — the parts of an encoding, and what the lead byte begins;
* `decode?_encode` — the bytes of a character are read as the character;
* `bytesNeeded_of_decode?` — the lead byte tells how many bytes are read;
* `text?_eq_some_iff` — the bytes that are read as a text are the bytes of its characters.
-/

namespace FramedShell.Text.Utf8

/-! ### Continuation bytes -/

/-- The bits of a value above its lowest `count` groups of six. -/
def above (value : Nat) : Nat → Nat
  | 0 => value
  | count + 1 => above value count / 64

/-- The group below them is appended to the bits above. -/
theorem above_append (value count : Nat) :
    above value (count + 1) * 64 + above value count % 64 = above value count :=
  Nat.div_add_mod' _ _

/-- The continuation byte for the lowest of the bits above `count` groups. -/
def continuation (value count : Nat) : UInt8 := UInt8.ofNat (above value count % 64 + 128)

/-- The continuation bytes for the lowest `count` groups of a value. -/
def tail (value : Nat) : Nat → List UInt8
  | 0 => []
  | count + 1 => continuation value count :: tail value count

theorem toNat_continuation (value count : Nat) :
    (continuation value count).toNat = above value count % 64 + 128 := by
  have hlt := Nat.mod_lt (above value count) (show 64 > 0 by decide)
  exact UInt8.toNat_ofNat_of_lt (show _ < 256 by omega)

theorem mem_tail {b : UInt8} {value count : Nat} (h : b ∈ tail value count) :
    128 ≤ b.toNat ∧ b.toNat < 192 := by
  induction count with
  | zero => cases h
  | succ count ih =>
    -- six bits are less than 64, and 128 is added to them
    rcases List.mem_cons.1 h with rfl | h
    · rw [toNat_continuation]
      omega
    · exact ih h

/-! ### Reading continuation bytes -/

/-- **The reader awaits a value**: it has read the bits above the missing groups, and the first of
the missing groups makes a byte that it takes. -/
structure Partial.Awaits (p : Partial) (value : Nat) : Prop where
  value_eq : p.value = above value (p.missing + 1)
  low_le : p.low.toNat ≤ above value p.missing % 64 + 128
  le_high : above value p.missing % 64 + 128 ≤ p.high.toNat

namespace Partial.Awaits

variable {p : Partial} {value : Nat}

/-- The byte of the next group is taken. -/
theorem taken (h : p.Awaits value) :
    p.low ≤ continuation value p.missing ∧ continuation value p.missing ≤ p.high := by
  rw [UInt8.le_iff_toNat_le, UInt8.le_iff_toNat_le, toNat_continuation]
  exact ⟨h.low_le, h.le_high⟩

/-- Its bits are appended to those read before. -/
theorem appended (h : p.Awaits value) :
    p.value * 64 + ((continuation value p.missing).toNat - 0x80) = above value p.missing := by
  rw [h.value_eq, toNat_continuation, Nat.add_sub_cancel, above_append]

theorem next_of_last (h : p.Awaits value) (hlast : p.missing = 0) :
    p.next (continuation value 0) = .done (Char.ofNat value) := by
  have htaken := h.taken
  have happended := h.appended
  rw [hlast] at htaken happended
  unfold next
  rw [if_pos htaken, happended, hlast]
  rfl

theorem next_of_more (h : p.Awaits value) {missing : Nat} (hmore : p.missing = missing + 1) :
    p.next (continuation value (missing + 1))
      = .more ⟨above value (missing + 1), missing, 0x80, 0xBF⟩ := by
  have htaken := h.taken
  have happended := h.appended
  rw [hmore] at htaken happended
  unfold next
  rw [if_pos htaken, happended, hmore]

/-- **The missing groups complete the character.** -/
theorem decode? (h : p.Awaits value) {missing : Nat} (hmissing : p.missing = missing) :
    p.decode? (tail value (missing + 1)) = some (Char.ofNat value) := by
  induction missing generalizing p with
  | zero =>
    unfold tail Partial.decode?
    rw [h.next_of_last hmissing]
    rfl
  | succ missing ih =>
    unfold tail Partial.decode?
    rw [h.next_of_more hmissing]
    -- every byte may follow but the first one, whose range was checked with the lead byte
    refine ih ⟨rfl, Nat.le_add_left _ _, ?_⟩ rfl
    change above value missing % 64 + 128 ≤ 191
    omega

end Partial.Awaits

/-! ### How many bytes are read -/

namespace Partial

variable {p : Partial} {b : UInt8}

theorem missing_of_more {q : Partial} (h : p.next b = .more q) : p.missing = q.missing + 1 := by
  unfold next at h
  split at h
  · dsimp only at h
    split at h
    · -- with no byte missing the character would be done
      exact Progress.noConfusion h
    · rename_i hmissing
      have hq := congrArg Partial.missing (Progress.more.inj h)
      exact hmissing.trans (congrArg (· + 1) hq)
  · cases h

theorem missing_of_done {c : Char} (h : p.next b = .done c) : p.missing = 0 := by
  unfold next at h
  split at h
  · dsimp only at h
    split at h
    · rename_i hmissing
      exact hmissing
    · -- with a byte missing there would be more to read
      exact Progress.noConfusion h
  · cases h

/-- As many bytes are read as are missing. -/
theorem length_of_decode? {bytes : List UInt8} {c : Char} (h : p.decode? bytes = some c) :
    bytes.length = p.missing + 1 := by
  induction bytes generalizing p with
  | nil => cases h
  | cons b rest ih =>
    unfold decode? at h
    cases hnext : p.next b with
    -- a refused byte ends the reading without a character
    | broken =>
      rw [hnext] at h
      cases h
    -- the bytes after this one are counted by the induction, from one less that is missing
    | more q =>
      rw [hnext] at h
      rw [missing_of_more hnext, ← ih h]
      rfl
    | done c' =>
      rw [hnext] at h
      -- the character is done, and a byte after it would be refused
      cases rest with
      | nil =>
        rw [missing_of_done hnext]
        rfl
      | cons b' rest => cases h

end Partial

/-! ### Lead bytes -/

theorem lead_two : ∀ n < 32, 2 ≤ n → lead (UInt8.ofNat (n + 192)) = some ⟨n, 0, 0x80, 0xBF⟩ := by
  decide

theorem lead_three : ∀ n < 16, lead (UInt8.ofNat (n + 224))
    = some ⟨n, 1, if n = 0 then 0xA0 else 0x80, if n = 13 then 0x9F else 0xBF⟩ := by
  decide

theorem lead_four : ∀ n < 5, lead (UInt8.ofNat (n + 240))
    = some ⟨n, 2, if n = 0 then 0x90 else 0x80, if n = 4 then 0x8F else 0xBF⟩ := by
  decide

/-! ### The parts of an encoding -/

/-- An encoding has a lead byte and the continuation bytes of the code point. -/
theorem encode_eq (c : Char) : encode c =
    if c.toNat ≤ 127 then [UInt8.ofNat c.toNat]
    else if c.toNat ≤ 2047 then UInt8.ofNat (c.toNat / 64 % 32 + 192) :: tail c.toNat 1
    else if c.toNat ≤ 65535 then UInt8.ofNat (c.toNat / 4096 % 16 + 224) :: tail c.toNat 2
    else UInt8.ofNat (c.toNat / 262144 % 8 + 240) :: tail c.toNat 3 := by
  simp only [tail, continuation, above, Nat.div_div_eq_div_mul, Nat.reduceMul]
  rfl

theorem encode_of_ascii {c : Char} (h : c.toNat < 128) :
    ∃ b : UInt8, encode c = [b] ∧ b.toNat = c.toNat := by
  refine ⟨UInt8.ofNat c.toNat, ?_, UInt8.toNat_ofNat_of_lt (show c.toNat < 256 by omega)⟩
  rw [encode_eq, if_pos (by omega)]

/-- **The lead byte of a character** makes the reader await its code point. -/
theorem encode_of_lead {c : Char} (h : 128 ≤ c.toNat) :
    ∃ b p, encode c = b :: tail c.toNat (p.missing + 1) ∧ lead b = some p ∧ p.Awaits c.toNat := by
  have hvalid : c.toNat < 0xD800 ∨ 0xDFFF < c.toNat ∧ c.toNat < 0x110000 := c.valid
  rw [encode_eq, if_neg (by omega)]
  split
  · -- two bytes: the lead byte has the bits above one group
    have hlead := lead_two (c.toNat / 64 % 32) (by omega) (by omega)
    refine ⟨_, _, rfl, hlead, ?_, ?_, ?_⟩ <;>
      simp only [above, UInt8.reduceToNat] <;> omega
  · split
    · -- the range after the lead byte excludes overlong forms and surrogates
      have hlead := lead_three (c.toNat / 4096 % 16) (by omega)
      refine ⟨_, _, rfl, hlead, ?_, ?_, ?_⟩ <;>
        simp only [above, apply_ite UInt8.toNat, UInt8.reduceToNat]
      · omega
      · split <;> omega
      · split <;> omega
    · -- and here overlong forms and what is beyond the last code point
      have hlead := lead_four (c.toNat / 262144 % 8) (by omega)
      refine ⟨_, _, rfl, hlead, ?_, ?_, ?_⟩ <;>
        simp only [above, apply_ite UInt8.toNat, UInt8.reduceToNat]
      · omega
      · split <;> omega
      · split <;> omega

/-! ### Reading an encoding -/

section

open Keyboard

variable {b : UInt8} {p : Partial}

theorem decode?_cons (b : UInt8) (rest : List UInt8) : decode? (b :: rest)
    = if b < 0x80 then (if rest.isEmpty then some (Char.ofNat b.toNat) else none)
      else (lead b).bind fun p => p.decode? rest :=
  rfl

/-- A lead byte tells how many bytes are missing. -/
theorem bytesNeeded_of_lead (h : lead b = some p) : bytesNeeded b = some (p.missing + 2) := by
  -- there are no more bytes than can be looked at one by one
  have hall : ∀ n < 256, ∀ p ∈ lead (UInt8.ofNat n),
      bytesNeeded (UInt8.ofNat n) = some (p.missing + 2) := by decide +kernel
  have hb := hall b.toNat b.toNat_lt p
  rw [UInt8.ofNat_toNat] at hb
  exact hb h

/-- A lead byte is no character by itself. -/
theorem le_of_lead (h : lead b = some p) : 128 ≤ b.toNat := by
  refine Nat.le_of_not_lt fun hlt => ?_
  have hone : b < 0x80 := UInt8.lt_iff_toNat_lt.2 hlt
  have hneeded := bytesNeeded_of_lead h
  unfold bytesNeeded at hneeded
  rw [if_pos hone] at hneeded
  cases hneeded

theorem decode?_of_lead (h : lead b = some p) (rest : List UInt8) :
    decode? (b :: rest) = p.decode? rest := by
  have hmany : ¬ b < 0x80 := fun hlt =>
    Nat.not_lt.2 (le_of_lead h) (UInt8.lt_iff_toNat_lt.1 hlt)
  rw [decode?_cons, if_neg hmany, h]
  rfl

/-- **The first byte tells how many bytes a character has.** -/
theorem bytesNeeded_of_decode? {rest : List UInt8} {c : Char} (h : decode? (b :: rest) = some c) :
    bytesNeeded b = some (rest.length + 1) := by
  rw [decode?_cons] at h
  split at h
  · -- a byte below 128 is a character by itself
    rename_i hone
    cases rest with
    | nil =>
      unfold bytesNeeded
      rw [if_pos hone]
      rfl
    | cons b' rest => cases h
  · -- every other first byte is a lead byte, or nothing is read
    cases hlead : lead b with
    | none =>
      rw [hlead] at h
      cases h
    | some p =>
      rw [hlead] at h
      rw [bytesNeeded_of_lead hlead, p.length_of_decode? h]

end

/-- **The bytes of a character are read as the character.** -/
theorem decode?_encode (c : Char) : decode? (encode c) = some c := by
  by_cases h : c.toNat < 128
  · -- a code point below 128 is its own byte
    obtain ⟨b, hencode, hb⟩ := encode_of_ascii h
    have hone : b < 0x80 := by
      rw [UInt8.lt_iff_toNat_lt, hb]
      exact h
    rw [hencode, decode?_cons, if_pos hone, hb, Char.ofNat_toNat]
    rfl
  · -- any other code point is awaited after its lead byte
    obtain ⟨b, p, hencode, hlead, hawaits⟩ := encode_of_lead (Nat.le_of_not_lt h)
    rw [hencode, decode?_of_lead hlead, hawaits.decode? rfl, Char.ofNat_toNat]

/-- The bytes of a character are single bytes with its code point, or not below any of these. -/
theorem le_of_mem_encode {c : Char} {x : UInt8} {n : Nat} (hn : n ≤ 128) (hc : n ≤ c.toNat)
    (hx : x ∈ encode c) : n ≤ x.toNat := by
  by_cases h : c.toNat < 128
  · obtain ⟨b, hencode, hb⟩ := encode_of_ascii h
    rw [hencode, List.mem_singleton] at hx
    rw [hx, hb]
    exact hc
  · obtain ⟨b, p, hencode, hlead, -⟩ := encode_of_lead (Nat.le_of_not_lt h)
    rw [hencode] at hx
    -- the lead byte and the continuation bytes are all at least 128
    rcases List.mem_cons.1 hx with rfl | hx
    · exact Nat.le_trans hn (le_of_lead hlead)
    · exact Nat.le_trans hn (mem_tail hx).1

/-! ### Reading a text -/

/-- **The missing groups complete the character**, and the text goes on after it. -/
theorem Partial.Awaits.textFrom? {p : Partial} {value : Nat} (h : p.Awaits value) {missing : Nat}
    (hmissing : p.missing = missing) (rest : List UInt8) :
    textFrom? (some p) (tail value (missing + 1) ++ rest)
      = (textFrom? none rest).map (Char.ofNat value :: ·) := by
  -- the induction is on the missing bytes, as for a single character
  induction missing generalizing p with
  | zero =>
    unfold tail
    rw [List.cons_append, Utf8.textFrom?, h.next_of_last hmissing]
    rfl
  | succ missing ih =>
    unfold tail
    rw [List.cons_append, Utf8.textFrom?, h.next_of_more hmissing]
    refine ih ⟨rfl, Nat.le_add_left _ _, ?_⟩ rfl
    change above value missing % 64 + 128 ≤ 191
    omega

/-- A character at the front is read. -/
theorem textFrom?_encode (c : Char) (rest : List UInt8) :
    textFrom? none (encode c ++ rest) = (textFrom? none rest).map (c :: ·) := by
  by_cases h : c.toNat < 128
  · obtain ⟨b, hencode, hb⟩ := encode_of_ascii h
    have hone : b < 0x80 := by
      rw [UInt8.lt_iff_toNat_lt, hb]
      exact h
    rw [hencode, List.singleton_append, textFrom?, if_pos hone, hb, Char.ofNat_toNat]
  · obtain ⟨b, p, hencode, hlead, hawaits⟩ := encode_of_lead (Nat.le_of_not_lt h)
    have hmany : ¬ b < 0x80 := fun hlt =>
      Nat.not_lt.2 (le_of_lead hlead) (UInt8.lt_iff_toNat_lt.1 hlt)
    rw [hencode, List.cons_append, textFrom?, if_neg hmany, hlead]
    dsimp only
    rw [hawaits.textFrom? rfl, Char.ofNat_toNat]

/-! ### What is read as a text -/

/-- The number of a character is its own. -/
theorem toNat_ofNat_of_valid {n : Nat} (h : n.isValidChar) : (Char.ofNat n).toNat = n := by
  unfold Char.ofNat
  rw [dif_pos h]
  rfl

/-- **A beginning of characters**: it takes continuation bytes only, and every value that it awaits is
the number of a character. -/
structure Partial.IsSound (p : Partial) : Prop where
  low_ge : 128 ≤ p.low.toNat
  high_le : p.high.toNat ≤ 191
  valid : ∀ value, p.Awaits value → value.isValidChar

namespace Partial

variable {p : Partial} {b : UInt8}

/-- A byte that is not refused lies in the range. -/
theorem range_of_next (h : p.next b ≠ .broken) :
    p.low.toNat ≤ b.toNat ∧ b.toNat ≤ p.high.toNat := by
  by_cases hrange : p.low ≤ b ∧ b ≤ p.high
  · exact ⟨UInt8.le_iff_toNat_le.1 hrange.1, UInt8.le_iff_toNat_le.1 hrange.2⟩
  · -- a byte outside of the range is refused
    exact absurd (if_neg hrange) h

/-- A continuation byte appends its six bits. -/
theorem next_value (b : UInt8) : p.next b = .broken ∨
    (p.missing = 0 ∧ p.next b = .done (Char.ofNat (p.value * 64 + (b.toNat - 0x80)))) ∨
    ∃ n, p.missing = n + 1 ∧ p.next b = .more ⟨p.value * 64 + (b.toNat - 0x80), n, 0x80, 0xBF⟩ := by
  unfold next
  split
  · dsimp only
    cases p.missing with
    | zero => exact .inr (.inl ⟨rfl, rfl⟩)
    | succ n => exact .inr (.inr ⟨n, rfl, rfl⟩)
  · exact .inl rfl

/-- A byte of the range is the continuation byte of a value whose bits it completes. -/
theorem IsSound.continuation_eq (hp : p.IsSound) (value count : Nat)
    (hlow : p.low.toNat ≤ b.toNat) (hhigh : b.toNat ≤ p.high.toNat)
    (h : above value count = p.value * 64 + (b.toNat - 0x80)) :
    above value (count + 1) = p.value ∧ above value count % 64 + 128 = b.toNat ∧
      continuation value count = b := by
  have hge := hp.low_ge
  have hle := hp.high_le
  -- the bits of the byte are those below the ones that were read
  have hbits : above value count % 64 + 128 = b.toNat := by omega
  refine ⟨?_, hbits, ?_⟩
  · change above value count / 64 = p.value
    omega
  · apply UInt8.toNat_inj.1
    rw [toNat_continuation, hbits]

/-- **After the last byte** the character is the one that was awaited. -/
theorem IsSound.of_done (hp : p.IsSound) {c : Char} (h : p.next b = .done c) :
    p.Awaits c.toNat ∧ tail c.toNat (p.missing + 1) = [b] := by
  obtain ⟨hlow, hhigh⟩ := range_of_next (p := p) (b := b) (by rw [h]; nofun)
  obtain hbroken | ⟨hmissing, hdone⟩ | ⟨n, -, hmore⟩ := p.next_value b
  · cases h.symm.trans hbroken
  · -- the character has the value that is complete with this byte, and the range makes it a code point
    obtain ⟨hvalue, hbits, hbyte⟩ := hp.continuation_eq
      (p.value * 64 + (b.toNat - 0x80)) 0 hlow hhigh rfl
    have hawaits : p.Awaits (p.value * 64 + (b.toNat - 0x80)) := by
      refine ⟨?_, ?_, ?_⟩ <;> rw [hmissing]
      · exact hvalue.symm
      · rwa [hbits]
      · rwa [hbits]
    have hc : c.toNat = p.value * 64 + (b.toNat - 0x80) := by
      rw [Progress.done.inj (h.symm.trans hdone)]
      exact toNat_ofNat_of_valid (hp.valid _ hawaits)
    rw [hc, hmissing]
    exact ⟨hawaits, congrArg (· :: []) hbyte⟩
  · cases h.symm.trans hmore

/-- **After another byte** the values that are awaited are those that were, and go on with the byte. -/
theorem IsSound.of_more (hp : p.IsSound) {q : Partial} (h : p.next b = .more q) :
    q.IsSound ∧ ∀ value, q.Awaits value →
      p.Awaits value ∧ tail value (p.missing + 1) = b :: tail value (q.missing + 1) := by
  obtain ⟨hlow, hhigh⟩ := range_of_next (p := p) (b := b) (by rw [h]; nofun)
  obtain hbroken | ⟨-, hdone⟩ | ⟨n, hmissing, hmore⟩ := p.next_value b
  · cases h.symm.trans hbroken
  · cases h.symm.trans hdone
  · obtain rfl := Progress.more.inj (h.symm.trans hmore)
    -- what is awaited afterwards was awaited before, and begins with this byte
    have hstep : ∀ value, Awaits ⟨p.value * 64 + (b.toNat - 0x80), n, 0x80, 0xBF⟩ value →
        p.Awaits value ∧ tail value (p.missing + 1) = b :: tail value (n + 1) := by
      intro value hvalue
      obtain ⟨habove, hbits, hbyte⟩ :=
        hp.continuation_eq value (n + 1) hlow hhigh hvalue.value_eq.symm
      rw [hmissing]
      refine ⟨⟨?_, ?_, ?_⟩, congrArg (· :: tail value (n + 1)) hbyte⟩ <;> rw [hmissing]
      · exact habove.symm
      · rwa [hbits]
      · rwa [hbits]
    exact ⟨⟨Nat.le_refl _, Nat.le_refl _, fun value hvalue => hp.valid value (hstep value hvalue).1⟩,
      hstep⟩

end Partial

/-- **A lead byte with its range begins characters**, and those that it awaits are encoded with it. -/
def Begins (b : UInt8) (p : Partial) : Prop :=
  p.IsSound ∧ ∀ c : Char, p.Awaits c.toNat → encode c = b :: tail c.toNat (p.missing + 1)

section

variable {b low high : UInt8} {value : Nat}

theorem ofNat_eq_of_toNat {n : Nat} (h : n = b.toNat) : UInt8.ofNat n = b := by
  rw [h, UInt8.ofNat_toNat]

theorem begins_two (hb : value + 192 = b.toNat) (hge : 2 ≤ value) (hlt : value < 32) :
    Begins b ⟨value, 0, 0x80, 0xBF⟩ := by
  refine ⟨⟨Nat.le_refl _, Nat.le_refl _, ?_⟩, ?_⟩
  · rintro n ⟨hvalue, -, -⟩
    simp only [above] at hvalue
    exact .inl (by omega)
  · rintro c ⟨hvalue, -, -⟩
    simp only [above] at hvalue
    rw [encode_eq, if_neg (by omega), if_pos (by omega), ofNat_eq_of_toNat (b := b) (by omega)]

/-- Of three bytes, the first one after the lead byte excludes overlong forms and surrogates. -/
theorem begins_three (hb : value + 224 = b.toNat) (hlt : value < 16) (hlow : 128 ≤ low.toNat)
    (hhigh : high.toNat ≤ 191) (hoverlong : value = 0 → 160 ≤ low.toNat)
    (hsurrogate : value = 13 → high.toNat ≤ 159) : Begins b ⟨value, 1, low, high⟩ := by
  refine ⟨⟨hlow, hhigh, ?_⟩, ?_⟩
  · rintro n ⟨hvalue, hle, hge⟩
    simp only [above] at hvalue hle hge
    unfold Nat.isValidChar
    omega
  · rintro c ⟨hvalue, hle, hge⟩
    simp only [above] at hvalue hle hge
    rw [encode_eq, if_neg (by omega), if_neg (by omega), if_pos (by omega),
      ofNat_eq_of_toNat (b := b) (by omega)]

/-- Of four bytes, it excludes overlong forms and what is beyond the last code point. -/
theorem begins_four (hb : value + 240 = b.toNat) (hlt : value < 5) (hlow : 128 ≤ low.toNat)
    (hhigh : high.toNat ≤ 191) (hoverlong : value = 0 → 144 ≤ low.toNat)
    (hbeyond : value = 4 → high.toNat ≤ 143) : Begins b ⟨value, 2, low, high⟩ := by
  refine ⟨⟨hlow, hhigh, ?_⟩, ?_⟩
  · rintro n ⟨hvalue, hle, hge⟩
    simp only [above] at hvalue hle hge
    unfold Nat.isValidChar
    omega
  · rintro c ⟨hvalue, hle, hge⟩
    simp only [above] at hvalue hle hge
    rw [encode_eq, if_neg (by omega), if_neg (by omega), if_neg (by omega),
      ofNat_eq_of_toNat (b := b) (by omega)]

end

theorem begins_of_lead {b : UInt8} {p : Partial} (h : lead b = some p) : Begins b p := by
  unfold lead at h
  simp only [UInt8.le_iff_toNat_le, ← UInt8.toNat_inj, UInt8.reduceToNat] at h
  -- the ranges of lead bytes, in the order in which they are tried
  split at h
  · obtain rfl := Option.some.inj h
    exact begins_two (by omega) (by omega) (by omega)
  split at h
  · obtain rfl := Option.some.inj h
    exact begins_three (by omega) (by decide) (by decide) (by decide) (fun _ => by decide) nofun
  split at h
  · obtain rfl := Option.some.inj h
    exact begins_three (by omega) (by decide) (by decide) (by decide) nofun (fun _ => by decide)
  split at h
  · obtain rfl := Option.some.inj h
    exact begins_three (by omega) (by omega) (by decide) (by decide) (by omega) (by omega)
  split at h
  · obtain rfl := Option.some.inj h
    exact begins_four (by omega) (by decide) (by decide) (by decide) (fun _ => by decide) nofun
  split at h
  · obtain rfl := Option.some.inj h
    exact begins_four (by omega) (by omega) (by decide) (by decide) (by omega) (by omega)
  split at h
  · obtain rfl := Option.some.inj h
    exact begins_four (by omega) (by decide) (by decide) (by decide) nofun (fun _ => by decide)
  · cases h

/-- A byte by itself is the character with its number. -/
theorem encode_of_lt {b : UInt8} (h : b < 0x80) : encode (Char.ofNat b.toNat) = [b] := by
  have hlt : b.toNat < 128 := UInt8.lt_iff_toNat_lt.1 h
  have hc : (Char.ofNat b.toNat).toNat = b.toNat :=
    toNat_ofNat_of_valid (.inl (by omega))
  rw [encode_eq, hc, if_pos (by omega), UInt8.ofNat_toNat]

/-- **What the bytes ahead of the reader spell**: the characters of a text, of which the first one may
have been begun. -/
def Spells : Option Partial → List UInt8 → List Char → Prop
  | none, bytes, text => bytes = text.flatMap encode
  | some p, bytes, text => ∃ c rest, text = c :: rest ∧ p.Awaits c.toNat ∧
      bytes = tail c.toNat (p.missing + 1) ++ rest.flatMap encode

theorem spells_of_textFrom? (state : Option Partial) (hstate : ∀ p ∈ state, p.IsSound)
    {bytes : List UInt8} {text : List Char} (h : textFrom? state bytes = some text) :
    Spells state bytes text := by
  -- the state after a byte is sound again, and what the rest spells goes on with the byte
  fun_induction textFrom? state bytes generalizing text with
  | case1 =>
    cases h
    rfl
  | case2 => cases h
  | case3 b rest hone ih =>
    obtain ⟨rest', hrest, rfl⟩ := Option.map_eq_some_iff.1 h
    have hspells : rest = rest'.flatMap encode := ih nofun hrest
    change b :: rest = encode (Char.ofNat b.toNat) ++ rest'.flatMap encode
    rw [encode_of_lt hone, ← hspells]
    rfl
  | case4 b rest hmany p hlead ih =>
    obtain ⟨hsound, hencode⟩ := begins_of_lead hlead
    obtain ⟨c, rest', rfl, hawaits, rfl⟩ := ih (by rintro _ ⟨⟩; exact hsound) h
    change _ = encode c ++ rest'.flatMap encode
    rw [hencode c hawaits]
    rfl
  | case5 => cases h
  | case6 => cases h
  | case7 p b rest q hnext ih =>
    obtain ⟨hsound, hbyte⟩ := (hstate p rfl).of_more hnext
    obtain ⟨c, rest', rfl, hawaits, rfl⟩ := ih (by rintro _ ⟨⟩; exact hsound) h
    obtain ⟨hawaits, htail⟩ := hbyte c.toNat hawaits
    exact ⟨c, rest', rfl, hawaits, by rw [htail]; rfl⟩
  | case8 p b rest c hnext ih =>
    obtain ⟨rest', hrest, rfl⟩ := Option.map_eq_some_iff.1 h
    obtain ⟨hawaits, htail⟩ := (hstate p rfl).of_done hnext
    have hspells : rest = rest'.flatMap encode := ih nofun hrest
    exact ⟨c, rest', rfl, hawaits, by rw [htail, ← hspells]; rfl⟩

/-- **The text that bytes encode** is the one whose characters they are the bytes of. -/
theorem text?_eq_some_iff {bytes : List UInt8} {text : List Char} :
    text? bytes = some text ↔ bytes = text.flatMap encode := by
  constructor
  · intro h
    exact spells_of_textFrom? none nofun h
  · rintro rfl
    unfold text?
    induction text with
    | nil => rfl
    | cons c rest ih =>
      rw [List.flatMap_cons, textFrom?_encode, ih]
      rfl

end FramedShell.Text.Utf8
