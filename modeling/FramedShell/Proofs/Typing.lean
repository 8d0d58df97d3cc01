import FramedShell.Proofs.Encoding
import FramedShell.Rehearsal.Keys

/-!
# Typed text and the bytes that its keys send

What is typed takes three steps before it reaches the child: the bytes are decoded to events, the
events are reduced to keys, and the keys send bytes. Text without escape bytes comes out as it went
in, but for the information separators `0x1C` to `0x1F`: they are decoded as digits with control,
and such a key sends nothing (`typed_text_arrives`).

## Main definitions

* `KeySource.Yields` — the keys of a source, up to the first poll without one;
* `Keyboard.isSeparator` — the bytes whose keys send nothing.
-/

namespace FramedShell

open Text

/-! ### The keys of a source -/

/-- **The keys that a source yields** until it has none. -/
inductive KeySource.Yields {κ : Type} [KeySource κ] : κ → List Key → Prop where
  /-- There is no key. -/
  | done {source : κ} (h : (KeySource.next source).1 = .ok none) : Yields source []
  /-- A key is taken, and others follow. -/
  | taken {source : κ} {key : Key} {keys : List Key}
      (h : (KeySource.next source).1 = .ok (some key))
      (hrest : Yields (KeySource.next source).2 keys) : Yields source (key :: keys)

namespace Rehearsal

/-- What is typed yields the keys of its events. -/
theorem Typing.yields (t : Typing) : KeySource.Yields t (t.events.map TerminalEvent.toKey) := by
  -- each event is one key, and the induction is on the events that are left
  obtain ⟨events⟩ := t
  induction events with
  | nil => exact .done rfl
  | cons e rest ih => exact .taken rfl ih

end Rehearsal

/-! ### Reading a character -/

namespace Keyboard

theorem read_of_ne_escape {b : UInt8} (h : b ≠ 0x1B) (more : Bool) (rest : List UInt8) :
    read more (b :: rest) = readPlain b (b :: rest) := by
  unfold read
  rw [if_neg h]

/-- A byte that is no control byte is read as a character. -/
theorem read_of_plain {b : UInt8} (hlow : 0x20 ≤ b.toNat) (hdelete : b.toNat ≠ 0x7F) (more : Bool)
    (rest : List UInt8) : read more (b :: rest) = readCharacter (b :: rest) := by
  -- the bytes that are tried before all lie below 32, or are the one for deleting
  have hne (k : UInt8) (hk : k.toNat < 0x20 ∨ k.toNat = 0x7F) : b ≠ k := by
    rintro rfl
    omega
  have hle (k : UInt8) (hk : k.toNat < 0x20) : ¬ b ≤ k := by
    rw [UInt8.le_iff_toNat_le]
    omega
  rw [read_of_ne_escape (hne 0x1B (by decide))]
  unfold readPlain
  rw [if_neg (hne 0x0D (by decide)), if_neg (hne 0x09 (by decide)), if_neg (hne 0x7F (by decide)),
    if_neg (hne 0x00 (by decide)), if_neg (hle 0x1A (by decide)),
    if_neg fun h => hle 0x1F (by decide) h.2]

/-- The bytes of a character that is complete are read as typing it. -/
theorem readCharacter_of_decode? {bytes : List UInt8} {c : Char}
    (h : Utf8.decode? bytes = some c) : readCharacter bytes = typed c := by
  unfold readCharacter
  rw [h]

/-- As long as bytes of a character are missing, it is incomplete. -/
theorem readCharacter_of_missing {b : UInt8} {rest : List UInt8} {needed : Nat}
    (hneeded : bytesNeeded b = some needed) (hmissing : rest.length + 1 < needed)
    (hrest : ∀ x ∈ rest, 128 ≤ x.toNat ∧ x.toNat < 192) :
    readCharacter (b :: rest) = .incomplete := by
  have hnone : Utf8.decode? (b :: rest) = none := by
    cases h : Utf8.decode? (b :: rest) with
    | none => rfl
    | some c =>
      -- the first byte would ask for fewer bytes
      have hfewer := Utf8.bytesNeeded_of_decode? h
      rw [hneeded] at hfewer
      have hlength := Option.some.inj hfewer
      omega
  -- all bytes after the first one are continuation bytes
  have hall : rest.all (fun b => 0x80 ≤ b && b < 0xC0) = true := by
    rw [List.all_eq_true]
    intro x hx
    simp only [Bool.and_eq_true, decide_eq_true_eq, UInt8.le_iff_toNat_le, UInt8.lt_iff_toNat_lt]
    exact hrest x hx
  unfold readCharacter
  rw [hnone]
  dsimp only
  rw [hneeded]
  dsimp only
  rw [hall, List.length_cons, decide_eq_true hmissing]
  rfl

/-- The event of typing a character. -/
def typedEvent (c : Char) : TerminalEvent :=
  .key (.char c) { shift := inRanges uppercaseRanges c } .press

/-- The remaining bytes of a character complete it. -/
theorem decodeFrom_of_missing {b : UInt8} {c : Char} {taken left : List UInt8}
    (hb : 0x80 ≤ b.toNat) (hleft : left ≠ [])
    (hc : Utf8.decode? (b :: (taken ++ left)) = some c)
    (hrest : ∀ x ∈ taken ++ left, 128 ≤ x.toNat ∧ x.toNat < 192) (more : List UInt8) :
    decodeFrom (b :: taken) (left ++ more) = typedEvent c :: decodeFrom [] more := by
  have hread (waits : Bool) (bytes : List UInt8) := read_of_plain (b := b) (by omega) (by omega)
    waits bytes
  -- byte by byte; what was taken grows by what is read
  induction left generalizing taken with
  | nil => exact absurd rfl hleft
  | cons x left ih =>
    rw [List.append_cons] at hc hrest
    rw [List.cons_append, decodeFrom, List.cons_append, hread]
    cases left with
    -- the last byte completes the character
    | nil =>
      rw [List.append_nil] at hc
      rw [readCharacter_of_decode? hc]
      rfl
    -- more bytes are missing, and the character stays incomplete with this one
    | cons y left =>
      have hneeded := Utf8.bytesNeeded_of_decode? hc
      have htaken : ∀ z ∈ taken ++ [x], 128 ≤ z.toNat ∧ z.toNat < 192 :=
        fun z hz => hrest z (List.mem_append_left _ hz)
      rw [readCharacter_of_missing hneeded (by simp) htaken]
      exact ih (List.cons_ne_nil _ _) hc hrest

/-! ### The bytes of the keys -/

/-- **An information separator.** The key that it is decoded as sends nothing. -/
def isSeparator (b : UInt8) : Bool := 0x1C ≤ b && b ≤ 0x1F

/-- Bytes with high values are no separators. -/
theorem isSeparator_of_plain {b : UInt8} (h : 0x20 ≤ b.toNat) : isSeparator b = false := by
  have hle : ¬ b ≤ 0x1F := by
    rw [UInt8.le_iff_toNat_le]
    change ¬ b.toNat ≤ 31
    omega
  unfold isSeparator
  rw [decide_eq_false hle, Bool.and_false]

/-- The key of typing a character that is no control character sends the character. -/
theorem bytes_typedEvent {c : Char} (hlow : 0x20 ≤ c.toNat) (hdelete : c.toNat ≠ 0x7F) :
    (typedEvent c).toKey.bytes = Utf8.encode c := by
  -- above the control characters only the one for deleting has a key of its own
  have hkey : (typedEvent c).toKey = TerminalEvent.plainKey c := rfl
  rw [hkey, TerminalEvent.plainKey, if_neg hdelete, if_neg (by omega)]
  rfl

/-- **The event of a character**: it is read from the bytes of the character, whatever follows, and
its key sends these bytes but for separators. -/
structure IsEventOf (e : TerminalEvent) (c : Char) : Prop where
  decodes : ∀ more, decodeFrom [] (Utf8.encode c ++ more) = e :: decodeFrom [] more
  bytes_eq : e.toKey.bytes = (Utf8.encode c).filter (!isSeparator ·)

/-- The event in a reading. -/
def Reading.event? : Reading → Option TerminalEvent
  | .event e => some e
  | .incomplete => none
  | .invalid => none

/-- A control character has an event. -/
theorem exists_event_of_control {c : Char} (hcontrol : c.toNat < 0x20 ∨ c.toNat = 0x7F)
    (hescape : c.toNat ≠ 0x1B) : ∃ e, IsEventOf e c := by
  -- there are few control characters, so that they can be looked at one by one
  have hall : ∀ n < 0x80, (n < 0x20 ∨ n = 0x7F) → n ≠ 0x1B →
      ((readPlain (UInt8.ofNat n) [UInt8.ofNat n]).event?.map fun e => e.toKey.bytes)
        = some ([UInt8.ofNat n].filter (!isSeparator ·)) := by decide
  obtain ⟨b, hencode, hb⟩ := Utf8.encode_of_ascii (c := c) (by omega)
  rw [← hb] at hcontrol hescape
  have hbyte := hall b.toNat (by omega) hcontrol hescape
  rw [UInt8.ofNat_toNat] at hbyte
  have hne : b ≠ 0x1B := fun h => hescape (congrArg UInt8.toNat h)
  cases hread : readPlain b [b] with
  -- neither an incomplete nor an invalid reading has an event
  | incomplete =>
    rw [hread] at hbyte
    cases hbyte
  | invalid =>
    rw [hread] at hbyte
    cases hbyte
  | event e =>
    rw [hread] at hbyte
    refine ⟨e, fun more => ?_, hencode ▸ Option.some.inj hbyte⟩
    rw [hencode, List.singleton_append, decodeFrom, List.nil_append, read_of_ne_escape hne, hread]

/-- Any other character has the event of typing it. -/
theorem isEventOf_typedEvent {c : Char} (hlow : 0x20 ≤ c.toNat) (hdelete : c.toNat ≠ 0x7F) :
    IsEventOf (typedEvent c) c := by
  have hdecode := Utf8.decode?_encode c
  constructor
  · intro more
    -- a character of one byte is read at once
    by_cases hascii : c.toNat < 128
    · obtain ⟨b, hencode, hb⟩ := Utf8.encode_of_ascii hascii
      rw [← hb] at hlow hdelete
      rw [hencode] at hdecode ⊢
      rw [List.singleton_append, decodeFrom, List.nil_append, read_of_plain hlow hdelete,
        readCharacter_of_decode? hdecode]
      rfl
    · obtain ⟨b, p, hencode, hlead, -⟩ := Utf8.encode_of_lead (Nat.le_of_not_lt hascii)
      have hb := Utf8.le_of_lead hlead
      rw [hencode] at hdecode ⊢
      have hneeded := Utf8.bytesNeeded_of_lead hlead
      have htail : ∀ x ∈ Utf8.tail c.toNat (p.missing + 1), 128 ≤ x.toNat ∧ x.toNat < 192 :=
        fun x hx => Utf8.mem_tail hx
      -- the lead byte is not the character yet
      rw [List.cons_append, decodeFrom, List.nil_append, read_of_plain (by omega) (by omega),
        readCharacter_of_missing hneeded (by simp) (by simp)]
      exact decodeFrom_of_missing hb (List.cons_ne_nil _ _) hdecode htail more
  · -- no byte of the character is as low as a separator
    rw [bytes_typedEvent hlow hdelete, eq_comm, List.filter_eq_self]
    intro x hx
    rw [isSeparator_of_plain (Utf8.le_of_mem_encode (by decide) hlow hx)]
    rfl

/-- **Every character but the escape character has an event.** -/
theorem exists_event {c : Char} (hescape : c.toNat ≠ 0x1B) : ∃ e, IsEventOf e c := by
  by_cases hcontrol : c.toNat < 0x20 ∨ c.toNat = 0x7F
  · exact exists_event_of_control hcontrol hescape
  · rw [not_or] at hcontrol
    exact ⟨_, isEventOf_typedEvent (Nat.le_of_not_lt hcontrol.1) hcontrol.2⟩

/-! ### The bytes of a text -/

/-- The escape character is an escape byte. -/
theorem ne_escape_of_mem {text : List Char} (h : 0x1B ∉ text.flatMap Utf8.encode) {c : Char}
    (hc : c ∈ text) : c.toNat ≠ 0x1B := by
  intro heq
  obtain ⟨b, hencode, hb⟩ := Utf8.encode_of_ascii (c := c) (by omega)
  refine h (List.mem_flatMap.2 ⟨c, hc, ?_⟩)
  rw [hencode, List.mem_singleton, ← UInt8.toNat_inj, hb, heq]
  rfl

/-- **The keys of a text send its bytes** but for separators. -/
theorem bytes_decode {text : List Char} (h : ∀ c ∈ text, c.toNat ≠ 0x1B) :
    (decode (text.flatMap Utf8.encode)).flatMap (fun e => e.toKey.bytes)
      = (text.flatMap Utf8.encode).filter (!isSeparator ·) := by
  -- the events of the text are those of its characters, one after the other
  induction text with
  | nil => rfl
  | cons c text ih =>
    obtain ⟨e, he⟩ := exists_event (h c List.mem_cons_self)
    rw [decode, List.flatMap_cons, he.decodes, List.flatMap_cons, he.bytes_eq, List.filter_append]
    exact congrArg _ (ih fun x hx => h x (List.mem_cons_of_mem _ hx))

end Keyboard

open Keyboard Rehearsal

/-- **Typed text arrives** but for its separators, and so it arrives unchanged if and only if it has
none. -/
theorem typed_text_arrives (text : List Char) (h : 0x1B ∉ text.flatMap Utf8.encode) :
    ∃ keys, KeySource.Yields (Typing.type (text.flatMap Utf8.encode) {}) keys ∧
      keys.flatMap Key.bytes = (text.flatMap Utf8.encode).filter (!isSeparator ·) ∧
      (keys.flatMap Key.bytes = text.flatMap Utf8.encode ↔
        ∀ b ∈ text.flatMap Utf8.encode, isSeparator b = false) := by
  have hyields : KeySource.Yields (Typing.type (text.flatMap Utf8.encode) {})
      ((decode (text.flatMap Utf8.encode)).map TerminalEvent.toKey) := Typing.yields _
  have hbytes := bytes_decode fun c hc => ne_escape_of_mem h hc
  rw [← List.flatMap_map] at hbytes
  refine ⟨_, hyields, hbytes, ?_⟩
  rw [hbytes, List.filter_eq_self]
  simp only [Bool.not_eq_true']

/-- Text with a tab, a control key and characters of several bytes arrives. -/
theorem typed_text_arrives_mixed : 0x1B ∉ ['a', '\t', '\x03', 'é', '日'].flatMap Utf8.encode ∧
    ∃ keys,
      KeySource.Yields (Typing.type (['a', '\t', '\x03', 'é', '日'].flatMap Utf8.encode) {}) keys ∧
      keys.flatMap Key.bytes
        = (['a', '\t', '\x03', 'é', '日'].flatMap Utf8.encode).filter (!isSeparator ·) ∧
      (keys.flatMap Key.bytes = ['a', '\t', '\x03', 'é', '日'].flatMap Utf8.encode ↔
        ∀ b ∈ ['a', '\t', '\x03', 'é', '日'].flatMap Utf8.encode, isSeparator b = false) :=
  ⟨by decide, typed_text_arrives _ (by decide)⟩

/-- **Not all typed text arrives**: the file separator does not. -/
theorem typed_separator_lost :
    ¬ ∀ (text : List Char) (keys : List Key), 0x1B ∉ text.flatMap Utf8.encode →
      KeySource.Yields (Typing.type (text.flatMap Utf8.encode) {}) keys →
      keys.flatMap Key.bytes = text.flatMap Utf8.encode := by
  intro h
  have hlost := h ['\x1c'] _ (by decide) (Typing.yields _)
  revert hlost
  decide

end FramedShell
