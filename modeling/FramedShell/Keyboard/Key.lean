import FramedShell.Text.Utf8

/-!
# Keys and the bytes they send

A key, as the session sees it, is a character, a control byte, or a key with a name. `Key.bytes` is what
it sends to the child.
-/

namespace FramedShell

/-- **Keys with a name.** -/
inductive NamedKey where
  | backspace
  | ctrlC
  | ctrlD
  | arrowUp
  | arrowDown
  | arrowLeft
  | arrowRight
  | home
  | pageEnd
  | pageUp
  | pageDown
  | delete
  /-- The display changed its size; nothing was pressed. -/
  | resize
  /-- A key that sends nothing. -/
  | unknown
deriving DecidableEq, Inhabited

/-- **A key.** -/
inductive Key where
  | printable (c : Char)
  | control (b : UInt8)
  | named (k : NamedKey)
deriving DecidableEq, Inhabited

/-- The bytes of a key with a name. -/
def NamedKey.bytes : NamedKey → List UInt8
  | .backspace => [0x7F]
  | .ctrlC => [0x03]
  | .ctrlD => [0x04]
  | .arrowUp => [0x1B, 0x5B, 0x41]
  | .arrowDown => [0x1B, 0x5B, 0x42]
  | .arrowRight => [0x1B, 0x5B, 0x43]
  | .arrowLeft => [0x1B, 0x5B, 0x44]
  | .home => [0x1B, 0x5B, 0x48]
  | .pageEnd => [0x1B, 0x5B, 0x46]
  | .pageUp => [0x1B, 0x5B, 0x35, 0x7E]
  | .pageDown => [0x1B, 0x5B, 0x36, 0x7E]
  | .delete => [0x1B, 0x5B, 0x33, 0x7E]
  | .resize | .unknown => []

/-- **The bytes that a key sends to the child.** -/
def Key.bytes : Key → List UInt8
  | .printable c => Text.Utf8.encode c
  | .control b => [b]
  | .named k => k.bytes

/-- **A source of keys.** Asking for the next key never waits; a poll that fails takes no key. -/
class KeySource (κ : Type) where
  next : κ → Except String (Option Key) × κ

end FramedShell
