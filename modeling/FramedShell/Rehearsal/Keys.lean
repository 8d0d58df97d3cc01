import FramedShell.Keyboard.Decoder

/-!
# Keys for a rehearsal

Two sources of keys: a queue whose polls can be made to fail, and the keys that are typed on a terminal.
-/

namespace FramedShell.Rehearsal

/-- **A queue of keys.** -/
structure KeyQueue where
  keys : List Key := []
  /-- Whether the next poll fails. -/
  refuses : Bool := false
deriving Inhabited

instance : KeySource KeyQueue where
  next q :=
    if q.refuses then (.error "keys refused", { q with refuses := false })
    else
      match q.keys with
      | [] => (.ok none, q)
      | k :: rest => (.ok (some k), { q with keys := rest })

/-- **What is typed on a terminal** and not taken yet. -/
structure Typing where
  events : List TerminalEvent := []
deriving Inhabited

instance : KeySource Typing where
  next t :=
    match t.events with
    | [] => (.ok none, t)
    | e :: rest => (.ok (some e.toKey), { t with events := rest })

/-- Bytes are typed at once. -/
def Typing.type (bytes : List UInt8) (t : Typing) : Typing :=
  { t with events := t.events ++ Keyboard.decode bytes }

end FramedShell.Rehearsal
