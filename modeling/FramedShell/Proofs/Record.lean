import FramedShell.Proofs.Effect

/-!
# Masters, keys and engines that keep a record

What a run has exchanged with its child, and which keys it has taken, is not part of its state. A
*recorded* master answers like the master in it and keeps every question with its answer; recorded
keys keep every key that was taken. Both are masters and sources of keys like any other, so a loop
on them is a loop of this library, and its history can be read off its state.

An engine does not tell what it was given to read. A *recorded* engine shows what the engine in it
shows, and keeps what it was fed and which sizes it was given.

## Main definitions

* `Exchange` — one question to a master, with the answer;
* `Recorded` — a master with all its exchanges, oldest first;
* `Session.picked` — what one kind of exchanges in the record was about;
* `RecordedKeys` — a source of keys with all keys that were taken;
* `RecordedEngine` — an engine with all that it was fed and all sizes that it was given.
-/

namespace FramedShell

/-- **One exchange with a master**: what was asked, and what was answered. -/
inductive Exchange where
  | resize (size : Size) (answer : Except PtyError Unit)
  | waitReadable (milliseconds : Nat) (answer : Except PtyError Bool)
  | read (answer : Except PtyError ReadOutcome)
  | write (offered : List UInt8) (answer : Except PtyError Nat)
  | tryWait (answer : Except PtyError (Option ChildExit))

/-- **A recorded master.** It answers like the master in it. -/
structure Recorded (π : Type) where
  master : π
  /-- All exchanges, oldest first. -/
  exchanges : List Exchange := []

/-- **Recorded keys.** They are the keys of the source in them. -/
structure RecordedKeys (κ : Type) where
  source : κ
  /-- All keys that were taken, oldest first. -/
  taken : List Key := []

/-- **A recorded engine.** It decodes and shows what the engine in it does. -/
structure RecordedEngine (ε : Type) where
  engine : ε
  /-- All chunks of output that it was fed, oldest first. -/
  fed : List (List UInt8) := []
  /-- All sizes that it was given, oldest first. -/
  resized : List Size := []

namespace Recorded

variable {π : Type}

/-- A question to the master, with an entry in the record. -/
def ask {α : Type} (m : Recorded π) (question : π → α × π) (entry : α → Exchange) :
    α × Recorded π :=
  ((question m.master).1,
    ⟨(question m.master).2, m.exchanges ++ [entry (question m.master).1]⟩)

instance [Master π] : Master (Recorded π) where
  resize size m := m.ask (Master.resize size) (.resize size)
  waitReadable ms m := m.ask (Master.waitReadable ms) (.waitReadable ms)
  read m := m.ask Master.read .read
  write bytes m := m.ask (Master.write bytes) (.write bytes)
  tryWait m := m.ask Master.tryWait .tryWait

/-- An offer of input enters the record, with how many bytes were taken. -/
theorem exchanges_write [Master π] {m m' : Recorded π} {bytes : List UInt8}
    {r : Except PtyError Nat} (h : Master.write bytes m = (r, m')) :
    m'.exchanges = m.exchanges ++ [.write bytes r] := by
  obtain ⟨rfl, rfl⟩ := Prod.mk.inj h
  rfl

end Recorded

/-- The keys that an answer of a source of keys holds. -/
def takenKeys : Except String (Option Key) → List Key
  | .ok (some key) => [key]
  | .ok none => []
  | .error _ => []

instance {κ : Type} [KeySource κ] : KeySource (RecordedKeys κ) where
  next keys :=
    ((KeySource.next keys.source).1,
      ⟨(KeySource.next keys.source).2, keys.taken ++ takenKeys (KeySource.next keys.source).1⟩)

instance {ε : Type} [OutputDecoder ε] : OutputDecoder (RecordedEngine ε) where
  name e := OutputDecoder.name e.engine
  feed bytes e := ⟨OutputDecoder.feed bytes e.engine, e.fed ++ [bytes], e.resized⟩
  resize size e :=
    (⟨(OutputDecoder.resize size e.engine).1, e.fed, e.resized ++ [size]⟩,
      (OutputDecoder.resize size e.engine).2)
  grid e := OutputDecoder.grid e.engine

/-! ### The record after an operation of the session -/

namespace Session

variable {π : Type} [Master π] (s : Session (Recorded π))

/-- The exchanges of a session with its master, oldest first. -/
def exchanges {π : Type} (s : Session (Recorded π)) : List Exchange := s.master.exchanges

@[simp] theorem exchanges_setSize (size : Size) :
    (s.setSize size).state.exchanges = s.exchanges ++ [.resize size (s.setSize size).result] := by
  rw [exchanges, master_setSize, result_setSize]
  rfl

@[simp] theorem exchanges_waitReadable (milliseconds : Nat) :
    (s.waitReadable milliseconds).state.exchanges
      = s.exchanges ++ [.waitReadable milliseconds (s.waitReadable milliseconds).result] := rfl

@[simp] theorem exchanges_read :
    s.read.state.exchanges = s.exchanges ++ [.read s.read.result] := rfl

/-- The master is asked for the exit status as long as it was not seen. -/
theorem exchanges_pollExit_of_none (h : s.exit = none) :
    s.pollExit.state.exchanges = s.exchanges ++ [.tryWait s.pollExit.result] := by
  rw [exchanges, master_pollExit_of_none s h, result_pollExit_of_none s h]
  rfl

/-! ### Picking from the record -/

/-- What the exchanges of one kind were about, oldest first. -/
def picked {π β : Type} (pick : Exchange → Option β) (s : Session (Recorded π)) : List β :=
  s.exchanges.filterMap pick

variable {β : Type} {pick : Exchange → Option β}

omit [Master π] in
/-- One more exchange. -/
theorem picked_of_append {s s' : Session (Recorded π)} {entry : Exchange}
    (h : s'.exchanges = s.exchanges ++ [entry]) :
    s'.picked pick = s.picked pick ++ (pick entry).toList := by
  unfold picked
  rw [h, List.filterMap_append, List.filterMap_cons, List.filterMap_nil]
  cases pick entry <;> rfl

omit [Master π] in
/-- One more exchange, of another kind. -/
theorem picked_of_append_other {s s' : Session (Recorded π)} {entry : Exchange}
    (h : s'.exchanges = s.exchanges ++ [entry]) (hother : pick entry = none) :
    s'.picked pick = s.picked pick := by
  rw [picked_of_append h, hother]
  exact List.append_nil _

/-- Offering input adds nothing but offers of input. -/
theorem picked_flushPending (hother : ∀ offered answer, pick (.write offered answer) = none) :
    s.flushPending.state.picked pick = s.picked pick := by
  -- every round of the loop adds one offer, whatever its answer
  fun_induction flushPending s with
  | case1 => rfl
  | case2 s _ e m hm =>
    exact picked_of_append_other (Recorded.exchanges_write hm) (hother _ _)
  | case3 s _ m hm =>
    exact picked_of_append_other (Recorded.exchanges_write hm) (hother _ _)
  | case4 s _ taken m hm ih =>
    exact ih.trans (picked_of_append_other (Recorded.exchanges_write hm) (hother _ _))

theorem picked_write (hother : ∀ offered answer, pick (.write offered answer) = none)
    (bytes : List UInt8) : (s.write bytes).state.picked pick = s.picked pick := by
  unfold write
  split
  · rfl
  · exact picked_flushPending _ hother

theorem picked_pollExit (hother : ∀ answer, pick (.tryWait answer) = none) :
    s.pollExit.state.picked pick = s.picked pick := by
  cases h : s.exit with
  | some exit =>
    -- the status is known, and the master is not asked
    rw [pollExit_of_some s h]
  | none => exact picked_of_append_other (exchanges_pollExit_of_none s h) (hother _)

end Session

end FramedShell
