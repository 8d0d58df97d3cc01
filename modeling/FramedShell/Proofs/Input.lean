import FramedShell.Proofs.Status

/-!
# Typed input is accounted for

Every byte that the taken keys send is accepted by the master, or pending, or was lost in one of two
ways: a write that failed, or the end of the child. The *ledger* of a record tells which bytes those
are. It is read off the exchanges alone: an offer that was answered accepts a beginning of what was
offered and leaves the rest waiting, a failed one loses all that was offered, and with the exit
status is lost what was waiting.

`input_conserved` says that accepted, lost and pending bytes, in the order of the record, are the
bytes of the taken keys, in the order of taking. So none is doubled and none overtakes another, and
what is missing among the accepted ones are the lost blocks.

## Main definitions

* `Ledger` — the account of a record, `Ledger.of`;
* `Session.Settles` — the session's pending input is what the ledger has waiting;
* `InputConserved` — what holds of a loop at all times.
-/

namespace FramedShell

/-- The bytes that the master accepts in an exchange. -/
def Exchange.accepted : Exchange → List UInt8
  | .write offered (.ok taken) => offered.take taken
  | .write _ (.error _) => []
  | .resize _ _ => []
  | .waitReadable _ _ => []
  | .read _ => []
  | .tryWait _ => []

/-- **An exchange loses input**: a write that fails, and the answer that the child has ended. -/
def Exchange.Loses : Exchange → Prop
  | .write _ answer => ∃ e, answer = .error e
  | .tryWait answer => ∃ exit, answer = .ok (some exit)
  | .resize _ _ => False
  | .waitReadable _ _ => False
  | .read _ => False

/-- **A stretch of input that ended with a loss**: the bytes accepted in it, then the block lost. -/
structure Stretch where
  accepted : List UInt8
  lost : List UInt8

/-- **The ledger of a record.** -/
structure Ledger where
  /-- The stretches that ended with a loss, oldest first. -/
  closed : List Stretch := []
  /-- What was accepted after the last loss. -/
  accepted : List UInt8 := []
  /-- What was offered last and not accepted. -/
  waiting : List UInt8 := []

namespace Ledger

/-- The ledger after a block was lost. -/
def lose (l : Ledger) (block : List UInt8) : Ledger := ⟨l.closed ++ [⟨l.accepted, block⟩], [], []⟩

/-- **The ledger after one more exchange.** -/
def enter (l : Ledger) : Exchange → Ledger
  | .write offered (.ok taken) => ⟨l.closed, l.accepted ++ offered.take taken, offered.drop taken⟩
  | .write offered (.error _) => l.lose offered
  | .tryWait (.ok (some _)) => l.lose l.waiting
  | .tryWait (.ok none) => l
  | .tryWait (.error _) => l
  | .resize _ _ => l
  | .waitReadable _ _ => l
  | .read _ => l

/-- The ledger of a record. -/
def of (exchanges : List Exchange) : Ledger := exchanges.foldl enter {}

example (e : PtyError) : of [.write [1, 2, 3] (.ok 2), .write [3] (.error e), .write [4, 5] (.ok 1)]
    = ⟨[⟨[1, 2], [3]⟩], [4], [5]⟩ := rfl

/-- All bytes that were accepted. -/
def allAccepted (l : Ledger) : List UInt8 := l.closed.flatMap Stretch.accepted ++ l.accepted

/-- All bytes that were accepted or lost, in order. -/
def settled (l : Ledger) : List UInt8 :=
  l.closed.flatMap (fun stretch => stretch.accepted ++ stretch.lost) ++ l.accepted

@[simp] theorem of_append (exchanges : List Exchange) (x : Exchange) :
    of (exchanges ++ [x]) = (of exchanges).enter x := by
  simp only [of, List.foldl_append, List.foldl_cons, List.foldl_nil]

@[simp] theorem allAccepted_lose (l : Ledger) (block : List UInt8) :
    (l.lose block).allAccepted = l.allAccepted := by
  simp only [allAccepted, lose, List.flatMap_append, List.flatMap_cons, List.flatMap_nil,
    List.append_nil]

@[simp] theorem settled_lose (l : Ledger) (block : List UInt8) :
    (l.lose block).settled = l.settled ++ block := by
  simp only [settled, lose, List.flatMap_append, List.flatMap_cons, List.flatMap_nil,
    List.append_nil, List.append_assoc]

theorem settled_enter_write (l : Ledger) (offered : List UInt8) (taken : Nat) :
    (l.enter (.write offered (.ok taken))).settled = l.settled ++ offered.take taken :=
  (List.append_assoc _ _ _).symm

/-- The ledger accepts what the exchange does. -/
theorem allAccepted_enter (l : Ledger) (x : Exchange) :
    (l.enter x).allAccepted = l.allAccepted ++ x.accepted := by
  unfold enter
  split
  · exact (List.append_assoc _ _ _).symm
  -- nothing else is accepted, and closing a stretch keeps what was
  all_goals simp only [allAccepted_lose, Exchange.accepted, List.append_nil]

/-- **The ledger accepts the bytes that the record accepts.** -/
theorem allAccepted_of (exchanges : List Exchange) :
    (of exchanges).allAccepted = exchanges.flatMap Exchange.accepted := by
  induction exchanges using List.reverseRecOn with
  | nil => rfl
  | append_singleton older x ih =>
    rw [of_append, allAccepted_enter, ih, List.flatMap_append, List.flatMap_singleton]

/-- A stretch is closed by a loss only. -/
theorem closed_of {exchanges : List Exchange} (h : ∀ x ∈ exchanges, ¬ x.Loses) :
    (of exchanges).closed = [] := by
  induction exchanges using List.reverseRecOn with
  | nil => rfl
  | append_singleton older x ih =>
    have holder := ih fun y hy => h y (List.mem_append_left _ hy)
    have hx := h x (List.mem_append_right _ (List.mem_singleton_self x))
    rw [of_append]
    unfold enter
    split
    · exact holder
    -- a failed write and a status are losses
    · exact absurd ⟨_, rfl⟩ hx
    · exact absurd ⟨_, rfl⟩ hx
    all_goals exact holder

end Ledger

/-! ### The account of a session -/

namespace Session

variable {π : Type}

/-- The ledger of the exchanges of a session. -/
def ledger (s : Session (Recorded π)) : Ledger := .of s.exchanges

/-- **The session accounts for typed bytes**: they are settled in the ledger or pending, and what is
pending is what the ledger has waiting. -/
structure Accounts (typed : List UInt8) (s : Session (Recorded π)) : Prop where
  typed_eq : typed = s.ledger.settled ++ s.pending
  waiting_eq : s.ledger.waiting = s.pending

variable {s s' : Session (Recorded π)} {typed : List UInt8}

theorem ledger_of_append {x : Exchange} (h : s'.exchanges = s.exchanges ++ [x]) :
    s'.ledger = s.ledger.enter x := by
  unfold ledger
  rw [h, Ledger.of_append]

/-- The session after an exchange that is not about input. -/
theorem Accounts.of_same (h : s.Accounts typed) (hledger : s'.ledger = s.ledger)
    (hpending : s'.pending = s.pending) : s'.Accounts typed := by
  refine ⟨?_, ?_⟩
  · rw [hledger, hpending]
    exact h.typed_eq
  · rw [hledger, hpending]
    exact h.waiting_eq

variable [Master π]

/-- The ledger after an offer of the pending input. -/
theorem ledger_offer {s : Session (Recorded π)} {m : Recorded π} {answer : Except PtyError Nat}
    (h : Master.write s.pending s.master = (answer, m)) (rest : List UInt8) :
    ledger { s with master := m, pending := rest } = s.ledger.enter (.write s.pending answer) := by
  change Ledger.of m.exchanges = _
  rw [Recorded.exchanges_write h, Ledger.of_append]
  rfl

/-- **Offering the pending input** settles what is accepted, and what a failure loses. The bytes of
a key that were not offered yet may be pending already, so nothing is asked of the waiting bytes but
that there are none if nothing is pending. -/
theorem accounts_flushPending (htyped : typed = s.ledger.settled ++ s.pending)
    (hwaiting : s.pending = [] → s.ledger.waiting = []) :
    s.flushPending.state.Accounts typed := by
  -- the rounds of the loop, each with an offer of all that is pending
  fun_induction flushPending s with
  | case1 s hnil => exact ⟨htyped, (hwaiting hnil).trans hnil.symm⟩
  | case2 s _ e m hm =>
    -- the write fails: the whole offer is lost, and nothing stays pending
    have hl : ledger { s with master := m, pending := [] } = s.ledger.lose s.pending :=
      ledger_offer hm []
    refine ⟨?_, congrArg Ledger.waiting hl⟩
    rw [hl, Ledger.settled_lose]
    calc typed = s.ledger.settled ++ s.pending := htyped
      _ = s.ledger.settled ++ s.pending ++ [] := (List.append_nil _).symm
  | case3 s _ m hm =>
    -- the write would block: the whole offer stays pending
    have hl := ledger_offer hm s.pending
    refine ⟨?_, congrArg Ledger.waiting hl⟩
    rw [hl, Ledger.settled_enter_write]
    calc typed = s.ledger.settled ++ s.pending := htyped
      _ = (s.ledger.settled ++ s.pending.take 0) ++ s.pending := by
        rw [List.take_zero, List.append_nil]
  | case4 s _ taken m hm ih =>
    -- a beginning of the offer is accepted, and the rest is offered again
    have hl := ledger_offer hm (s.pending.drop (taken + 1))
    refine ih ?_ ?_
    · rw [hl, Ledger.settled_enter_write]
      calc typed = s.ledger.settled ++ s.pending := htyped
        _ = s.ledger.settled ++ s.pending.take (taken + 1) ++ s.pending.drop (taken + 1) := by
          rw [List.append_assoc, List.take_append_drop]
    · intro hnil
      rw [hl]
      exact hnil

theorem Accounts.flushPending (h : s.Accounts typed) : s.flushPending.state.Accounts typed := by
  refine accounts_flushPending h.typed_eq ?_
  intro hnil
  rw [h.waiting_eq, hnil]

/-- **Sending input** adds it to the typed bytes. -/
theorem Accounts.write (h : s.Accounts typed) (bytes : List UInt8) :
    (s.write bytes).state.Accounts (typed ++ bytes) := by
  unfold Session.write
  split
  · rename_i hnil
    rw [hnil, List.append_nil]
    exact h
  · rename_i hne
    -- the bytes of the key are pending before they were ever offered
    refine accounts_flushPending ?_ ?_
    · calc typed ++ bytes = s.ledger.settled ++ s.pending ++ bytes := by rw [h.typed_eq]
        _ = s.ledger.settled ++ (s.pending ++ bytes) := List.append_assoc _ _ _
    · intro hnil
      exact absurd (List.append_eq_nil_iff.1 hnil).2 hne

/-- **Checking for the exit** loses what is pending when the status is given. -/
theorem Accounts.pollExit (h : s.Accounts typed) : s.pollExit.state.Accounts typed := by
  cases hexit : s.exit with
  | some exit =>
    -- the status is known: nothing is exchanged and nothing dropped
    rw [pollExit_of_some s hexit]
    exact h
  | none =>
    have hl : s.pollExit.state.ledger = s.ledger.enter (.tryWait s.pollExit.result) :=
      ledger_of_append (exchanges_pollExit_of_none s hexit)
    have hpending := pending_pollExit_of_none s hexit
    cases hr : s.pollExit.result with
    | error e =>
      rw [hr] at hl hpending
      exact h.of_same hl hpending
    | ok status =>
      cases status with
      | none =>
        rw [hr] at hl hpending
        exact h.of_same hl hpending
      | some exit =>
        -- what was pending is what the ledger has waiting, and is lost with the status
        rw [hr] at hl hpending
        refine ⟨?_, ?_⟩
        · rw [hl, hpending, List.append_nil]
          change typed = (s.ledger.lose s.ledger.waiting).settled
          rw [Ledger.settled_lose, h.waiting_eq]
          exact h.typed_eq
        · rw [hl, hpending]
          rfl

theorem Accounts.setSize (h : s.Accounts typed) (size : Size) :
    (s.setSize size).state.Accounts typed :=
  h.of_same (ledger_of_append (exchanges_setSize s size)) (pending_setSize s size)

theorem Accounts.waitReadable (h : s.Accounts typed) (milliseconds : Nat) :
    (s.waitReadable milliseconds).state.Accounts typed :=
  h.of_same (ledger_of_append (exchanges_waitReadable s milliseconds))
    (pending_waitReadable s milliseconds)

theorem Accounts.read (h : s.Accounts typed) : s.read.state.Accounts typed :=
  h.of_same (ledger_of_append (exchanges_read s)) (pending_read s)

end Session

/-! ### Along a run -/

section

variable {κ : Type}

/-- The bytes that the taken keys send. -/
def RecordedKeys.typed (keys : RecordedKeys κ) : List UInt8 := keys.taken.flatMap Key.bytes

variable [KeySource κ] {keys : RecordedKeys κ}

theorem RecordedKeys.typed_of_idle (h : ∀ key, (KeySource.next keys).1 ≠ .ok (some key)) :
    (KeySource.next keys).2.typed = keys.typed := by
  have hnone : takenKeys (KeySource.next keys).1 = [] := by
    unfold takenKeys
    split
    · rename_i key hkey
      exact absurd hkey (h key)
    · rfl
    · rfl
  change (keys.taken ++ takenKeys (KeySource.next keys).1).flatMap Key.bytes = _
  rw [hnone, List.append_nil]
  rfl

theorem RecordedKeys.typed_of_taken {key : Key} (h : (KeySource.next keys).1 = .ok (some key)) :
    (KeySource.next keys).2.typed = keys.typed ++ key.bytes := by
  change (keys.taken ++ takenKeys (KeySource.next keys).1).flatMap Key.bytes = _
  rw [h, List.flatMap_append]
  exact congrArg (keys.typed ++ ·) (List.append_nil _)

end

variable {δ ε κ π : Type} [OutputDecoder ε] [KeySource κ] [Master π]

/-- **Every effect keeps the account.** -/
theorem Live.Effect.accounts {live live' : Live δ ε (RecordedKeys κ) (Recorded π)}
    (he : Live.Effect live live') (h : live.session.Accounts live.stage.keys.typed) :
    live'.session.Accounts live'.stage.keys.typed := by
  cases he with
  | noted => exact h
  | displayed => exact h
  | relayed size =>
    -- the relay has no part in the input, but may ask for a window size
    change (Live.relayed size live).session.Accounts live.stage.keys.typed
    obtain hs | ⟨window, hs⟩ := Live.session_relayed size live <;> rw [hs]
    · exact h
    · exact h.setSize window
  | idled hnone =>
    dsimp only
    rw [RecordedKeys.typed_of_idle hnone]
    exact h
  | typed key hkey =>
    -- the one effect that adds typed bytes sends them
    dsimp only
    rw [RecordedKeys.typed_of_taken hkey]
    exact h.write key.bytes
  | flushed => exact h.flushPending
  | awaited ms => exact h.waitReadable ms
  | unheard => exact h.read
  | heard => exact h.read
  | watched => exact h.pollExit

namespace Outset

theorem accounts_invariant (o : Outset δ ε κ π) :
    o.Invariant fun live => live.session.Accounts live.stage.keys.typed where
  opened display size master notices := by
    -- no key was taken and no input exchanged when the window gets its first size
    have hnew : (Session.mk ⟨master, []⟩ (Loop.firstWindow o.measures size) none []
        : Session (Recorded π)).Accounts [] := ⟨rfl, rfl⟩
    exact Live.Effect.accounts (.relayed (o.firstParts display size master notices) size)
      (hnew.setSize _)
  effect _ _ he h := he.accounts h
  world _ _ _ _ _ h := ⟨h.typed_eq, h.waiting_eq⟩

end Outset

/-- **Typed input is conserved.** In the order of typing, the bytes of the taken keys are the
accepted ones, the blocks that were lost, and the pending ones. -/
structure InputConserved (loop : Loop δ ε (RecordedKeys κ) (Recorded π)) : Prop where
  /-- What is pending is what the ledger has waiting, so that what it loses was pending. -/
  pending_eq : loop.pending = (Ledger.of loop.exchanges).waiting
  /-- The accepted bytes, stretch by stretch. -/
  accepted_eq : loop.exchanges.flatMap Exchange.accepted
    = (Ledger.of loop.exchanges).closed.flatMap Stretch.accepted
      ++ (Ledger.of loop.exchanges).accepted
  /-- The typed bytes are the same with the lost block at the end of each closed stretch. -/
  typed_eq : loop.stage.keys.taken.flatMap Key.bytes
    = (Ledger.of loop.exchanges).closed.flatMap (fun stretch => stretch.accepted ++ stretch.lost)
      ++ (Ledger.of loop.exchanges).accepted ++ loop.pending
  /-- The exit status is seen at most once, so its loss is that of its first observation. -/
  statuses_le : (loop.exchanges.filterMap Exchange.status?).length ≤ 1
  /-- As long as nothing is lost, the accepted and the pending bytes are the typed ones. -/
  lossless : (∀ x ∈ loop.exchanges, ¬ x.Loses) →
    loop.exchanges.flatMap Exchange.accepted ++ loop.pending
      = loop.stage.keys.taken.flatMap Key.bytes

namespace Session

variable {keys : RecordedKeys κ} {s : Session (Recorded π)}

omit [KeySource κ] [Master π] in
/-- Without losses everything is accepted or pending. -/
theorem Accounts.lossless {typed : List UInt8} (h : s.Accounts typed)
    (hnone : ∀ x ∈ s.exchanges, ¬ x.Loses) :
    s.exchanges.flatMap Exchange.accepted ++ s.pending = typed := by
  -- without a closed stretch, accepted and settled bytes are the same
  have hclosed : s.ledger.closed = [] := Ledger.closed_of hnone
  have hsame : s.ledger.allAccepted = s.ledger.settled := by
    unfold Ledger.allAccepted Ledger.settled
    rw [hclosed]
    rfl
  calc s.exchanges.flatMap Exchange.accepted ++ s.pending
      = s.ledger.allAccepted ++ s.pending := by rw [ledger, Ledger.allAccepted_of]
    _ = s.ledger.settled ++ s.pending := by rw [hsame]
    _ = typed := h.typed_eq.symm

end Session

/-- **Typed input reaches the child in order**, without loss but for the blocks that a failed write
or the end of the child discards, and nothing twice: after the start and after every turn of every
run. -/
theorem input_conserved [Display δ] (o : Outset δ ε κ π) (turns : List (Turn δ κ π)) :
    InputConserved (o.run turns) := by
  cases hs : (o.run turns).session with
  | none =>
    -- nothing is exchanged and nothing is typed
    have hexchanges := Loop.exchanges_of_none hs
    have hpending := Loop.pending_of_none hs
    have htaken := o.taken_run_of_none hs
    constructor
    · rw [hexchanges, hpending]
      rfl
    · rw [hexchanges]
      rfl
    · rw [hexchanges, hpending, htaken]
      rfl
    · rw [hexchanges]
      exact Nat.zero_le 1
    · rw [hexchanges, hpending, htaken]
      exact fun _ => rfl
  | some s =>
    have hexchanges := Loop.exchanges_of_session hs
    have hpending := Loop.pending_of_session hs
    have haccounts : s.Accounts (o.run turns).stage.keys.typed :=
      o.accounts_invariant.holds turns s hs
    have hremembers : s.statuses = s.exit.toList := o.remembers_run turns s hs
    constructor
    · rw [hexchanges, hpending]
      exact haccounts.waiting_eq.symm
    · exact (Ledger.allAccepted_of _).symm
    · rw [hexchanges, hpending]
      exact haccounts.typed_eq
    · rw [hexchanges]
      change s.statuses.length ≤ 1
      rw [hremembers]
      cases s.exit with
      | none => exact Nat.zero_le 1
      | some exit => exact Nat.le_refl 1
    · rw [hexchanges, hpending]
      exact haccounts.lossless

end FramedShell
