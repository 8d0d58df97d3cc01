import FramedShell.Proofs.Ending

/-!
# What a step exchanges with its child

A step that goes through has a conversation with the child in a fixed order. It offers window sizes
if the display has changed, waits for output and reads, and then takes one of two ways. As long as
the output has not ended it sends input and asks for the exit status, and once there is one it reads
what is left. If the output has ended it asks for the exit status and is done.

An action *adds* exchanges to the record (`Live.Adds`), and what a composed action adds is what the
one adds followed by what the other adds (`adds_bind`). `adds_step` puts the conversation of a step
together from those of its parts.

## Main definitions

* `Exchange.kind` — what an exchange is about;
* `Hearing` — the waiting and reading of a step; `heardIn` finds its answer in a record;
* `Drained` — reading up to a limit;
* `Live.Adds` — what an action adds to the record;
* `Conversation` — what a step that goes through adds.
-/

namespace FramedShell

/-- **The kinds of exchanges.** -/
inductive ExchangeKind where
  | window
  | waiting
  | reading
  | input
  | exit
deriving DecidableEq

namespace Exchange

/-- What an exchange is about. -/
def kind : Exchange → ExchangeKind
  | .resize _ _ => .window
  | .waitReadable _ _ => .waiting
  | .read _ => .reading
  | .write _ _ => .input
  | .tryWait _ => .exit

/-- The exchange in which a chunk of output was read. -/
def ofChunk (bytes : List UInt8) : Exchange := .read (.ok (.data bytes))

/-- All exchanges are of one kind. -/
def AllOf (kind : ExchangeKind) (exchanges : List Exchange) : Prop := ∀ x ∈ exchanges, x.kind = kind

theorem allOf_nil (kind : ExchangeKind) : AllOf kind [] := fun _ h => absurd h List.not_mem_nil

theorem allOf_singleton {kind : ExchangeKind} {x : Exchange} (h : x.kind = kind) :
    AllOf kind [x] := by
  intro y hy
  rw [List.mem_singleton.1 hy]
  exact h

theorem AllOf.append {kind : ExchangeKind} {first rest : List Exchange} (h : AllOf kind first)
    (h' : AllOf kind rest) : AllOf kind (first ++ rest) := by
  intro x hx
  rcases List.mem_append.1 hx with hx | hx
  · exact h x hx
  · exact h' x hx

end Exchange

open Exchange

/-- **The waiting and reading of a step**, with the answer that came of it. -/
inductive Hearing : Except PtyError ReadOutcome → List Exchange → Prop where
  /-- There is nothing to read. -/
  | quiet (milliseconds : Nat) : Hearing (.ok .empty) [.waitReadable milliseconds (.ok false)]
  /-- The waiting fails. -/
  | failed (milliseconds : Nat) (e : PtyError) :
      Hearing (.error e) [.waitReadable milliseconds (.error e)]
  /-- There is something to read. -/
  | ready (milliseconds : Nat) (answer : Except PtyError ReadOutcome) :
      Hearing answer [.waitReadable milliseconds (.ok true), .read answer]

/-- **The answer that a step heard**, in what it has exchanged: the answer of its waiting if that
was no output, and else the answer of the reading after it. -/
def heardIn : List Exchange → Option (Except PtyError ReadOutcome)
  | [] => none
  | .resize _ _ :: rest => heardIn rest
  | .waitReadable _ (.ok false) :: _ => some (.ok .empty)
  | .waitReadable _ (.error e) :: _ => some (.error e)
  | .waitReadable _ (.ok true) :: .read answer :: _ => some answer
  | _ :: _ => none

/-- **Reading up to a limit**: chunk after chunk, until the limit is reached or a reading yields no
chunk. -/
def Drained (limit : Nat) (exchanges : List Exchange) : Prop :=
  ∃ chunks : List (List UInt8),
    (exchanges = chunks.map ofChunk ∧ chunks.length = limit) ∨
      ∃ answer, (∀ bytes, answer ≠ .ok (.data bytes)) ∧
        exchanges = chunks.map ofChunk ++ [.read answer] ∧ chunks.length < limit

/-- **The end of a step** whose output goes on: the exit check, and what is read after it. -/
inductive Parting : Option Ending → List Exchange → Prop where
  /-- The child has not ended. -/
  | waits {watched : List Exchange} (hwatched : AllOf .exit watched) : Parting none watched
  /-- The child has ended, and the rest of its output is read. -/
  | exits {watched drained : List Exchange} (exit : ChildExit) (hwatched : AllOf .exit watched)
      (hdrained : Drained Live.drainLimit drained) :
      Parting (some (.childExited exit)) (watched ++ drained)

/-- **The conversation of a step** that goes through, by its answer. -/
inductive Conversation : Option Ending → List Exchange → Prop where
  /-- The output goes on, and the exit check decides. -/
  | goesOn {answer : Except PtyError ReadOutcome} {ending : Option Ending}
      {offers heard sent parted : List Exchange} (hoffers : AllOf .window offers)
      (hheard : Hearing answer heard) (hopen : ¬ (Exchange.read answer).EndsOutput)
      (hsent : AllOf .input sent) (hparted : Parting ending parted) :
      Conversation ending (offers ++ (heard ++ (sent ++ parted)))
  /-- The output has ended, and with it the run. -/
  | breaksOff {answer : Except PtyError ReadOutcome} {offers heard watched : List Exchange}
      (ending : Ending) (hoffers : AllOf .window offers) (hheard : Hearing answer heard)
      (hends : (Exchange.read answer).EndsOutput) (hwatched : AllOf .exit watched) :
      Conversation (some ending) (offers ++ (heard ++ watched))

/-! ### Reading a conversation -/

section

variable {answer : Except PtyError ReadOutcome} {offers heard : List Exchange}

/-- Offers of window sizes come before what a step hears. -/
theorem heardIn_append (hoffers : AllOf .window offers) (rest : List Exchange) :
    heardIn (offers ++ rest) = heardIn rest := by
  -- the induction is on the offers; an exchange of any other kind contradicts `hoffers`
  induction offers with
  | nil => rfl
  | cons x offers ih =>
    have hx := hoffers x List.mem_cons_self
    have hrest := ih fun y hy => hoffers y (List.mem_cons_of_mem _ hy)
    cases x with
    | resize size answer => exact hrest
    | waitReadable milliseconds answer => cases hx
    | read answer => cases hx
    | write offered answer => cases hx
    | tryWait answer => cases hx

/-- What a step hears can be found in its conversation, whatever follows. -/
theorem Hearing.heardIn (hheard : Hearing answer heard) (hoffers : AllOf .window offers)
    (rest : List Exchange) : heardIn (offers ++ (heard ++ rest)) = some answer := by
  rw [heardIn_append hoffers]
  cases hheard <;> rfl

/-- A chunk is read in no exchange of another kind. -/
theorem Exchange.AllOf.chunk_not_mem {kind : ExchangeKind} {exchanges : List Exchange}
    (h : AllOf kind exchanges) (hkind : kind ≠ .reading) (bytes : List UInt8) :
    ofChunk bytes ∉ exchanges :=
  fun hmem => hkind (h _ hmem).symm

/-- A step to which the output has ended has not read a chunk. -/
theorem Hearing.chunk_not_mem (hheard : Hearing answer heard)
    (hends : (Exchange.read answer).EndsOutput) (bytes : List UInt8) : ofChunk bytes ∉ heard := by
  intro hmem
  cases hheard with
  -- these waitings are no readings at all
  | quiet milliseconds => cases List.mem_singleton.1 hmem
  | failed milliseconds e => cases List.mem_singleton.1 hmem
  | ready milliseconds answer =>
    rcases List.mem_cons.1 hmem with hx | hx
    · cases hx
    · cases List.mem_singleton.1 hx
      -- an answer with a chunk is no end of the output
      rcases hends with h | ⟨e, h⟩ <;> cases h

end

/-! ### Reading up to a limit -/

section

variable {limit : Nat} {exchanges : List Exchange}

theorem drained_zero : Drained 0 [] := ⟨[], .inl ⟨rfl, rfl⟩⟩

/-- A reading that yields no chunk is the last one. -/
theorem drained_stop {answer : Except PtyError ReadOutcome}
    (h : ∀ bytes, answer ≠ .ok (.data bytes)) : Drained (limit + 1) [.read answer] :=
  ⟨[], .inr ⟨answer, h, rfl, Nat.succ_pos limit⟩⟩

/-- A reading that yields a chunk is followed by reading up to one less. -/
theorem Drained.cons (bytes : List UInt8) (h : Drained limit exchanges) :
    Drained (limit + 1) (ofChunk bytes :: exchanges) := by
  -- the chunk goes to the front, and the way the reading ended stays as it was
  obtain ⟨chunks, ⟨rfl, hlength⟩ | ⟨answer, hanswer, rfl, hlength⟩⟩ := h
  · exact ⟨bytes :: chunks, .inl ⟨rfl, congrArg (· + 1) hlength⟩⟩
  · exact ⟨bytes :: chunks, .inr ⟨answer, hanswer, rfl, Nat.succ_lt_succ hlength⟩⟩

/-- Reading up to a limit is nothing but reading. -/
theorem Drained.allOf (h : Drained limit exchanges) : AllOf .reading exchanges := by
  obtain ⟨chunks, h⟩ := h
  have hchunks : AllOf .reading (chunks.map ofChunk) := by
    intro x hx
    obtain ⟨bytes, -, rfl⟩ := List.mem_map.1 hx
    rfl
  rcases h with ⟨rfl, -⟩ | ⟨answer, -, rfl, -⟩
  · exact hchunks
  · exact hchunks.append (allOf_singleton rfl)

end

/-! ### What the operations of a session add -/

namespace Session

variable {π : Type} [Master π] (s : Session (Recorded π))

theorem adds_flushPending :
    ∃ new, s.flushPending.state.exchanges = s.exchanges ++ new ∧ AllOf .input new := by
  -- every round of the loop adds one offer, whatever its answer
  fun_induction flushPending s with
  | case1 s => exact ⟨[], (List.append_nil _).symm, allOf_nil _⟩
  -- a failed write and a write of nothing both leave the loop after this offer
  | case2 s _ e m hm => exact ⟨_, Recorded.exchanges_write hm, allOf_singleton rfl⟩
  | case3 s _ m hm => exact ⟨_, Recorded.exchanges_write hm, allOf_singleton rfl⟩
  -- some bytes were taken, and the loop goes on with the others
  | case4 s _ taken m hm ih =>
    obtain ⟨new, hnew, hinput⟩ := ih
    have hoffer : AllOf .input [.write s.pending (.ok (taken + 1))] := allOf_singleton rfl
    refine ⟨_, ?_, hoffer.append hinput⟩
    rw [hnew, ← List.append_assoc]
    exact congrArg (· ++ new) (Recorded.exchanges_write hm)

theorem adds_write (bytes : List UInt8) :
    ∃ new, (s.write bytes).state.exchanges = s.exchanges ++ new ∧ AllOf .input new := by
  unfold write
  -- nothing is offered where there is nothing to write
  split
  · exact ⟨[], (List.append_nil _).symm, allOf_nil _⟩
  · exact adds_flushPending { s with pending := s.pending ++ bytes }

theorem adds_pollExit :
    ∃ new, s.pollExit.state.exchanges = s.exchanges ++ new ∧ AllOf .exit new := by
  cases h : s.exit with
  | some exit =>
    -- the status is known already, and the child is not asked again
    rw [pollExit_of_some s h]
    exact ⟨[], (List.append_nil _).symm, allOf_nil _⟩
  | none => exact ⟨_, exchanges_pollExit_of_none s h, allOf_singleton rfl⟩

theorem adds_reapAttempts (more : Nat) :
    ∃ new, (s.reapAttempts more).state.exchanges = s.exchanges ++ new ∧ AllOf .exit new := by
  -- the induction is on the number of checks that may still follow
  induction more generalizing s with
  | zero => exact adds_pollExit s
  | succ more ih =>
    have hfirst := adds_pollExit s
    unfold reapAttempts
    split
    · -- there is no status yet, and the waiting goes on
      rename_i s' notices hs
      rw [hs] at hfirst
      obtain ⟨first, hfirst, hexit⟩ := hfirst
      obtain ⟨rest, hrest, hexit'⟩ := ih s'
      refine ⟨first ++ rest, ?_, hexit.append hexit'⟩
      rw [← List.append_assoc, ← hfirst]
      exact hrest
    · exact hfirst

end Session

/-! ### What an action adds -/

namespace Live

variable {δ ε κ π : Type}

/-- **What an action adds to the record**, in view of its result, if it goes through. -/
def Adds {α : Type} (a : Act δ ε κ (Recorded π) α) (K : α → List Exchange → Prop) : Prop :=
  ∀ older, Meets (fun live => live.session.exchanges = older) a
    (fun x live => ∃ new, live.session.exchanges = older ++ new ∧ K x new) (fun _ _ => True)

section

variable {α β : Type} {K : α → List Exchange → Prop} {L : β → List Exchange → Prop}

theorem adds_pure {x : α} (h : K x []) : Adds (pure x : Act δ ε κ (Recorded π) α) K :=
  fun _ => meets_pure fun _ hlive => ⟨[], hlive.trans (List.append_nil _).symm, h⟩

/-- **What a composed action adds** is what its parts add, one after the other. -/
theorem adds_bind {a : Act δ ε κ (Recorded π) α} {f : α → Act δ ε κ (Recorded π) β}
    (ha : Adds a K) (hf : ∀ x, Adds (f x) fun y rest => ∀ first, K x first → L y (first ++ rest)) :
    Adds (a >>= f) L := by
  intro older
  refine meets_bind (ha older) fun x live hlive => ?_
  obtain ⟨first, hfirst, hK⟩ := hlive
  have h := hf x (older ++ first) live hfirst
  -- the second action is judged from the record that the first has left behind
  cases hr : f x live with
  -- `Adds` says nothing of an action that fails
  | error e live' => trivial
  | ok y live' =>
    rw [hr] at h
    obtain ⟨rest, hrest, hL⟩ := h
    exact ⟨first ++ rest, hrest.trans (List.append_assoc _ _ _), hL first hK⟩

theorem Adds.weaken {M : α → List Exchange → Prop} {a : Act δ ε κ (Recorded π) α} (h : Adds a K)
    (hK : ∀ x new, K x new → M x new) : Adds a M := by
  intro older live hlive
  have ha := h older live hlive
  cases hr : a live with
  | error e live' => trivial
  | ok x live' =>
    rw [hr] at ha
    obtain ⟨new, hnew, hx⟩ := ha
    exact ⟨new, hnew, hK x new hx⟩

theorem adds_get_bind {f : Live δ ε κ (Recorded π) → Act δ ε κ (Recorded π) β}
    (h : ∀ live, Adds (f live) L) : Adds (MonadState.get >>= f) L :=
  fun older => meets_get_bind fun live hlive => (h live older).restrict fun _ hl => hl ▸ hlive

theorem adds_onSession {f : Session (Recorded π) → Noticed (Session (Recorded π)) α}
    (h : ∀ s : Session (Recorded π),
      ∃ new, (f s).state.exchanges = s.exchanges ++ new ∧ K (f s).result new) :
    Adds (onSession f : Act δ ε κ (Recorded π) α) K :=
  fun _ => meets_onSession fun live _ hlive => hlive ▸ h live.session

/-- What an action adds, whether or not it goes through. -/
theorem adds_of_final {a : Act δ ε κ (Recorded π) α}
    (h : ∀ live, ∃ new, (final (a live)).session.exchanges = live.session.exchanges ++ new ∧
      ∀ x, K x new) : Adds a K := by
  intro older live hlive
  obtain ⟨new, hnew, hK⟩ := h live
  cases hr : a live with
  | error e live' => trivial
  | ok x live' =>
    rw [hr] at hnew
    exact ⟨new, hlive ▸ hnew, hK x⟩

/-- **An action that leaves the session alone**, whether or not it goes through. -/
def OnStage {α π : Type} (a : Act δ ε κ π α) : Prop :=
  ∀ live, (final (a live)).session = live.session

/-- It adds nothing. -/
theorem OnStage.adds {a : Act δ ε κ (Recorded π) α} (ha : OnStage a) (h : ∀ x, K x []) :
    Adds a K :=
  adds_of_final fun live =>
    ⟨[], (congrArg Session.exchanges (ha live)).trans (List.append_nil _).symm, h⟩

/-- What follows it adds what the two add. -/
theorem OnStage.adds_bind {a : Act δ ε κ (Recorded π) α} {f : α → Act δ ε κ (Recorded π) β}
    (ha : OnStage a) (hf : ∀ x, Adds (f x) L) : Adds (a >>= f) L :=
  Live.adds_bind (K := fun _ new => new = []) (ha.adds fun _ => rfl) fun x =>
    (hf x).weaken fun _ _ h _ hnil => hnil ▸ h

end

/-! ### Actions that leave the session alone -/

theorem onStage_pure {α : Type} (x : α) : OnStage (pure x : Act δ ε κ π α) := fun _ => rfl

theorem onStage_get : OnStage (MonadState.get : Act δ ε κ π (Live δ ε κ π)) := fun _ => rfl

theorem onStage_bind {α β : Type} {a : Act δ ε κ π α} {f : α → Act δ ε κ π β} (ha : OnStage a)
    (hf : ∀ x, OnStage (f x)) : OnStage (a >>= f) := by
  intro live
  have h := ha live
  cases hr : a live with
  -- the second action runs in the state that the first one left
  | ok x live' =>
    rw [hr] at h
    rw [bind_ok hr]
    exact (hf x live').trans h
  -- the first action fails, and the composition stops there
  | error e live' =>
    rw [hr] at h
    rw [bind_error hr]
    exact h

theorem onStage_note (n : Notice) : OnStage (note n : Act δ ε κ π Unit) := fun _ => rfl

theorem onStage_nextKey [KeySource κ] : OnStage (nextKey : Act δ ε κ π (Option Key)) := by
  intro live
  unfold nextKey
  split <;> rfl

theorem onStage_decode [OutputDecoder ε] (bytes : List UInt8) :
    OnStage (decode bytes : Act δ ε κ π Unit) := fun _ => rfl

section

variable [Display δ]

theorem onStage_askSize : OnStage (askSize : Act δ ε κ π Size) := by
  intro live
  unfold askSize
  split <;> rfl

theorem onStage_draw (strokes : List Stroke) : OnStage (draw strokes : Act δ ε κ π Unit) := by
  intro live
  unfold draw
  split <;> rfl

theorem onStage_paint (l : Layout) : OnStage (paint l : Act δ ε κ π Unit) := by
  intro live
  unfold paint
  dsimp only
  split <;> rfl

theorem onStage_showGrid [OutputDecoder ε] : OnStage (showGrid : Act δ ε κ π Unit) := by
  refine onStage_bind onStage_get fun live => ?_
  split
  · exact onStage_pure ()
  · split <;> exact onStage_draw _

end

/-! ### The parts of a step -/

section

variable [Master π]

theorem adds_readOutput :
    Adds (readOutput : Act δ ε κ (Recorded π) _) Hearing := by
  refine adds_get_bind fun live => ?_
  refine adds_bind (adds_onSession fun s => ⟨_, s.exchanges_waitReadable _, rfl⟩)
    (K := fun r new => new = [.waitReadable live.stage.pollInterval r]) fun r => ?_
  -- only a readiness is followed by a reading
  match r with
  | .ok true =>
    refine adds_onSession fun s => ⟨_, s.exchanges_read, ?_⟩
    rintro _ rfl
    exact .ready _ _
  | .ok false =>
    refine adds_pure ?_
    rintro _ rfl
    exact .quiet _
  | .error e =>
    refine adds_pure ?_
    rintro _ rfl
    exact .failed _ e

theorem adds_sendKey (key : Key) :
    Adds (sendKey key : Act δ ε κ (Recorded π) Unit) fun _ => AllOf .input := by
  refine adds_of_final fun live => ?_
  -- whatever becomes of the notices, the session is the one after the write
  obtain ⟨notices, hfinal⟩ := final_sendKey key live
  obtain ⟨new, hnew, hinput⟩ := live.session.adds_write key.bytes
  exact ⟨new, hfinal ▸ hnew, fun _ => hinput⟩

theorem adds_endingOfOutput :
    Adds (endingOfOutput : Act δ ε κ (Recorded π) Ending) fun _ => AllOf .exit := by
  refine adds_bind (adds_onSession fun s => s.adds_reapAttempts _)
    (K := fun _ => AllOf .exit) fun r => ?_
  have hdone {ending : Ending} : Adds (pure ending : Act δ ε κ (Recorded π) Ending)
      fun _ rest => ∀ first, AllOf .exit first → AllOf .exit (first ++ rest) :=
    adds_pure fun _ hfirst => hfirst.append (allOf_nil _)
  -- a status, no status after the last check, and a failed check all end the run
  match r with
  | .ok (some exit) => exact hdone
  | .ok none => exact hdone
  | .error e => exact (onStage_note _).adds_bind fun _ => hdone

variable [OutputDecoder ε]

/-- Reading the rest of the output ends at the limit, or with a reading that yields none. -/
theorem adds_drainOutput (n : Nat) :
    Adds (drainOutput n : Act δ ε κ (Recorded π) Bool) fun _ => Drained n := by
  -- the recursion of `drainOutput`: another reading follows only where there was output
  induction n with
  | zero => exact adds_pure drained_zero
  | succ n ih =>
    refine adds_bind (adds_onSession fun s => ⟨_, s.exchanges_read, rfl⟩)
      (K := fun r new => new = [.read r]) fun r => ?_
    -- a reading without a chunk ends the loop, whichever of the three it is
    have hstop {answer : Except PtyError ReadOutcome} (h : ∀ bytes, answer ≠ .ok (.data bytes)) :
        Adds (pure false : Act δ ε κ (Recorded π) Bool)
          fun _ rest => ∀ first, first = [.read answer] → Drained (n + 1) (first ++ rest) := by
      refine adds_pure ?_
      rintro _ rfl
      exact drained_stop h
    match r with
    -- the chunk is decoded, which adds nothing, and what is left is read up to one less
    | .ok (.data bytes) =>
      refine (onStage_decode bytes).adds_bind fun _ => adds_bind ih fun _ => adds_pure ?_
      rintro rest hrest _ rfl
      rw [List.append_nil]
      exact hrest.cons bytes
    | .ok .empty => exact hstop (by simp)
    | .ok .endOfStream => exact hstop (by simp)
    | .error e => exact (onStage_note _).adds_bind fun _ => hstop (by simp)

section

variable [Display δ]

theorem adds_followDisplay :
    Adds (followDisplay : Act δ ε κ (Recorded π) Unit) fun _ => AllOf .window := by
  refine onStage_askSize.adds_bind fun size => adds_get_bind fun live => ?_
  split
  · -- the relay makes at most one offer, and what follows is drawing
    refine adds_bind (K := fun _ => AllOf .window) (adds_of_final fun live => ?_) ?_
    · obtain hs | ⟨window, hs⟩ := session_relayed size live
      · -- no offer was due
        exact ⟨[], (congrArg Session.exchanges hs).trans (List.append_nil _).symm,
          fun _ => allOf_nil _⟩
      · -- the new size of the window was offered once
        exact ⟨_, (congrArg Session.exchanges hs).trans (live.session.exchanges_setSize window),
          fun _ => allOf_singleton rfl⟩
    · rintro ⟨l, repaint⟩
      -- painting and drawing happen on the stage alone
      refine OnStage.adds ?_ fun _ _ hfirst => hfirst.append (allOf_nil _)
      cases repaint with
      | true => exact onStage_bind (onStage_paint l) fun _ => onStage_showGrid
      | false => exact onStage_pure ()
  · -- the display has no new size
    exact adds_pure (allOf_nil _)

theorem adds_drain :
    Adds (drain : Act δ ε κ (Recorded π) Unit) fun _ => Drained drainLimit := by
  refine adds_bind (adds_drainOutput _) fun fed => OnStage.adds ?_ fun _ drained hdrained =>
    (List.append_nil drained).symm ▸ hdrained
  cases fed with
  | true => exact onStage_showGrid
  | false => exact onStage_pure ()

theorem adds_checkExit :
    Adds (checkExit : Act δ ε κ (Recorded π) (Option Ending)) Parting := by
  refine adds_bind (adds_onSession fun s => s.adds_pollExit) (K := fun _ => AllOf .exit) fun r => ?_
  match r with
  | .ok (some exit) =>
    refine adds_bind adds_drain fun _ => adds_pure ?_
    intro drained hdrained watched hwatched
    rw [List.append_nil]
    exact .exits exit hwatched hdrained
  | .ok none => exact adds_pure fun _ hwatched => (List.append_nil _).symm ▸ .waits hwatched
  | .error e =>
    exact (onStage_note _).adds_bind fun _ =>
      adds_pure fun _ hwatched => (List.append_nil _).symm ▸ .waits hwatched

end

variable [KeySource κ]

omit [OutputDecoder ε] in
theorem adds_serveKeyboard :
    Adds (serveKeyboard : Act δ ε κ (Recorded π) Unit) fun _ => AllOf .input := by
  have htake : Adds (takeKey : Act δ ε κ (Recorded π) Unit)
      fun _ rest => ∀ first, AllOf .input first → AllOf .input (first ++ rest) := by
    refine onStage_nextKey.adds_bind fun key => ?_
    cases key with
    | some key => exact (adds_sendKey key).weaken fun _ _ h _ hfirst => hfirst.append h
    | none => exact adds_pure fun _ hfirst => hfirst.append (allOf_nil _)
  refine adds_bind (adds_onSession fun s => s.adds_flushPending) (K := fun _ => AllOf .input)
    fun r => ?_
  match r with
  | .ok () => exact htake
  | .error e => exact (onStage_note _).adds_bind fun _ => htake

variable [Display δ]

/-- **A step that goes through has a conversation**, in accordance with its answer. -/
theorem adds_step : Adds (step : Act δ ε κ (Recorded π) (Option Ending)) Conversation := by
  have hserve : Adds (do serveKeyboard; checkExit : Act δ ε κ (Recorded π) (Option Ending))
      fun ending rest => ∃ sent parted, rest = sent ++ parted ∧ AllOf .input sent ∧
        Parting ending parted :=
    adds_bind adds_serveKeyboard fun _ => adds_checkExit.weaken fun _ parted hparted sent hsent =>
      ⟨sent, parted, rfl, hsent, hparted⟩
  have hend : Adds (some <$> endingOfOutput : Act δ ε κ (Recorded π) (Option Ending))
      fun answer rest => AllOf .exit rest ∧ ∃ ending, answer = some ending :=
    adds_bind adds_endingOfOutput fun ending => adds_pure fun watched hwatched =>
      ⟨(List.append_nil watched).symm ▸ hwatched, ending, rfl⟩
  refine adds_bind adds_followDisplay fun _ => adds_bind adds_readOutput fun r => ?_
  -- the two ways of a step, by whether the output has ended
  have hgoes (hopen : ¬ (Exchange.read r).EndsOutput) := hserve.weaken
    (M := fun ending rest => ∀ heard, Hearing r heard → ∀ offers, AllOf .window offers →
      Conversation ending (offers ++ (heard ++ rest))) <| by
    rintro ending _ ⟨sent, parted, rfl, hsent, hparted⟩ heard hheard offers hoffers
    exact .goesOn hoffers hheard hopen hsent hparted
  have hbreaks (hends : (Exchange.read r).EndsOutput) := hend.weaken
    (M := fun ending rest => ∀ heard, Hearing r heard → ∀ offers, AllOf .window offers →
      Conversation ending (offers ++ (heard ++ rest))) <| by
    rintro _ watched ⟨hwatched, ending, rfl⟩ heard hheard offers hoffers
    exact .breaksOff ending hoffers hheard hends hwatched
  match r with
  | .ok (.data bytes) =>
    refine (onStage_decode bytes).adds_bind fun _ => onStage_showGrid.adds_bind fun _ => ?_
    exact hgoes (by simp [Exchange.EndsOutput])
  | .ok .empty => exact hgoes (by simp [Exchange.EndsOutput])
  | .ok .endOfStream =>
    exact (onStage_note _).adds_bind fun _ => hbreaks (.inl rfl)
  | .error e =>
    exact (onStage_note _).adds_bind fun _ => hbreaks (.inr ⟨e, rfl⟩)

end

end Live

/-- **A step that goes through has a conversation**, and the state of the loop is set by its answer.
-/
theorem Loop.step_conversation {δ ε κ π : Type} [Display δ] [OutputDecoder ε] [Master π]
    [KeySource κ] {loop : Loop δ ε κ (Recorded π)} {session : Session (Recorded π)}
    (hrun : loop.state = .running) (hsession : loop.session = some session)
    (hok : loop.step.result = .ok ()) :
    ∃ r new, loop.step.state.state = stateAfter r ∧
      loop.step.state.exchanges = session.exchanges ++ new ∧ Conversation r new := by
  have hadds := Live.adds_step session.exchanges
    (⟨loop.stage, session, []⟩ : Live δ ε κ (Recorded π)) rfl
  rw [step_of_running hrun hsession] at hok ⊢
  cases hr : Live.step (⟨loop.stage, session, []⟩ : Live δ ε κ (Recorded π)) with
  | error e live =>
    rw [hr] at hok
    cases hok
  | ok r live =>
    rw [hr] at hadds
    obtain ⟨new, hnew, hconversation⟩ := hadds
    refine ⟨r, new, state_stepped_of_ok hrun, ?_, hconversation⟩
    rw [exchanges_of_session (session_stepped _ _)]
    exact hnew

end FramedShell
