import FramedShell.Proofs.Status

/-!
# How a run ends

A step that goes through and ends the run does so with the exit status if it was seen, in this step
or in one that failed after it. The run ends with its output only if the master said so in the same
step, and gave no status up to then.

The two meet in the *verdict* of a step (`Live.Verdict`): what its answer says of the session and of
the exchanges that the step has added to the record. `meets_step` shows it for every step that goes
through, over all its ways.

## Main definitions

* `Exchange.EndsOutput` — the answers after which there is no more output;
* `Live.Verdict` — what the answer of a step stands for;
* `EndsSoundly` — what holds of a run at all times.
-/

namespace FramedShell

/-- **The output ends with an exchange**: the stream ended, or it could not be waited for or read.
-/
def Exchange.EndsOutput : Exchange → Prop
  | .waitReadable _ answer => ∃ e, answer = .error e
  | .read answer => answer = .ok .endOfStream ∨ ∃ e, answer = .error e
  | .resize _ _ => False
  | .write _ _ => False
  | .tryWait _ => False

/-- The exit status of an ending. -/
def Ending.status? : Ending → Option ChildExit
  | .childExited exit => some exit
  | .endOfStream => none

theorem Ending.eq_childExited {ending : Ending} {c : ChildExit} (h : ending.status? = some c) :
    ending = .childExited c := by
  cases ending with
  | childExited exit => exact congrArg _ (Option.some.inj h)
  | endOfStream => cases h

namespace Session

variable {π : Type} [Master π] (s : Session (Recorded π))

/-- Offering input adds to the record. -/
theorem exchanges_flushPending : s.exchanges <+: s.flushPending.state.exchanges := by
  fun_induction flushPending s with
  | case1 => exact List.prefix_rfl
  | case2 s _ e m hm => exact ⟨_, (Recorded.exchanges_write hm).symm⟩
  | case3 s _ m hm => exact ⟨_, (Recorded.exchanges_write hm).symm⟩
  | case4 s _ taken m hm ih => exact List.IsPrefix.trans ⟨_, (Recorded.exchanges_write hm).symm⟩ ih

theorem exchanges_write (bytes : List UInt8) : s.exchanges <+: (s.write bytes).state.exchanges := by
  unfold write
  split
  · exact List.prefix_rfl
  · exact exchanges_flushPending { s with pending := s.pending ++ bytes }

theorem exchanges_pollExit : s.exchanges <+: s.pollExit.state.exchanges := by
  cases h : s.exit with
  | some exit =>
    -- the master is not asked
    have heq : s.pollExit.state.exchanges = s.exchanges := by rw [pollExit_of_some s h]
    exact heq ▸ List.prefix_rfl
  | none => exact exchanges_pollExit_of_none s h ▸ List.prefix_append _ _

end Session

namespace Live

variable {δ ε κ π : Type} [OutputDecoder ε] [KeySource κ] [Master π]

/-- **Effects add to the record.** -/
theorem Effect.exchanges {live live' : Live δ ε κ (Recorded π)} (he : Effect live live') :
    live.session.exchanges <+: live'.session.exchanges := by
  cases he with
  | relayed size =>
    obtain hs | ⟨window, hs⟩ := session_relayed size live
    · exact congrArg Session.exchanges hs ▸ List.prefix_rfl
    · rw [hs, Session.exchanges_setSize]
      exact List.prefix_append _ _
  | typed key => exact Session.exchanges_write _ _
  | flushed => exact Session.exchanges_flushPending _
  | awaited ms => exact List.prefix_append _ _
  | unheard => exact List.prefix_append _ _
  | heard => exact List.prefix_append _ _
  | watched => exact Session.exchanges_pollExit _
  | _ => exact List.prefix_rfl

/-! ### The verdict of a step -/

/-- The record goes on from an older one. -/
def Since (older : List Exchange) (live : Live δ ε κ (Recorded π)) : Prop :=
  older <+: live.session.exchanges

/-- The record goes on from an older one, and the output has ended since. -/
def EndedSince (older : List Exchange) (live : Live δ ε κ (Recorded π)) : Prop :=
  ∃ new, live.session.exchanges = older ++ new ∧ ∃ x ∈ new, x.EndsOutput

/-- **What the answer of a step stands for**, in view of the record before it. -/
def Verdict (older : List Exchange) (live : Live δ ε κ (Recorded π)) : Option Ending → Prop
  | none => live.session.exit = none
  | some (.childExited exit) => live.session.exit = some exit
  | some .endOfStream => live.session.exit = none ∧ live.EndedSince older

variable {older : List Exchange} {live live' : Live δ ε κ (Recorded π)}

theorem Since.effect (he : Effect live live') (h : live.Since older) : live'.Since older :=
  List.IsPrefix.trans h he.exchanges

theorem EndedSince.effect (he : Effect live live') (h : live.EndedSince older) :
    live'.EndedSince older := by
  obtain ⟨new, heq, x, hx, hends⟩ := h
  -- the exchange that ended the output stays in the record
  obtain ⟨newer, hnewer⟩ := he.exchanges
  refine ⟨new ++ newer, ?_, x, List.mem_append_left _ hx, hends⟩
  rw [← hnewer, heq, List.append_assoc]

omit [OutputDecoder ε] [KeySource κ] [Master π] in
/-- One more exchange, which ends the output. -/
theorem Since.ended {x : Exchange} (h : live.Since older)
    (heq : live'.session.exchanges = live.session.exchanges ++ [x]) (hends : x.EndsOutput) :
    live'.EndedSince older := by
  obtain ⟨new, hnew⟩ := h
  refine ⟨new ++ [x], ?_, x, List.mem_append_right _ (List.mem_singleton_self x), hends⟩
  rw [heq, ← hnew, List.append_assoc]

omit [OutputDecoder ε] [KeySource κ] in
/-- The answer to waiting and reading: if it is the end of the output, the record says so. -/
theorem meets_readOutput :
    Meets (Since older) (readOutput : Act δ ε κ (Recorded π) _)
      (fun r live => live.Since older ∧ ((Exchange.read r).EndsOutput → live.EndedSince older))
      (fun _ _ => True) := by
  refine meets_get_bind fun live₀ hlive₀ => ?_
  -- a failed waiting ends the output, and then nothing is read
  refine meets_bind
    (Q := fun r live => live.Since older ∧ ((∃ e, r = .error e) → live.EndedSince older))
    (meets_onSession ?_) ?_
  · rintro live notices rfl
    have hawaited := Session.exchanges_waitReadable live.session live.stage.pollInterval
    exact ⟨hlive₀.trans (hawaited ▸ List.prefix_append _ _), fun hr => hlive₀.ended hawaited hr⟩
  · intro r
    match r with
    | .ok true =>
      refine meets_onSession ?_
      rintro live notices ⟨hsince, -⟩
      have hread := Session.exchanges_read live.session
      exact ⟨hsince.trans (hread ▸ List.prefix_append _ _), fun hr => hsince.ended hread hr⟩
    | .ok false =>
      refine meets_pure ?_
      rintro live ⟨hsince, -⟩
      exact ⟨hsince, by simp [Exchange.EndsOutput]⟩
    | .error e =>
      refine meets_pure ?_
      rintro live ⟨hsince, hended⟩
      exact ⟨hsince, fun _ => hended ⟨e, rfl⟩⟩

omit [OutputDecoder ε] [KeySource κ] [Master π] in
/-- The verdict tells the status that the session remembers. -/
theorem Verdict.exit_eq {r : Option Ending} (h : live.Verdict older r) :
    live.session.exit = r.bind Ending.status? := by
  match r with
  | none => exact h
  | some (.childExited exit) => exact h
  | some .endOfStream => exact h.1

variable [Display δ]

/-- Checking for the exit answers the status that the session then remembers, through the draining.
-/
theorem meets_checkExit :
    Meets (fun _ => True) (checkExit : Act δ ε κ (Recorded π) _)
      (fun r live => live.Verdict older r) (fun _ _ => True) := by
  refine meets_bind (Q := fun r live => live.session.exit = Session.statusOf r)
    (meets_onSession ?_) ?_
  · intro live notices _
    exact Session.exit_pollExit live.session
  · intro r
    match r with
    | .ok (some exit) =>
      -- the draining may fail, but what it does never touches the status
      have hdrain := (effects_drain (δ := δ) (ε := ε) (κ := κ) (π := Recorded π)).meets
        (P := fun live => live.session.exit = some exit) fun _ _ he h => he.exit h
      refine meets_bind hdrain.regardless ?_
      intro _
      exact meets_pure fun _ h => h
    | .ok none => exact meets_pure fun _ h => h
    | .error e => exact meets_bind (meets_note fun _ _ h => h) fun _ => meets_pure fun _ h => h

omit [Display δ] in
/-- After the end of the output the answer is the status if there is one. -/
theorem meets_endingOfOutput :
    Meets (EndedSince older) (endingOfOutput : Act δ ε κ (Recorded π) _)
      (fun ending live => live.Verdict older (some ending)) (fun _ _ => True) := by
  refine meets_bind
    (Q := fun r live => live.session.exit = Session.statusOf r ∧ live.EndedSince older)
    (meets_onSession ?_) ?_
  · intro live notices hended
    refine ⟨Session.exit_reapAttempts live.session _, ?_⟩
    -- the checks only add to the record
    exact (leads_reapAttempts _ live).keeps (fun _ _ he h => h.effect he) hended
  · intro r
    match r with
    | .ok (some exit) => exact meets_pure fun _ h => h.1
    | .ok none => exact meets_pure fun _ h => h
    | .error e => exact meets_bind (meets_note fun _ _ h => h) fun _ => meets_pure fun _ h => h

/-- **A step that goes through answers in accordance with the session and the record.** -/
theorem meets_step :
    Meets (Since older) (step : Act δ ε κ (Recorded π) _)
      (fun r live => live.Verdict older r) (fun _ _ => True) := by
  -- keys and drawing add to the record, and nothing is asked of it before the exit is checked
  have hkeeps {α : Type} {a : Act δ ε κ (Recorded π) α} (ha : Effects a) :
      Meets (Since older) a (fun _ => Since older) (fun _ _ => True) :=
    (ha.meets fun _ _ he h => h.effect he).regardless
  have hserve : Meets (Since older) (do serveKeyboard; checkExit : Act δ ε κ (Recorded π) _)
      (fun r live => live.Verdict older r) (fun _ _ => True) :=
    meets_bind (hkeeps effects_serveKeyboard) fun _ =>
      meets_checkExit.restrict fun _ _ => trivial
  have hend : Meets (EndedSince older) (some <$> endingOfOutput : Act δ ε κ (Recorded π) _)
      (fun r live => live.Verdict older r) (fun _ _ => True) :=
    meets_bind meets_endingOfOutput fun _ => meets_pure fun _ h => h
  refine meets_bind (hkeeps effects_followDisplay) fun _ => meets_bind meets_readOutput ?_
  intro r
  -- with output or without the step goes on to the check; otherwise it ends the run
  match r with
  | .ok (.data bytes) =>
    have hdecode : Meets (Since older) (decode bytes : Act δ ε κ (Recorded π) Unit)
        (fun _ => Since older) (fun _ _ => True) := fun _ h => h
    refine Meets.restrict (P := Since older) ?_ fun _ h => h.1
    exact meets_bind hdecode fun _ => meets_bind (hkeeps effects_showGrid) fun _ => hserve
  | .ok .empty => exact hserve.restrict fun _ h => h.1
  | .ok .endOfStream =>
    have hnote : Meets (EndedSince older) (note .outputEnded : Act δ ε κ (Recorded π) Unit)
        (fun _ => EndedSince older) (fun _ _ => True) := meets_note fun _ _ h => h
    exact (meets_bind hnote fun _ => hend).restrict fun _ h => h.2 (.inl rfl)
  | .error e =>
    have hnote : Meets (EndedSince older) (note (.outputFailed e) : Act δ ε κ (Recorded π) Unit)
        (fun _ => EndedSince older) (fun _ _ => True) := meets_note fun _ _ h => h
    exact (meets_bind hnote fun _ => hend).restrict fun _ h => h.2 (.inr ⟨e, rfl⟩)

end Live

/-! ### The end of a loop -/

namespace Loop

section

variable {δ ε κ π : Type} [Display δ] [OutputDecoder ε] [Master π] [KeySource κ]
variable {loop : Loop δ ε κ π}

/-- A step that fails leaves the loop running, with its session. -/
theorem running_of_error {e : LoopFault} (h : loop.step.result = .error e) :
    loop.step.state.state = .running ∧ ∃ session, loop.step.state.session = some session := by
  cases hstate : loop.state with
  | terminated t =>
    rw [step_of_terminated hstate] at h
    cases h
  | running =>
    cases hs : loop.session with
    | none =>
      rw [step_of_session_none hs] at h
      cases h
    | some session =>
      -- only a loop that runs can fail, and a failure leaves its state alone
      rw [step_of_running hstate hs] at h ⊢
      refine ⟨?_, _, session_stepped _ _⟩
      rw [state_stepped_of_error h]
      exact hstate

end

variable {δ ε κ π : Type}

/-- **A loop that has terminated with a session** gives the reason that the session remembers. -/
def Concluded (loop : Loop δ ε κ (Recorded π)) : Prop :=
  ∀ t, loop.state = .terminated t → ∀ session, loop.session = some session →
    ∃ ending, t = .ended ending ∧ session.exit = ending.status?

variable [Display δ] [OutputDecoder ε] [Master π] [KeySource κ] {loop : Loop δ ε κ (Recorded π)}

/-- **A step that goes through has a verdict**, and the state of the loop is set by it. -/
theorem step_verdict {session : Session (Recorded π)} (hrun : loop.state = .running)
    (hsession : loop.session = some session) (hok : loop.step.result = .ok ()) :
    ∃ live r, loop.step.state.session = some live.session ∧
      loop.step.state.state = stateAfter r ∧
      Live.Verdict (δ := δ) (ε := ε) (κ := κ) session.exchanges live r := by
  have hverdict := Live.meets_step (δ := δ) (ε := ε) (κ := κ) (π := π) ⟨loop.stage, session, []⟩
    (List.prefix_rfl : session.exchanges <+: session.exchanges)
  rw [step_of_running hrun hsession] at hok ⊢
  cases hr : Live.step (⟨loop.stage, session, []⟩ : Live δ ε κ (Recorded π)) with
  | ok r live =>
    rw [hr] at hverdict
    exact ⟨live, r, session_stepped _ _, state_stepped_of_ok hrun, hverdict⟩
  | error e live =>
    rw [hr] at hok
    cases hok

/-- A step keeps the reason in accordance with the session. -/
theorem Concluded.step (h : loop.Concluded) : loop.step.state.Concluded := by
  cases hstate : loop.state with
  | terminated t =>
    rw [step_of_terminated hstate]
    exact h
  | running =>
    cases hsession : loop.session with
    | none =>
      rw [step_of_session_none hsession]
      exact h
    | some session =>
      intro t hended session' hs
      cases hok : loop.step.result with
      | error e =>
        -- after a failure the loop still runs
        rw [(running_of_error hok).1] at hended
        cases hended
      | ok _ =>
        -- the ending of the step is the one that its verdict is about
        obtain ⟨live, r, hlive, hafter, hverdict⟩ := step_verdict hstate hsession hok
        rw [hlive] at hs
        obtain rfl := Option.some.inj hs
        rw [hafter] at hended
        cases r with
        | none => cases hended
        | some ending =>
          cases hended
          exact ⟨ending, rfl, hverdict.exit_eq⟩

omit [KeySource κ] in
/-- A loop terminates when it is started only if there is no session. -/
theorem concluded_start {loop : Loop δ ε κ (Recorded π)}
    {spawn : Size → Except PtyError (Recorded π)}
    (hrun : loop.state = .running) (hnone : loop.session = none) :
    (loop.start spawn).state.Concluded := by
  have hstarts := loop.start_cases spawn
  generalize loop.start spawn = started at hstarts ⊢
  intro t hended session hs
  cases hstarts with
  | unsized => cases hrun.symm.trans hended
  | unspawned => cases hnone.symm.trans hs
  | spawned =>
    rw [state_opened] at hended
    cases hrun.symm.trans hended

/-- **A step that goes through ends the loop with the status** that the session remembers. -/
theorem childExited_of_exit {session : Session (Recorded π)} {c : ChildExit} (h : loop.Concluded)
    (hs : loop.session = some session) (hexit : session.exit = some c)
    (hok : loop.step.result = .ok ()) :
    loop.step.state.state = .terminated (.ended (.childExited c)) := by
  cases hstate : loop.state with
  | terminated t =>
    -- the loop has ended with the status, and does nothing more
    obtain ⟨ending, rfl, hending⟩ := h t hstate session hs
    rw [step_of_terminated hstate]
    rw [Ending.eq_childExited (hending.symm.trans hexit)] at hstate
    exact hstate
  | running =>
    obtain ⟨live, r, hlive, hafter, hverdict⟩ := step_verdict hstate hs hok
    -- the status is still remembered after the step, so the verdict is about it
    have hholds : loop.Holds fun live => live.session.exit = some c := by
      intro session' hs'
      rw [hs] at hs'
      obtain rfl := Option.some.inj hs'
      exact hexit
    have hkept : live.session.exit = some c :=
      hholds.step (fun _ _ he h => he.exit h) live.session hlive
    rw [hverdict.exit_eq] at hkept
    obtain ⟨ending, rfl, hending⟩ := Option.bind_eq_some_iff.1 hkept
    rw [hafter, Ending.eq_childExited hending]
    rfl

/-- **A loop ends with its output** only in a step in which the output has ended, without a status.
-/
theorem endedSince_of_endOfStream {session : Session (Recorded π)} (hrun : loop.state = .running)
    (hs : loop.session = some session)
    (hended : loop.step.state.state = .terminated (.ended .endOfStream)) :
    ∃ session', loop.step.state.session = some session' ∧ session'.exit = none ∧
      ∃ new, session'.exchanges = session.exchanges ++ new ∧ ∃ x ∈ new, x.EndsOutput := by
  cases hok : loop.step.result with
  | error e =>
    rw [(running_of_error hok).1] at hended
    cases hended
  | ok _ =>
    obtain ⟨live, r, hlive, hafter, hverdict⟩ := step_verdict hrun hs hok
    rw [hafter] at hended
    cases r with
    | none => cases hended
    | some ending =>
      cases hended
      exact ⟨live.session, hlive, hverdict.1, hverdict.2⟩

end Loop

/-! ### Along a run -/

variable {δ ε κ π : Type} [Display δ] [OutputDecoder ε] [Master π] [KeySource κ]

namespace Outset

variable (o : Outset δ ε κ π)

theorem concluded_run (turns : List (Turn δ κ π)) : (o.run turns).Concluded := by
  induction turns using List.reverseRecOn with
  | nil => exact Loop.concluded_start rfl rfl
  | append_singleton turns turn ih =>
    rw [run_append]
    cases turn with
    | step => exact ih.step
    | world display keys master =>
      -- the world changes neither the state nor what the session remembers
      intro t hended session hs
      obtain ⟨s, hs', rfl⟩ := Option.map_eq_some_iff.1 hs
      exact ih t hended s hs'

omit [Display δ] in
/-- A status that was seen stays. -/
theorem kept_exit (c : ChildExit) :
    Kept fun live : Live δ ε (RecordedKeys κ) (Recorded π) => live.session.exit = some c where
  effect _ _ he h := he.exit h
  world _ _ _ _ _ h := h

end Outset

/-- A status is seen in a check for it. -/
theorem Exchange.eq_tryWait {x : Exchange} {c : ChildExit} (h : x.status? = some c) :
    x = .tryWait (.ok (some c)) := by
  cases x with
  | tryWait answer =>
    cases answer with
    | ok status => exact congrArg (fun status => Exchange.tryWait (.ok status)) h
    | error e => cases h
  | resize size answer => cases h
  | waitReadable milliseconds answer => cases h
  | read answer => cases h
  | write offered answer => cases h

namespace Session

variable {s : Session (Recorded π)} {c : ChildExit}

omit [Master π] in
/-- The status in the record of a session is the one that it remembers. -/
theorem Remembers.exit_of_mem (h : s.Remembers) (hc : .tryWait (.ok (some c)) ∈ s.exchanges) :
    s.exit = some c := by
  have hmem : c ∈ s.statuses := List.mem_filterMap.2 ⟨_, hc, rfl⟩
  rw [h] at hmem
  exact Option.mem_toList.1 hmem

omit [Master π] in
/-- The status that a session remembers is in its record. -/
theorem Remembers.mem_of_exit (h : s.Remembers) (hexit : s.exit = some c) :
    .tryWait (.ok (some c)) ∈ s.exchanges := by
  have hmem : c ∈ s.statuses := by
    rw [h, hexit]
    exact List.mem_singleton_self c
  obtain ⟨x, hx, hstatus⟩ := List.mem_filterMap.1 hmem
  exact x.eq_tryWait hstatus ▸ hx

end Session

/-- **How a run ends**, seen at one of its times, in the steps that may follow. -/
structure EndsSoundly (o : Outset δ ε κ π) (turns : List (Turn δ κ π)) : Prop where
  /-- A step that fails leaves the loop running, with its session. -/
  failed : ∀ e, (o.run turns).step.result = .error e →
    (o.run turns).step.state.state = .running ∧
      ∃ session, (o.run turns).step.state.session = some session
  /-- Once a status was seen, every step that goes through ends the run with it. -/
  exited : ∀ c, .tryWait (.ok (some c)) ∈ (o.run turns).exchanges →
    ∀ more, (o.run (turns ++ more)).step.result = .ok () →
      (o.run (turns ++ more)).step.state.state = .terminated (.ended (.childExited c))
  /-- The run ends with its output only in a step in which the output has ended, and without a
  status. -/
  unheard : (o.run turns).state = .running →
    (o.run turns).step.state.state = .terminated (.ended .endOfStream) →
      (∃ new, (o.run turns).step.state.exchanges = (o.run turns).exchanges ++ new ∧
        ∃ x ∈ new, x.EndsOutput) ∧
      ∀ c, .tryWait (.ok (some c)) ∉ (o.run turns).step.state.exchanges
  /-- After the end a step changes nothing and reports nothing. -/
  ended : ∀ t, (o.run turns).state = .terminated t → (o.run turns).step = ⟨.ok (), o.run turns, []⟩

namespace Outset

variable {o : Outset δ ε κ π} {turns : List (Turn δ κ π)}

/-- A status in the record is remembered from then on. -/
theorem exit_of_mem {c : ChildExit} (hc : .tryWait (.ok (some c)) ∈ (o.run turns).exchanges)
    (more : List (Turn δ κ π)) :
    ∃ session, (o.run (turns ++ more)).session = some session ∧ session.exit = some c := by
  cases hs : (o.run turns).session with
  | none =>
    -- without a session the record is empty
    rw [Loop.exchanges_of_none hs] at hc
    cases hc
  | some s =>
    rw [Loop.exchanges_of_session hs] at hc
    have hexit : (o.run turns).Holds fun live => live.session.exit = some c := by
      intro session hsession
      rw [hs] at hsession
      obtain rfl := Option.some.inj hsession
      exact (o.remembers_run turns s hs).exit_of_mem hc
    -- the run has its session from the start on
    have hspawns : o.Spawns := by
      unfold Spawns
      rw [← isSome_session_run o turns, hs]
      rfl
    obtain ⟨session, hsession⟩ := hspawns.session (turns ++ more)
    exact ⟨session, hsession, (kept_exit c).holds_append hexit more session hsession⟩

/-- A run that has ended with a status has it in its record. -/
theorem mem_of_childExited {c : ChildExit} {session : Session (Recorded π)}
    (hs : (o.run turns).session = some session)
    (h : (o.run turns).state = .terminated (.ended (.childExited c))) :
    .tryWait (.ok (some c)) ∈ (o.run turns).exchanges := by
  obtain ⟨ending, hending, hexit⟩ := o.concluded_run turns _ h session hs
  cases hending
  rw [Loop.exchanges_of_session hs]
  exact (o.remembers_run turns session hs).mem_of_exit hexit

end Outset

/-- **Every run ends soundly**: the exit status survives every failure, and the end is final. -/
theorem ends_soundly (o : Outset δ ε κ π) (turns : List (Turn δ κ π)) : EndsSoundly o turns := by
  constructor
  · intro e he
    exact Loop.running_of_error he
  · intro c hc more hok
    obtain ⟨session, hs, hexit⟩ := Outset.exit_of_mem hc more
    exact Loop.childExited_of_exit (o.concluded_run _) hs hexit hok
  · intro hrun hended
    cases hs : (o.run turns).session with
    | none =>
      rw [Loop.step_of_session_none hs] at hended
      cases hrun.symm.trans hended
    | some session =>
      obtain ⟨session', hs', hexit, hnew⟩ := Loop.endedSince_of_endOfStream hrun hs hended
      -- the run with the step is a run, so its session remembers a status in the record
      have hremembers := o.remembers_run (turns ++ [.step]) session'
      rw [Outset.run_append] at hremembers
      rw [Loop.exchanges_of_session hs', Loop.exchanges_of_session hs]
      refine ⟨hnew, ?_⟩
      intro c hc
      cases hexit.symm.trans ((hremembers hs').exit_of_mem hc)
  · intro t ht
    exact Loop.step_of_terminated ht

end FramedShell
