import FramedShell.Proofs.Conversation

/-!
# The child's output is decoded once and in order

Every chunk of output that the master returns goes to the engine in the same effect in which it is
read, so what the engine was fed are the chunks of the record (`Live.FedAsRead`), also after a step
that failed in between. How much of the output a run takes is decided by its last step:
`output_conserved` says what that step has read when it ends the run, by whether it was the output
that had ended.

## Main definitions

* `Outset.recording` — the circumstances with a recorded engine;
* `Live.FedAsRead` — the engine was fed what was read;
* `LastStep` — what the step exchanges that ends a run.
-/

namespace FramedShell

open Exchange

/-- The chunk of output in an exchange. -/
def Exchange.chunk? : Exchange → Option (List UInt8)
  | .read (.ok (.data bytes)) => some bytes
  | .read (.ok .empty) => none
  | .read (.ok .endOfStream) => none
  | .read (.error _) => none
  | .resize _ _ => none
  | .waitReadable _ _ => none
  | .write _ _ => none
  | .tryWait _ => none

/-- A reading without output holds no chunk. -/
theorem Exchange.chunk?_read_of_none {answer : Except PtyError ReadOutcome}
    (h : ∀ bytes, answer ≠ .ok (.data bytes)) : chunk? (.read answer) = none := by
  cases answer with
  | error e => rfl
  | ok outcome =>
    cases outcome with
    | data bytes => exact absurd rfl (h bytes)
    | empty => rfl
    | endOfStream => rfl

variable {δ ε κ π : Type}

/-- The circumstances with a recorded engine. -/
def Outset.recording (o : Outset δ ε κ π) : Outset δ (RecordedEngine ε) κ π :=
  ⟨o.display, o.keys, ⟨o.engine, [], []⟩, o.measures, o.theme, o.pollInterval, o.spawn⟩

/-! ### What the engine was fed -/

namespace Live

/-- **The engine was fed what was read**, chunk by chunk. -/
def FedAsRead (live : Live δ (RecordedEngine ε) κ (Recorded π)) : Prop :=
  live.stage.engine.fed = live.session.picked chunk?

/-- The engine was fed nothing, and no chunk was read. -/
theorem FedAsRead.of_same {live live' : Live δ (RecordedEngine ε) κ (Recorded π)}
    (h : live.FedAsRead) (hfed : live'.stage.engine.fed = live.stage.engine.fed)
    (hread : live'.session.picked chunk? = live.session.picked chunk?) : live'.FedAsRead :=
  hfed.trans (h.trans hread.symm)

variable [OutputDecoder ε] [Master π]

/-- Following the display gives the engine at most a size. -/
theorem fed_relayed (size : Size) (live : Live δ (RecordedEngine ε) κ π) :
    (relayed size live).stage.engine.fed = live.stage.engine.fed := by
  obtain he | ⟨grid, he⟩ := engine_relayed size live
  · rw [he]
  · rw [he]
    rfl

variable [KeySource κ] {live live' : Live δ (RecordedEngine ε) κ (Recorded π)}

/-- **Every effect keeps the engine fed with what was read.** -/
theorem Effect.fedAsRead (he : Effect live live') (h : live.FedAsRead) : live'.FedAsRead := by
  cases he with
  | noted => exact h
  | displayed => exact h
  | relayed size =>
    refine h.of_same (fed_relayed size live) ?_
    obtain hs | ⟨window, hs⟩ := session_relayed size live <;> rw [hs]
    exact Session.picked_of_append_other (Session.exchanges_setSize _ window) rfl
  | idled => exact h
  | typed key => exact h.of_same rfl (Session.picked_write _ (fun _ _ => rfl) _)
  | flushed => exact h.of_same rfl (Session.picked_flushPending _ fun _ _ => rfl)
  | awaited ms =>
    exact h.of_same rfl (Session.picked_of_append_other (Session.exchanges_waitReadable _ ms) rfl)
  | unheard hnone =>
    exact h.of_same rfl
      (Session.picked_of_append_other (Session.exchanges_read _) (chunk?_read_of_none hnone))
  | heard bytes hdata =>
    -- the one effect that feeds the engine feeds it what it has read
    have hread := Session.exchanges_read live.session
    rw [hdata] at hread
    unfold FedAsRead at h ⊢
    exact (congrArg (· ++ [bytes]) h).trans (Session.picked_of_append hread).symm
  | watched => exact h.of_same rfl (Session.picked_pollExit _ fun _ => rfl)

end Live

variable [OutputDecoder ε] [KeySource κ] [Master π]

namespace Outset

theorem fedAsRead_invariant (o : Outset δ ε κ π) :
    o.recording.Invariant fun live => live.FedAsRead where
  opened display size master notices := by
    -- nothing was read or fed when the window gets its first size
    have hnew : (Session.mk ⟨master, []⟩ (Loop.firstWindow o.measures size) none []
        : Session (Recorded π)).picked chunk? = [] := rfl
    have hfirst : (o.recording.firstParts display size master notices).FedAsRead :=
      ((Session.picked_of_append_other (Session.exchanges_setSize _ _) rfl).trans hnew).symm
    exact Live.Effect.fedAsRead (.relayed _ size) hfirst
  effect _ _ he h := he.fedAsRead h
  world _ _ _ _ _ h := h

variable [Display δ]

/-- **What the engine was fed is what the run has read**, after every turn. -/
theorem fed_run (o : Outset δ ε κ π) (turns : List (Turn δ κ π)) :
    (o.recording.run turns).stage.engine.fed
      = (o.recording.run turns).exchanges.filterMap chunk? := by
  cases hs : (o.recording.run turns).session with
  | none =>
    -- without a session nothing is read, and the engine is left alone
    rw [Loop.exchanges_of_none hs]
    have hworld (display : δ → δ) (keys : κ → κ)
        (stage : Stage δ (RecordedEngine ε) (RecordedKeys κ)) (h : stage.engine.fed = []) :
        (stage.stir display keys).engine.fed = [] := h
    exact stage_run_of_none (fun _ => rfl) hworld hs
  | some session =>
    rw [Loop.exchanges_of_session hs]
    exact o.fedAsRead_invariant.holds turns session hs

end Outset

/-! ### The last step -/

/-- **What the last step exchanges**, after an older record, when it ends the run. -/
structure LastStep (older new : List Exchange) (ending : Ending)
    (answer : Except PtyError ReadOutcome) : Prop where
  /-- The step hears the answer first. -/
  heard_eq : heardIn new = some answer
  /-- If the output has not ended, the step ends the run by the exit check: the status was seen
  before, and then the step reads until there is no chunk or the limit is reached. -/
  checked : ¬ (Exchange.read answer).EndsOutput →
    ∃ exit earlier drained, ending = .childExited exit ∧ new = earlier ++ drained ∧
      .tryWait (.ok (some exit)) ∈ older ++ earlier ∧ Drained Live.drainLimit drained
  /-- If the output has ended, the step has read no chunk. -/
  broken : (Exchange.read answer).EndsOutput → ∀ bytes, ofChunk bytes ∉ new

/-- **A conversation that ends the run is that of a last step**, if the status of the ending is in
the record after it. -/
theorem Conversation.lastStep {older new : List Exchange} {ending : Ending}
    (h : Conversation (some ending) new)
    (hseen : ∀ exit, ending = .childExited exit → .tryWait (.ok (some exit)) ∈ older ++ new) :
    ∃ answer, LastStep older new ending answer := by
  cases h with
  | goesOn hoffers hheard hopen hsent hparted =>
    cases hparted with
    | exits exit hwatched hdrained =>
      rename_i answer offers heard sent watched drained
      -- the output has not ended: the step went on to the exit check, and read on after it
      refine ⟨answer, hheard.heardIn hoffers _, fun _ => ?_, fun hends => absurd hends hopen⟩
      have hnew : offers ++ (heard ++ (sent ++ (watched ++ drained)))
          = (offers ++ (heard ++ (sent ++ watched))) ++ drained := by
        simp only [List.append_assoc]
      refine ⟨exit, _, drained, rfl, hnew, ?_, hdrained⟩
      -- the status is in the record, and not in what was read after the check
      have hmem := hseen exit rfl
      rw [hnew, ← List.append_assoc] at hmem
      rcases List.mem_append.1 hmem with hmem | hmem
      · exact hmem
      · cases hdrained.allOf _ hmem
  | breaksOff ending hoffers hheard hends hwatched =>
    rename_i answer offers heard watched
    refine ⟨answer, hheard.heardIn hoffers _, fun hopen => absurd hends hopen, fun _ bytes => ?_⟩
    -- the output has ended: no part of the exchanges holds a chunk
    intro hmem
    rcases List.mem_append.1 hmem with hmem | hmem
    · exact hoffers.chunk_not_mem (by decide) bytes hmem
    · rcases List.mem_append.1 hmem with hmem | hmem
      · exact hheard.chunk_not_mem hends bytes hmem
      · exact hwatched.chunk_not_mem (by decide) bytes hmem

variable [Display δ]

/-- A step that ends a run goes through, and has a conversation. -/
theorem Loop.conversation_of_ended {loop : Loop δ ε κ (Recorded π)} {ending : Ending}
    (hrun : loop.state = .running) (hended : loop.step.state.state = .terminated (.ended ending)) :
    (∃ session, loop.step.state.session = some session) ∧
      ∃ new, loop.step.state.exchanges = loop.exchanges ++ new ∧
        Conversation (some ending) new := by
  cases hs : loop.session with
  | none =>
    -- without a session a step leaves the run going
    rw [step_of_session_none hs] at hended
    cases hrun.symm.trans hended
  | some session =>
    cases hok : loop.step.result with
    | error e =>
      -- a step that fails leaves the run going as well
      rw [(running_of_error hok).1] at hended
      cases hended
    | ok _ =>
      obtain ⟨r, new, hafter, hnew, hconversation⟩ := step_conversation hrun hs hok
      rw [hafter] at hended
      cases r with
      | none => cases hended
      | some ending =>
        cases hended
        refine ⟨Option.isSome_iff_exists.1 ?_, new, ?_, hconversation⟩
        · rw [isSome_session_step, hs]
          rfl
        · rw [exchanges_of_session hs]
          exact hnew

/-- **The child's output is conserved**, seen at one of the times of a run. -/
structure OutputConserved (o : Outset δ ε κ π) (turns : List (Turn δ κ π)) : Prop where
  /-- What the engine was fed is what the master has returned, chunk by chunk. -/
  fed_eq : (o.recording.run turns).stage.engine.fed
    = (o.recording.run turns).exchanges.filterMap chunk?
  /-- A step that ends the run with the child or its output is a last step, and the engine is fed
  what is read in it. -/
  ended : (o.recording.run turns).state = .running →
    ∀ ending, (o.recording.run turns).step.state.state = .terminated (.ended ending) →
      ∃ new answer,
        (o.recording.run turns).step.state.exchanges
          = (o.recording.run turns).exchanges ++ new ∧
        (o.recording.run turns).step.state.stage.engine.fed
          = (o.recording.run turns).stage.engine.fed ++ new.filterMap chunk? ∧
        LastStep (o.recording.run turns).exchanges new ending answer

/-- **Child output is fed to the engine exactly once and in order**, after the start and after every
turn of every run, and the step that ends the run leaves no output unread but what is beyond the
limit of the last reading. -/
theorem output_conserved (o : Outset δ ε κ π) (turns : List (Turn δ κ π)) :
    OutputConserved o turns := by
  refine ⟨o.fed_run turns, ?_⟩
  intro hrun ending hended
  obtain ⟨⟨session, hs⟩, new, hnew, hconversation⟩ := Loop.conversation_of_ended hrun hended
  -- the run with the step is a run
  have hstep : o.recording.run (turns ++ [.step]) = (o.recording.run turns).step.state :=
    Outset.run_append turns [.step]
  have hfed := o.fed_run (turns ++ [.step])
  rw [hstep, hnew, List.filterMap_append, ← o.fed_run turns] at hfed
  have hseen (exit : ChildExit) (hexit : ending = .childExited exit) :
      .tryWait (.ok (some exit)) ∈ (o.recording.run turns).exchanges ++ new := by
    rw [← hnew, ← hstep]
    refine Outset.mem_of_childExited (hstep ▸ hs) ?_
    rw [hstep, hended, hexit]
  obtain ⟨answer, hlast⟩ := hconversation.lastStep hseen
  exact ⟨new, answer, hnew, hfed, hlast⟩

end FramedShell
