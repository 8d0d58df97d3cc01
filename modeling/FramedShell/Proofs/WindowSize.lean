import FramedShell.Proofs.Run

/-!
# One window size

The size of the child's window is kept three times: by the session, by the relay, and by the grid of
the engine. Along every run the three agree, whatever the display does, whatever the child answers
to a change of its window, and wherever a step fails.

They also agree with the viewport, unless its size was offered to the child and refused. Nothing but
the record tells whether it was: a refusal leaves all three alone.

## Main definitions

* `Session.lastOffer` — the last change of the window that was asked of the child since the run
  began;
* `WindowsAgree` — the property of a stage and a session that every run keeps.
-/

namespace FramedShell

/-! ### Changes of the window in the record -/

/-- The window size that was asked for in an exchange, and the answer. -/
def Exchange.offer? : Exchange → Option (Size × Except PtyError Unit)
  | .resize size answer => some (size, answer)
  | .waitReadable _ _ => none
  | .read _ => none
  | .write _ _ => none
  | .tryWait _ => none

namespace Session

variable {π : Type} [Master π] (s : Session (Recorded π))

/-- The window sizes that the child was offered, with its answers, oldest first. -/
def offers {π : Type} (s : Session (Recorded π)) : List (Size × Except PtyError Unit) :=
  s.picked Exchange.offer?

/-- **The last change of the window** that the child was asked for. The first offer is no change:
the child was spawned with that size. -/
def lastOffer {π : Type} (s : Session (Recorded π)) : Option (Size × Except PtyError Unit) :=
  (s.offers.drop 1).getLast?

theorem offers_setSize (size : Size) :
    (s.setSize size).state.offers = s.offers ++ [(size, (s.setSize size).result)] :=
  picked_of_append (exchanges_setSize s size)

theorem offers_waitReadable (milliseconds : Nat) :
    (s.waitReadable milliseconds).state.offers = s.offers :=
  picked_of_append_other (exchanges_waitReadable s milliseconds) rfl

theorem offers_read : s.read.state.offers = s.offers :=
  picked_of_append_other (exchanges_read s) rfl

theorem offers_flushPending : s.flushPending.state.offers = s.offers :=
  picked_flushPending s fun _ _ => rfl

theorem offers_write (bytes : List UInt8) : (s.write bytes).state.offers = s.offers :=
  picked_write s (fun _ _ => rfl) bytes

theorem offers_pollExit : s.pollExit.state.offers = s.offers :=
  picked_pollExit s fun _ => rfl

theorem size_setSize_of_ok {size : Size} (h : (s.setSize size).result = .ok ()) :
    (s.setSize size).state.size = size := by
  unfold setSize at h ⊢
  -- the size is remembered where it was accepted
  split <;> rename_i hm
  · rfl
  · rw [hm] at h
    cases h

theorem size_setSize_of_error {size : Size} {e : PtyError}
    (h : (s.setSize size).result = .error e) : (s.setSize size).state.size = s.size := by
  unfold setSize at h ⊢
  split <;> rename_i hm
  · rw [hm] at h
    cases h
  · rfl

/-- An offer after the first one is a change. -/
theorem lastOffer_setSize (h : s.offers ≠ []) (size : Size) :
    (s.setSize size).state.lastOffer = some (size, (s.setSize size).result) := by
  unfold lastOffer
  -- the first offer is dropped, and there was one before this
  rw [offers_setSize, List.drop_append_of_le_length (List.length_pos_iff.2 h), List.getLast?_concat]

end Session

/-! ### Sizes with cells -/

/-- A size with cells is not raised. -/
theorem Size.atLeastOne_of_pos {size : Size} (hr : 1 ≤ size.rows.toNat) (hc : 1 ≤ size.cols.toNat) :
    size.atLeastOne = size := by
  have hrows : size.rows ≠ 0 := by
    rintro h
    rw [h] at hr
    exact absurd hr (by decide)
  have hcols : size.cols ≠ 0 := by
    -- neither of the two is zero, so neither is raised
    rintro h
    rw [h] at hc
    exact absurd hc (by decide)
  unfold atLeastOne
  rw [if_neg hrows, if_neg hcols]

/-- A grid that was given a size has it, with each dimension at least one. -/
theorem Engine.gridSize_resize {engine : Engine} {size grid : Size}
    (h : (engine.resize size).1.gridSize = some grid) : grid = size.atLeastOne := by
  cases engine with
  | off => cases h
  | emulator t =>
    unfold Engine.resize at h
    dsimp only at h
    split at h
    · -- the grid has the size already
      rename_i ht
      exact (Option.some.inj h).symm.trans ht
    · -- the grid is given the size, with what is missing of it raised to one
      exact (Option.some.inj h).symm

/-- Reading bytes leaves the size of the grid alone. -/
theorem Engine.gridSize_feed (bytes : List UInt8) (engine : Engine) :
    (engine.feed bytes).gridSize = engine.gridSize := by
  cases engine <;> rfl

/-! ### The agreement -/

variable {δ κ π : Type}

/-- **Session, relay and engine agree on the window size**, and it has cells. -/
structure WindowsAgree (stage : Stage δ Engine κ) (session : Session π) : Prop where
  /-- The relay knows the size that the session was told. -/
  accepted_eq : stage.relay.accepted = session.size
  /-- The grid, if there is one, has that size. -/
  grid_eq : ∀ grid, stage.engine.gridSize = some grid → grid = session.size
  rows_pos : 1 ≤ session.size.rows.toNat
  cols_pos : 1 ≤ session.size.cols.toNat

/-- **What a run keeps**: the agreement, and in the record the reason why a viewport has another
size. -/
structure WindowsTraced (stage : Stage δ Engine κ) (session : Session (Recorded π)) : Prop
    extends WindowsAgree stage session where
  /-- The start has made its offer. -/
  offered : session.offers ≠ []
  /-- A refused size is not the session's. -/
  refused : ∀ size e, session.lastOffer = some (size, .error e) → session.size ≠ size
  /-- A viewport of another size was refused. -/
  unserved : ∀ layout viewport, stage.layout = some layout → layout.viewportSize = some viewport →
    session.size ≠ viewport → ∃ e, session.lastOffer = some (viewport, .error e)

namespace WindowsTraced

variable {stage stage' : Stage δ Engine κ} {session session' : Session (Recorded π)}

/-- The viewport has the size of the window exactly if the last change was not a refused one to it.
-/
theorem shown_iff (h : WindowsTraced stage session) {layout : Layout} {viewport : Size}
    (hl : stage.layout = some layout) (hv : layout.viewportSize = some viewport) :
    session.size = viewport ↔ ∀ e, session.lastOffer ≠ some (viewport, .error e) := by
  constructor
  · -- the last offer would be the refusal of a size that is not the session's
    intro heq e he
    exact h.refused viewport e he heq
  · intro hnot
    -- a viewport of another size has a refusal to show for it
    by_contra hne
    obtain ⟨e, he⟩ := h.unserved layout viewport hl hv hne
    exact hnot e he

/-- It is about the window only. -/
theorem of_same (h : WindowsTraced stage session) (hrelay : stage'.relay = stage.relay)
    (hlayout : stage'.layout = stage.layout)
    (hgrid : stage'.engine.gridSize = stage.engine.gridSize)
    (hsize : session'.size = session.size) (hoffers : session'.offers = session.offers) :
    WindowsTraced stage' session' := by
  have hlast : session'.lastOffer = session.lastOffer := by
    unfold Session.lastOffer
    rw [hoffers]
  obtain ⟨⟨h₁, h₂, h₃, h₄⟩, h₅, h₆, h₇⟩ := h
  -- each clause speaks of the parts that are the same in both
  refine ⟨⟨?_, ?_, ?_, ?_⟩, ?_, ?_, ?_⟩ <;>
    simp only [hrelay, hlayout, hgrid, hsize, hoffers, hlast] <;> assumption

variable [Master π] {l : Layout}

/-- **An accepted offer keeps it**: session, relay and engine take the size of the viewport. -/
theorem of_accepted (h : WindowsTraced stage session) {v : Size} (hv : l.viewportSize = some v)
    (hpos : 1 ≤ v.rows.toNat ∧ 1 ≤ v.cols.toNat) (hok : (session.setSize v).result = .ok ())
    (size : Size) :
    WindowsTraced
      { stage with
        size := size
        layout := some l
        relay := ⟨stage.relay.measures, v, some l⟩
        engine := (stage.engine.resize v).1 }
      (session.setSize v).state := by
  have hsize := Session.size_setSize_of_ok session hok
  have hlast := Session.lastOffer_setSize session h.offered v
  rw [hok] at hlast
  refine ⟨⟨hsize.symm, ?_, hsize.symm ▸ hpos.1, hsize.symm ▸ hpos.2⟩, ?_, ?_, ?_⟩
  · -- the grid was resized to the viewport, which has cells
    intro grid hg
    rw [Engine.gridSize_resize hg, Size.atLeastOne_of_pos hpos.1 hpos.2, hsize]
  · rw [Session.offers_setSize]
    exact List.append_ne_nil_of_left_ne_nil h.offered _
  · -- the last offer was not refused
    intro size e he
    rw [hlast] at he
    cases he
  · -- the viewport is the one of the accepted size
    intro layout viewport hs hv' hne'
    obtain rfl := Option.some.inj hs
    rw [hv] at hv'
    exact absurd (hsize.trans (Option.some.inj hv')) hne'

/-- **A refused offer keeps it**: all sizes stay, and the refusal is the last offer in the record. -/
theorem of_refused (h : WindowsTraced stage session) {v : Size} (hv : l.viewportSize = some v)
    (hne : v ≠ stage.relay.accepted) {e : PtyError} (herr : (session.setSize v).result = .error e)
    (size : Size) :
    WindowsTraced
      { stage with
        size := size
        layout := some l
        relay := { stage.relay with lastLayout := some l } }
      (session.setSize v).state := by
  have hsize := Session.size_setSize_of_error session herr
  have hlast := Session.lastOffer_setSize session h.offered v
  rw [herr] at hlast
  refine ⟨⟨?_, ?_, hsize.symm ▸ h.rows_pos, hsize.symm ▸ h.cols_pos⟩, ?_, ?_, ?_⟩
  · exact h.accepted_eq.trans hsize.symm
  · -- the grid was not resized
    intro grid hg
    exact (h.grid_eq grid hg).trans hsize.symm
  · rw [Session.offers_setSize]
    exact List.append_ne_nil_of_left_ne_nil h.offered _
  · intro size e' he
    obtain ⟨rfl, -⟩ := Prod.mk.inj (Option.some.inj (hlast.symm.trans he))
    -- the relay offers no size that is the accepted one
    intro heq
    exact hne (heq.symm.trans (hsize.trans h.accepted_eq.symm))
  · -- the viewport has another size, and the refusal is on record
    intro layout viewport hs hv' _
    obtain rfl := Option.some.inj hs
    rw [hv] at hv'
    obtain rfl := Option.some.inj hv'
    exact ⟨e, hlast⟩

/-- **Passing a layout on keeps it**, whichever of the four outcomes there is. -/
theorem follow (h : WindowsTraced stage session)
    (hl : ∀ v, l.viewportSize = some v → 1 ≤ v.rows.toNat ∧ 1 ≤ v.cols.toNat)
    {relay' : SizeRelay} {engine' : Engine}
    (ho : stage.relay.Outcome l session stage.engine relay' session' engine') (size : Size) :
    WindowsTraced { stage with size := size, layout := some l, relay := relay', engine := engine' }
      session' := by
  cases ho with
  | unplaced hnone =>
    -- nothing is offered, and there is no viewport to disagree with
    refine { h with unserved := ?_ }
    intro layout viewport hs hv
    obtain rfl := Option.some.inj hs
    rw [hnone] at hv
    cases hv
  | settled hsome =>
    refine { h with unserved := ?_ }
    intro layout viewport hs hv hne
    obtain rfl := Option.some.inj hs
    rw [hsome] at hv
    -- the viewport has the accepted size, which is the session's
    exact absurd (h.accepted_eq.symm.trans (Option.some.inj hv)) hne
  -- the two outcomes with an offer
  | accepted v hv hne hok => exact h.of_accepted hv (hl v hv) hok size
  | refused v e hv hne herr => exact h.of_refused hv hne herr size

/-- **Every effect keeps it.** -/
theorem effect [KeySource κ] {live live' : Live δ Engine κ (Recorded π)}
    (he : Live.Effect live live') (h : WindowsTraced live.stage live.session) :
    WindowsTraced live'.stage live'.session := by
  cases he with
  | noted => exact h
  -- a change of the display, of the keys or of the reports is no matter of the window
  | displayed => exact h.of_same rfl rfl rfl rfl rfl
  -- only the relay passes sizes on
  | relayed size =>
    unfold Live.relayed
    dsimp only
    rw [SizeRelay.layout_follow]
    refine h.follow ?_ (live.stage.relay.follow_outcome size live.session live.stage.engine) size
    intro v hv
    exact Layout.viewportSize_pos hv
  | idled => exact h.of_same rfl rfl rfl rfl rfl
  | typed key => exact h.of_same rfl rfl rfl (Session.size_write _ _) (Session.offers_write _ _)
  | flushed =>
    exact h.of_same rfl rfl rfl (Session.size_flushPending _) (Session.offers_flushPending _)
  -- the other effects talk to the child of something else
  | awaited ms =>
    exact h.of_same rfl rfl rfl (Session.size_waitReadable _ ms) (Session.offers_waitReadable _ ms)
  | unheard => exact h.of_same rfl rfl rfl (Session.size_read _) (Session.offers_read _)
  | heard bytes =>
    -- the engine has read, and a read leaves the size of the grid alone
    exact h.of_same rfl rfl (Engine.gridSize_feed _ _) (Session.size_read _) (Session.offers_read _)
  | watched => exact h.of_same rfl rfl rfl (Session.size_pollExit _) (Session.offers_pollExit _)

end WindowsTraced

/-! ### Along a run -/

/-- The window of a new child has cells. -/
theorem Loop.firstWindow_pos (measures : Measures) (display : Size) :
    1 ≤ (Loop.firstWindow measures display).rows.toNat ∧
      1 ≤ (Loop.firstWindow measures display).cols.toNat := by
  unfold Loop.firstWindow
  cases hv : (Layout.of measures display).viewportSize with
  -- without a viewport the child begins with the smallest window
  | none => decide
  | some v => exact Layout.viewportSize_pos hv

namespace Outset

variable [Display δ] [KeySource κ] [Master π] (o : Outset δ Engine κ π)

omit [Display δ] [KeySource κ] in
/-- The session keeps the size that it was spawned with, whatever the child answers to the first
offer. -/
theorem windowsTraced_firstParts (display : δ) (size : Size) (master : π) (notices : List Notice) :
    WindowsTraced (o.firstParts display size master notices).stage
      (o.firstParts display size master notices).session := by
  have hpos := Loop.firstWindow_pos o.measures size
  generalize hw : Loop.firstWindow o.measures size = window at hpos
  unfold firstParts
  rw [hw]
  -- the first offer is of the size that the child was spawned with, so its answer is no matter
  let first : Session (Recorded π) := { master := ⟨master, []⟩, size := window }
  have hsize : (first.setSize window).state.size = window := by
    cases hr : (first.setSize window).result with
    | ok _ => exact first.size_setSize_of_ok hr
    | error e => exact first.size_setSize_of_error hr
  have hoffers : (first.setSize window).state.offers = [(window, (first.setSize window).result)] :=
    first.offers_setSize window
  have hlast : (first.setSize window).state.lastOffer = none := by
    unfold Session.lastOffer
    rw [hoffers]
    rfl
  change WindowsTraced _ (first.setSize window).state
  refine ⟨⟨hsize.symm, ?_, hsize.symm ▸ hpos.1, hsize.symm ▸ hpos.2⟩, ?_, ?_, ?_⟩
  · intro grid hg
    rw [Engine.gridSize_resize hg, Size.atLeastOne_of_pos hpos.1 hpos.2, hsize]
  · rw [hoffers]
    exact List.cons_ne_nil _ _
  · intro size' e he
    rw [hlast] at he
    cases he
  · -- no layout was taken up yet
    intro layout viewport hl
    cases hl

omit [Display δ] in
theorem windowsTraced_invariant :
    o.Invariant fun live => WindowsTraced live.stage live.session where
  opened display size master notices :=
    .effect (.relayed _ size) (o.windowsTraced_firstParts display size master notices)
  effect _ _ he h := h.effect he
  world _ _ _ _ _ h := h.of_same rfl rfl rfl rfl rfl

end Outset

/-- **The window size is one.** In every run that spawned its child, after the start and after every
turn, the session, the relay and the grid of the engine have the same size, with cells. It is the
size of the viewport, unless the last change that was asked of the child was one to that size and
was refused. -/
theorem windows_agree [Display δ] [KeySource κ] [Master π] (o : Outset δ Engine κ π) (h : o.Spawns)
    (turns : List (Turn δ κ π)) :
    ∃ session, (o.run turns).session = some session ∧
      WindowsAgree (o.run turns).stage session ∧
      ∀ viewport, (Layout.of o.measures (o.run turns).stage.size).viewportSize = some viewport →
        (session.size = viewport ↔ ∀ e, session.lastOffer ≠ some (viewport, .error e)) := by
  obtain ⟨session, hs⟩ := h.session turns
  have htraced := o.windowsTraced_invariant.holds turns session hs
  refine ⟨session, hs, htraced.toWindowsAgree, ?_⟩
  intro viewport hv
  exact htraced.shown_iff (o.takenUp_run turns session hs).layout_eq hv

/-- The rehearsed run on the usual display, after the display has become larger. -/
theorem windows_agree_rehearsal :
    (Outset.rehearsal ⟨24, 80⟩ []).Spawns ∧
      ∃ session,
        ((Outset.rehearsal ⟨24, 80⟩ []).run [.world (·.resize ⟨30, 100⟩) id id, .step]).session
          = some session ∧
        WindowsAgree
          ((Outset.rehearsal ⟨24, 80⟩ []).run [.world (·.resize ⟨30, 100⟩) id id, .step]).stage
          session ∧
        ∀ viewport, (Layout.of {} ((Outset.rehearsal ⟨24, 80⟩ []).run
            [.world (·.resize ⟨30, 100⟩) id id, .step]).stage.size).viewportSize = some viewport →
          (session.size = viewport ↔ ∀ e, session.lastOffer ≠ some (viewport, .error e)) :=
  ⟨Outset.spawns_rehearsal _ _, windows_agree _ (Outset.spawns_rehearsal _ _) _⟩

end FramedShell
