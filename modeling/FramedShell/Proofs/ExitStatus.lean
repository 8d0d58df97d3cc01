import FramedShell.Rehearsal.Run

/-!
# The exit status of the program

A child exits with an unsigned code of thirty-two bits, and the program with one byte. In between the
code is read as a signed number, which is then brought into the range of a byte. Codes up to the largest
byte pass through, and larger ones become the largest byte, so that a failing child is not taken for one
that succeeded. The codes of the upper half are the exception: as signed numbers they are negative, and
the range begins at zero, so they become the status of success.

## Main definitions

* `ChildExit.IsNegative` — exits whose code is negative as a signed number;
* `Reports` — what an exit status has to say about the end of a run, for all exits but some that are lost.

## Main results

* `toNat_clampStatus` — the range of a status, and `status_of_negative`, `toNat_status_of_not_negative`
  — what is left of a code;
* `status_reports` — exactly the negative codes are lost;
* `closing_status_eq_zero_iff` — when the whole program succeeds; a run that failed is no success.
-/

namespace FramedShell

/-! ### Codes as signed numbers -/

/-- **The code is negative** when its bits are read as a signed number. -/
def ChildExit.IsNegative (e : ChildExit) : Prop := 2147483648 ≤ e.code.toNat

instance (e : ChildExit) : Decidable e.IsNegative := inferInstanceAs (Decidable (_ ≤ _))

theorem ChildExit.success_iff {e : ChildExit} : e.success = true ↔ e.code.toNat = 0 := by
  unfold ChildExit.success
  rw [beq_iff_eq, ← UInt32.toNat_inj]
  exact Iff.rfl

/-- **The bits of a code as a signed number**: a code of the upper half is less by a whole turn. -/
theorem toInt_toInt32 (c : UInt32) :
    c.toInt32.toInt = if c.toNat < 2147483648 then (c.toNat : Int) else c.toNat - 4294967296 := by
  -- the half of the range that the bits lie in decides about the sign
  change c.toBitVec.toInt = _
  rw [BitVec.toInt_eq_toNat_cond]
  change (if 2 * c.toNat < 4294967296 then (c.toNat : Int) else c.toNat - 4294967296) = _
  by_cases h : c.toNat < 2147483648
  · rw [if_pos h, if_pos (by omega)]
  · rw [if_neg h, if_neg (by omega)]

namespace Termination

/-- **The range of a status**: negative codes are raised to zero, large ones cut to the largest byte. -/
theorem toNat_clampStatus (code : Int32) : (clampStatus code).toNat = min code.toInt.toNat 255 := by
  have hsize : min code.toInt.toNat 255 < UInt8.size :=
    Nat.lt_of_le_of_lt (Nat.min_le_right _ _) (by decide)
  exact UInt8.toNat_ofNat_of_lt' hsize

variable {exit : ChildExit}

/-- A code that is not negative is its own signed number. -/
theorem toNat_status_of_not_negative (h : ¬ exit.IsNegative) :
    (status (.ended (.childExited exit))).toNat = min exit.code.toNat 255 := by
  have hlt : exit.code.toNat < 2147483648 := Nat.lt_of_not_le h
  -- the upper half begins where the sign bit does
  have hcode : exit.code.toInt32.toInt.toNat = exit.code.toNat := by
    rw [toInt_toInt32, if_pos hlt, Int.toNat_natCast]
  calc (clampStatus exit.code.toInt32).toNat
      = min exit.code.toInt32.toInt.toNat 255 := toNat_clampStatus _
    _ = min exit.code.toNat 255 := by rw [hcode]

/-- **Nothing is left of a negative code.** -/
theorem status_of_negative (h : exit.IsNegative) : status (.ended (.childExited exit)) = 0 := by
  have hle : 2147483648 ≤ exit.code.toNat := h
  have hsize : exit.code.toNat < 4294967296 := exit.code.toNat_lt
  -- less a whole turn, the code is below zero and is raised to it
  have hcode : exit.code.toInt32.toInt.toNat = 0 := by
    rw [toInt_toInt32, if_neg (Nat.not_lt.2 hle)]
    exact Int.toNat_of_nonpos (by omega)
  apply UInt8.toNat_inj.1
  calc (clampStatus exit.code.toInt32).toNat
      = min exit.code.toInt32.toInt.toNat 255 := toNat_clampStatus _
    _ = 0 := by rw [hcode, Nat.zero_min]

/-- A child is reported as successful if it was, or if its code is negative. -/
theorem status_childExited_eq_zero_iff :
    status (.ended (.childExited exit)) = 0 ↔ exit.success = true ∨ exit.IsNegative := by
  -- a negative code has the status zero, and any other one keeps whether it is zero
  by_cases h : exit.IsNegative
  · exact iff_of_true (status_of_negative h) (.inr h)
  · rw [← UInt8.toNat_inj, toNat_status_of_not_negative h, ChildExit.success_iff, or_iff_left h]
    change min exit.code.toNat 255 = 0 ↔ exit.code.toNat = 0
    omega

end Termination

/-! ### The status of a run -/

/-- **What an exit status says about the end of a run**, with the exception of exits that are `lost`.

* Zero says that the output ended, or that the child succeeded; it also stands for what is lost.
* The code of a child is told as it is, or as the largest byte if it is larger.
* One says that the child could not be started. -/
structure Reports (lost : ChildExit → Prop) (t : Termination) (status : UInt8) : Prop where
  zero : status = 0 ↔ t = .ended .endOfStream ∨
    ∃ exit, t = .ended (.childExited exit) ∧ (exit.success = true ∨ lost exit)
  code : ∀ exit, t = .ended (.childExited exit) → ¬ lost exit →
    status.toNat = min exit.code.toNat 255
  unspawned : ∀ cause, t = .spawnFailed cause → status = 1

/-- The status of a run is that of its end, however it ended. -/
theorem Launch.status_reply (t : Termination) : (Launch.reply t).status = t.status := by
  cases t with
  | ended ending => rfl
  | spawnFailed cause => rfl

theorem reports_status (t : Termination) : Reports ChildExit.IsNegative t t.status where
  zero := by
    cases t with
    | ended ending =>
      cases ending with
      -- the child has ended, with a code of either sign
      | endOfStream => exact iff_of_true rfl (.inl rfl)
      | childExited exit =>
        rw [Termination.status_childExited_eq_zero_iff]
        constructor
        · intro h
          exact .inr ⟨exit, rfl, h⟩
        · rintro (h | ⟨exit', h, hexit⟩)
          · cases h
          · cases h
            exact hexit
    -- a child that was not spawned has the status one
    | spawnFailed cause =>
      refine iff_of_false (show (1 : UInt8) ≠ 0 by decide) ?_
      rintro (h | ⟨exit, h, -⟩) <;> cases h
  code := by
    rintro exit rfl h
    exact Termination.toNat_status_of_not_negative h
  unspawned := by
    rintro cause rfl
    rfl

/-- **The exit status of the program reports how its run ended**, except that negative codes are lost.
Without an exception this holds of the runs that did not end with a negative code, and of no others. -/
theorem status_reports (t : Termination) :
    Reports ChildExit.IsNegative t (Launch.reply t).status ∧
      (Reports (fun _ => False) t (Launch.reply t).status ↔
        ∀ exit, t = .ended (.childExited exit) → ¬ exit.IsNegative) := by
  rw [Launch.status_reply]
  have hreports := reports_status t
  refine ⟨hreports, ?_, ?_⟩
  · rintro h exit rfl hnegative
    -- the status is zero, and zero would stand for success
    obtain hend | ⟨exit', hexit, hsuccess | hlost⟩ := h.zero.1 (Termination.status_of_negative hnegative)
    · cases hend
    · cases hexit
      rw [ChildExit.success_iff] at hsuccess
      unfold ChildExit.IsNegative at hnegative
      omega
    · exact hlost
  · -- without negative codes the two exceptions except the same ends
    intro h
    refine ⟨?_, ?_, hreports.unspawned⟩
    · rw [hreports.zero]
      refine or_congr_right (exists_congr fun exit => and_congr_right fun hexit => ?_)
      exact or_congr_right (iff_false_intro (h exit hexit))
    · intro exit hexit _
      exact hreports.code exit hexit (h exit hexit)

/-- **A failing child may be reported as success**: the least code of the upper half is. -/
theorem status_reports_upperHalf :
    ¬ ∀ t, Reports (fun _ => False) t (Launch.reply t).status := by
  intro h
  have hlost := (h (.ended (.childExited ⟨2147483648⟩))).code ⟨2147483648⟩ rfl id
  exact absurd hlost (by decide)

/-! ### The status of the program -/

namespace Rehearsal.Run

/-- **The program succeeds** only if no step of its run failed and the run came to an end, and then only
with a child that did, or whose code is lost. -/
theorem closing_status_eq_zero_iff (r : Run) :
    r.closing.2.status = 0 ↔ r.fault = none ∧
      (r.loop.state = .terminated (.ended .endOfStream) ∨
        ∃ exit, r.loop.state = .terminated (.ended (.childExited exit)) ∧
          (exit.success = true ∨ exit.IsNegative)) := by
  unfold closing
  dsimp only
  cases hfault : r.fault with
  | some fault => exact iff_of_false (show (1 : UInt8) ≠ 0 by decide) fun h => absurd h.1 nofun
  | none =>
    cases hstate : r.loop.state with
    | running =>
      refine iff_of_false (by decide) ?_
      rintro ⟨-, h | ⟨exit, h, -⟩⟩ <;> cases h
    | terminated t =>
      change (Launch.reply t).status = 0 ↔ _
      rw [Launch.status_reply, (reports_status t).zero]
      simp only [RunState.terminated.injEq, true_and]

end Rehearsal.Run

end FramedShell
