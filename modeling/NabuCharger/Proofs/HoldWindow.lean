import NabuCharger.Ln8000.BatteryPolicy
import NabuCharger.Logic.Runs

/-!
# `Proofs.HoldWindow`: how long a hold outlives its arming

A hold is armed by its first run of positive ticks, and armed again by every positive tick that
follows another. Between the armings it stays up for the window. A negative tick looks whether
the window is over. A lone positive one does not: it leaves a held flag held, at any distance
from the last arming.

`boundedHold_iff` says that this is the only way out of the window. Its right side asks of every
lone positive tick what the negative ones are asked by the code.
-/

set_option autoImplicit false

namespace Ln8000

open Effectful

/-- One tick of a hold: the verdict of its sample, if it has one, and the time. -/
structure HoldTick where
  evidence : Option Bool
  nowMs : Nat

/-- A hold, with what its ticks have said: the last verdict, and the times it was armed at. -/
structure HoldWatch where
  hold : Hold
  lastVerdict : Option Bool
  armedMs : List Nat

namespace HoldWatch

/-- Before the first tick. -/
def cold (hold : Hold) : HoldWatch where
  hold := hold
  lastVerdict := none
  armedMs := []

/-- The hold after one more tick. -/
def after (holdMs : Nat) (w : HoldWatch) (tick : HoldTick) : Hold :=
  w.hold.updateEvidence tick.evidence tick.nowMs holdMs

/-- A positive tick arms the hold if the flag goes up with it, or if the verdict before it was
positive too. -/
def arms (holdMs : Nat) (w : HoldWatch) (tick : HoldTick) : Bool :=
  decide (tick.evidence = some true) &&
    (decide (w.lastVerdict = some true) || (!w.hold.held && (w.after holdMs tick).held))

/-- One tick. -/
def step (holdMs : Nat) (w : HoldWatch) (tick : HoldTick) : HoldWatch where
  hold := w.after holdMs tick
  lastVerdict := tick.evidence.or w.lastVerdict
  armedMs := if w.arms holdMs tick then tick.nowMs :: w.armedMs else w.armedMs

/-- If the tick has a verdict and leaves the flag up, the hold was armed less than the window
before it. -/
def Bounded (holdMs : Nat) (w : HoldWatch) (tick : HoldTick) : Prop :=
  tick.evidence.isSome = true → (w.after holdMs tick).held = true →
    ∃ armed ∈ (w.step holdMs tick).armedMs, tick.nowMs - armed < holdMs

/-- A positive tick finds a window it may leave in place: it is not the first of its run on a
held flag, or the window is still open. A window of no length is not opened at all. -/
def Fresh (holdMs : Nat) (w : HoldWatch) (tick : HoldTick) : Prop :=
  tick.evidence = some true →
    if w.hold.held = true ∧ w.hold.trueRun = 0 then tick.nowMs - w.hold.lastTrueMs < holdMs
    else 0 < holdMs ∨ (w.hold.held = false ∧ w.hold.trueRun + 1 < w.hold.frontRun)

/-! ### One tick -/

/-- What the ticks leave behind: the counter tells the last verdict, and the time in the hold is
the last time it was armed. -/
structure Coherent (w : HoldWatch) : Prop where
  verdict : w.lastVerdict = some true ↔ w.hold.trueRun ≠ 0
  frontRun_le : w.hold.frontRun ≤ holdArmRun
  armed_le : ∀ armed ∈ w.armedMs, armed ≤ w.hold.lastTrueMs
  armed : w.hold.held = true → w.hold.lastTrueMs ∈ w.armedMs

variable {holdMs : Nat} {w : HoldWatch} {tick : HoldTick}

/-- The run the hold asks of a positive tick. -/
def neededRun (w : HoldWatch) : Nat := if w.hold.held then holdArmRun else w.hold.frontRun

/-- A positive tick either raises the flag and refreshes it, or lengthens the run. -/
theorem after_of_positive (h : tick.evidence = some true) :
    w.after holdMs tick =
      if w.neededRun ≤ satAdd 32 w.hold.trueRun 1 then
        { w.hold with
          held := true
          lastTrueMs := tick.nowMs
          trueRun := satAdd 32 w.hold.trueRun 1 }
      else { w.hold with trueRun := satAdd 32 w.hold.trueRun 1 } := by
  rw [after, h, Hold.updateEvidence_some, Hold.update, if_pos rfl]
  rfl

/-- The hold is armed exactly by the positive ticks that complete the run it asks for. -/
theorem arms_iff (hw : w.Coherent) (h : tick.evidence = some true) :
    w.arms holdMs tick = true ↔ w.neededRun ≤ satAdd 32 w.hold.trueRun 1 := by
  have hfront := hw.frontRun_le
  simp only [holdArmRun] at hfront
  rw [arms, h, decide_eq_true rfl, Bool.true_and, Bool.or_eq_true, decide_eq_true_eq, hw.verdict,
    after_of_positive h]
  by_cases hrun : w.neededRun ≤ satAdd 32 w.hold.trueRun 1
  · rw [if_pos hrun]
    refine iff_of_true ?_ hrun
    cases hheld : w.hold.held with
    | false => exact Or.inr rfl
    | true =>
        refine Or.inl fun hzero => ?_
        simp only [neededRun, hheld, if_true, holdArmRun, hzero, satAdd, wordMax] at hrun
        omega
  · rw [if_neg hrun]
    refine iff_of_false ?_ hrun
    rintro (hstarted | hup)
    · -- a run that was started is completed by this tick
      refine hrun ?_
      simp only [neededRun, holdArmRun, satAdd, wordMax]
      split <;> omega
    · cases hheld : w.hold.held <;> simp [hheld] at hup

/-- A positive tick that does not arm is the first of its run. -/
theorem trueRun_eq_zero_of_not_arms (hw : w.Coherent) (h : tick.evidence = some true)
    (hnot : w.arms holdMs tick = false) :
    w.hold.trueRun = 0 ∧ ¬w.neededRun ≤ satAdd 32 w.hold.trueRun 1 := by
  have hrun : ¬w.neededRun ≤ satAdd 32 w.hold.trueRun 1 := fun hle =>
    Bool.false_ne_true (hnot.symm.trans ((arms_iff hw h).2 hle))
  refine ⟨?_, hrun⟩
  have hverdict : ¬w.lastVerdict = some true := by
    intro hlast
    rw [arms, h, hlast] at hnot
    simp at hnot
  exact not_not.1 (mt hw.verdict.2 hverdict)

/-- Only a positive tick arms the flag. -/
theorem arms_of_not_positive (h : tick.evidence ≠ some true) : w.arms holdMs tick = false := by
  rw [arms, decide_eq_false h, Bool.false_and]

/-- A tick keeps the counter and the time in step with the verdicts. -/
theorem Coherent.step (hw : w.Coherent) (hnow : w.hold.lastTrueMs ≤ tick.nowMs) :
    (w.step holdMs tick).Coherent := by
  -- no verdict leaves everything, a negative one may drop the flag, a positive one counts
  cases hevidence : tick.evidence with
  | none =>
      have hsame : w.step holdMs tick = w := by
        rw [HoldWatch.step, after, arms_of_not_positive (by rw [hevidence]; simp), hevidence]
        rfl
      rw [hsame]
      exact hw
  | some raw =>
      cases raw with
      | false =>
          have harms : w.arms holdMs tick = false :=
            arms_of_not_positive (by rw [hevidence]; simp)
          have hafter : w.after holdMs tick = { w.hold with
              held := w.hold.held && decide (tick.nowMs - w.hold.lastTrueMs < holdMs)
              trueRun := 0 } := by
            rw [after, hevidence, Hold.updateEvidence_some, Hold.update,
              if_neg Bool.false_ne_true]
            cases hup : (w.hold.held && decide (tick.nowMs - w.hold.lastTrueMs < holdMs)) with
            | false => rfl
            | true =>
                have hheld : w.hold.held = true := (Bool.and_eq_true_iff.1 hup).1
                rw [if_pos rfl, ← hheld]
          rw [HoldWatch.step, hafter, harms, hevidence]
          refine ⟨by simp, hw.frontRun_le, hw.armed_le, fun hup => hw.armed ?_⟩
          exact (Bool.and_eq_true_iff.1 hup).1
      | true =>
          have hcounted : satAdd 32 w.hold.trueRun 1 ≠ 0 := by
            simp only [satAdd, wordMax]
            omega
          -- a positive tick that arms notes its time; one that does not was already in a run
          cases harms : w.arms holdMs tick with
          | true =>
              rw [HoldWatch.step, harms, hevidence, after_of_positive hevidence,
                if_pos ((arms_iff hw hevidence).1 harms)]
              refine ⟨iff_of_true rfl hcounted, hw.frontRun_le, ?_, fun _ => List.mem_cons_self ..⟩
              intro armed hmem
              rcases List.mem_cons.1 hmem with rfl | hmem
              · exact le_rfl
              · exact (hw.armed_le armed hmem).trans hnow
          | false =>
              obtain ⟨-, hrun⟩ := trueRun_eq_zero_of_not_arms hw hevidence harms
              rw [HoldWatch.step, harms, hevidence, after_of_positive hevidence, if_neg hrun]
              exact ⟨iff_of_true rfl hcounted, hw.frontRun_le, hw.armed_le, hw.armed⟩

/-- The time of the last arming does not run ahead of the ticks. -/
theorem lastTrueMs_after (hnow : w.hold.lastTrueMs ≤ tick.nowMs) :
    (w.after holdMs tick).lastTrueMs ≤ tick.nowMs := by
  -- no evidence and a false sample leave the stamp
  cases hevidence : tick.evidence with
  | none =>
      rw [after, hevidence, Hold.updateEvidence_none]
      exact hnow
  | some raw =>
      cases raw with
      | false =>
          rw [after, hevidence, Hold.updateEvidence_some, Hold.update,
            if_neg Bool.false_ne_true]
          split <;> exact hnow
      | true =>
          rw [after_of_positive hevidence]
          split
          · exact le_rfl
          · exact hnow

/-- At one tick, the window is kept exactly by what `Fresh` asks. -/
theorem bounded_iff (hw : w.Coherent) :
    w.Bounded holdMs tick ↔ w.Fresh holdMs tick := by
  cases hevidence : tick.evidence with
  | none =>
      refine iff_of_true (fun h => ?_) fun h => ?_ <;> rw [hevidence] at h <;> cases h
  | some raw =>
      cases raw with
      | false =>
          refine iff_of_true (fun _ hheld => ?_) fun h => by rw [hevidence] at h; cases h
          -- the code looks at the window itself
          rw [after, hevidence, Hold.updateEvidence_some, Hold.update,
            if_neg Bool.false_ne_true] at hheld
          cases hup : (w.hold.held && decide (tick.nowMs - w.hold.lastTrueMs < holdMs)) with
          | false => simp [hup] at hheld
          | true =>
              obtain ⟨hold, hwindow⟩ := Bool.and_eq_true_iff.1 hup
              have harms : w.arms holdMs tick = false :=
                arms_of_not_positive (by rw [hevidence]; simp)
              rw [HoldWatch.step, harms]
              exact ⟨_, hw.armed hold, of_decide_eq_true hwindow⟩
      | true =>
          rw [Bounded, Fresh, hevidence, after_of_positive hevidence, HoldWatch.step]
          cases harms : w.arms holdMs tick with
          | true =>
              have hrun := (arms_iff hw hevidence).1 harms
              have hlone : ¬(w.hold.held = true ∧ w.hold.trueRun = 0) := by
                rintro ⟨hheld, hzero⟩
                simp only [neededRun, hheld, if_true, holdArmRun, hzero, satAdd, wordMax] at hrun
                omega
              rw [if_pos hrun, if_neg hlone, if_pos rfl]
              constructor
              · intro h _
                obtain ⟨armed, -, hwindow⟩ := h rfl rfl
                exact Or.inl (by omega)
              · intro h _ _
                refine ⟨tick.nowMs, List.mem_cons_self .., ?_⟩
                rcases h rfl with hopen | ⟨hcold, hshort⟩
                · omega
                · simp only [neededRun, hcold, satAdd] at hrun
                  simp only [Bool.false_eq_true, if_false] at hrun
                  omega
          | false =>
              obtain ⟨hzero, hrun⟩ := trueRun_eq_zero_of_not_arms hw hevidence harms
              rw [if_neg hrun, hzero, if_neg Bool.false_ne_true]
              cases hheld : w.hold.held with
              | true =>
                  rw [if_pos ⟨rfl, rfl⟩]
                  constructor
                  · intro h _
                    obtain ⟨armed, hmem, hwindow⟩ := h rfl rfl
                    have hlast := hw.armed_le armed hmem
                    omega
                  · exact fun h _ _ => ⟨_, hw.armed hheld, h rfl⟩
              | false =>
                  rw [if_neg fun h => Bool.false_ne_true h.1]
                  refine iff_of_true (fun _ h => by cases h) fun _ => Or.inr ⟨rfl, ?_⟩
                  simp only [neededRun, hheld, hzero, satAdd, wordMax] at hrun
                  simp only [Bool.false_eq_true, if_false] at hrun
                  omega

/-! ### Every run -/

/-- Along ticks in the order of time, from a coherent watch. -/
theorem everyStep_bounded_iff (holdMs : Nat) {ticks : List HoldTick} :
    ∀ w : HoldWatch, w.Coherent → (∀ tick ∈ ticks, w.hold.lastTrueMs ≤ tick.nowMs) →
      ticks.Pairwise (fun earlier later => earlier.nowMs ≤ later.nowMs) →
      (EveryStep (HoldWatch.step holdMs) (Bounded holdMs) w ticks ↔
        EveryStep (HoldWatch.step holdMs) (Fresh holdMs) w ticks) := by
  induction ticks with
  | nil => exact fun w _ _ _ => Iff.rfl
  | cons tick ticks ih =>
      intro w hw hnow hsorted
      obtain ⟨hfirst, hrest⟩ := List.pairwise_cons.1 hsorted
      have hhere := hnow tick (List.mem_cons_self ..)
      have hlater : ∀ later ∈ ticks, (w.step holdMs tick).hold.lastTrueMs ≤ later.nowMs :=
        fun later hmem => (lastTrueMs_after hhere).trans (hfirst later hmem)
      rw [everyStep_cons, everyStep_cons, bounded_iff hw, ih _ (hw.step hhere) hlater hrest]

/-- Before the first tick nothing was said. -/
theorem coherent_cold {hold : Hold} (h : hold = Hold.new ∨ hold = Hold.frontArmed) :
    (cold hold).Coherent ∧ hold.lastTrueMs = 0 := by
  rcases h with rfl | rfl
  · exact ⟨⟨by decide, by decide, fun _ h => absurd h List.not_mem_nil, fun h => by cases h⟩, rfl⟩
  · exact ⟨⟨by decide, by decide, fun _ h => absurd h List.not_mem_nil, fun h => by cases h⟩, rfl⟩

/-- On ticks in the order of time, a hold never outlives the window of its last arming exactly
if every positive tick finds a window it may leave in place. -/
theorem boundedHold_iff {hold : Hold} (holdMs : Nat) {ticks : List HoldTick}
    (hcold : hold = Hold.new ∨ hold = Hold.frontArmed)
    (hsorted : ticks.Pairwise fun earlier later => earlier.nowMs ≤ later.nowMs) :
    EveryStep (HoldWatch.step holdMs) (Bounded holdMs) (cold hold) ticks ↔
      EveryStep (HoldWatch.step holdMs) (Fresh holdMs) (cold hold) ticks := by
  obtain ⟨hcoherent, hlast⟩ := coherent_cold hcold
  exact everyStep_bounded_iff holdMs _ hcoherent
    (fun tick _ => by rw [show (cold hold).hold.lastTrueMs = 0 from hlast]; omega) hsorted

instance (holdMs : Nat) (w : HoldWatch) (tick : HoldTick) : Decidable (w.Bounded holdMs tick) :=
  inferInstanceAs (Decidable (tick.evidence.isSome = true → (w.after holdMs tick).held = true →
    ∃ armed ∈ (w.step holdMs tick).armedMs, tick.nowMs - armed < holdMs))

instance (holdMs : Nat) (w : HoldWatch) (tick : HoldTick) : Decidable (w.Fresh holdMs tick) :=
  inferInstanceAs (Decidable (tick.evidence = some true →
    if w.hold.held = true ∧ w.hold.trueRun = 0 then tick.nowMs - w.hold.lastTrueMs < holdMs
    else 0 < holdMs ∨ (w.hold.held = false ∧ w.hold.trueRun + 1 < w.hold.frontRun)))

/-- An adapter that is seen twice and then pulled: the flag falls with the window. -/
def pulledAdapter : List HoldTick :=
  [⟨some true, 0⟩, ⟨some true, 250⟩, ⟨none, 500⟩, ⟨some false, 8000⟩, ⟨some false, 8250⟩]

/-- The pulled adapter's flag falls within its window at every tick. -/
theorem boundedHold_pulledAdapter : EveryStep (HoldWatch.step onlineHoldMs)
    (Bounded onlineHoldMs) (cold Hold.frontArmed) pulledAdapter :=
  (boundedHold_iff onlineHoldMs (Or.inr rfl) (by decide)).2 (by decide)

/-- An adapter that is seen once, pulled, and seen once more after the window: the flag is still
up, 9 s after it was armed. -/
def lonePositive : List HoldTick :=
  [⟨some true, 0⟩, ⟨some false, 1000⟩, ⟨some true, 9000⟩]

/-- Over all tick sequences the bound fails: the lone positive keeps the flag up past the window. -/
theorem not_boundedHold : ¬∀ (hold : Hold) (holdMs : Nat) (ticks : List HoldTick),
    hold = Hold.new ∨ hold = Hold.frontArmed →
    ticks.Pairwise (fun earlier later => earlier.nowMs ≤ later.nowMs) →
    EveryStep (HoldWatch.step holdMs) (Bounded holdMs) (cold hold) ticks := by
  intro hall
  have hstale := hall Hold.frontArmed onlineHoldMs lonePositive (Or.inr rfl) (by decide)
  revert hstale
  decide

end HoldWatch

end Ln8000
