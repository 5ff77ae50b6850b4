import NabuCharger.Kmdf.Tick

/-!
# `Kmdf.Schedule`: when the next negotiation is due

Two schedules decide when the driver negotiates again without a new input. The re-elevation
retries a bus that stays at 5 V: its first attempt comes a minute after the episode opened,
and every further pause is twice the one before, up to five minutes. The SUPERUSER retry
repeats a negotiation that found no way to the PMIC.

`Schedule` is the part of the context that holds them. A tick moves the re-elevation in one
of four ways (`Schedule.Looks`), whatever else it does.
-/

set_option autoImplicit false

namespace Kmdf

open Effectful Ln8000

/-- The last reading the clock of the host can give: its 64-bit counter runs in units of
100 ns, and a reading is in milliseconds. -/
def clockMaxMs : Nat := wordMax 64 / 10000

/-- When the next negotiation is due. -/
structure Schedule where
  /-- Zero while no five-volt episode is open. -/
  nextMs : Nat
  backoffMs : Nat
  retryPending : Bool
  retryAttempts : Nat
  retryNextMs : Nat
  deriving DecidableEq, Repr

/-- The schedule of the negotiations, as the context keeps it. -/
def Context.schedule (ctx : Context) : Schedule where
  nextMs := ctx.reElevateNextMs
  backoffMs := ctx.reElevateBackoffMs
  retryPending := ctx.hvdcpRetryPending
  retryAttempts := ctx.hvdcpRetryAttempts
  retryNextMs := ctx.hvdcpRetryNextMs

/-- What the corrections of the bus are counted by. -/
structure Window where
  /-- The clock at the last correction, zero before the first. -/
  nudgeMs : Nat
  /-- The smallest deviation of the episode. -/
  bestErrUv : Nat
  /-- Corrections since it was found. -/
  stallN : Nat
  deriving DecidableEq, Repr

/-- The record of the corrections, as the context keeps it. -/
def Context.window (ctx : Context) : Window where
  nudgeMs := ctx.lastWindowNudgeMs
  bestErrUv := ctx.windowBestErrUv
  stallN := ctx.windowStallN

/-- No pause of the schedules carries a reading of the clock past the 64-bit word. -/
theorem satAdd_clock {now pauseMs : Nat} (hnow : now ≤ clockMaxMs)
    (hpause : pauseMs ≤ reElevateBackoffMaxMs) : satAdd 64 now pauseMs = now + pauseMs := by
  have hclock : clockMaxMs = 1844674407370955 := by decide
  have hword : wordMax 64 = 18446744073709551615 := by decide
  have hmax : reElevateBackoffMaxMs = 300000 := rfl
  rw [satAdd, hword, Nat.min_eq_left (by omega)]

/-! ### Pauses -/

/-- The pause between two re-elevations has a limit. -/
theorem nextBackoffMs_le (backoffMs : Nat) : nextBackoffMs backoffMs ≤ reElevateBackoffMaxMs := by
  have hfirst : reElevateFirstMs ≤ reElevateBackoffMaxMs := by decide
  unfold nextBackoffMs
  split
  · exact hfirst
  · exact Nat.min_le_right _ _

/-- A pause is at least the first one, and not shorter than the pause before it. -/
theorem le_nextBackoffMs {backoffMs : Nat}
    (h : backoffMs = 0 ∨ reElevateFirstMs ≤ backoffMs) (hmax : backoffMs ≤ reElevateBackoffMaxMs) :
    reElevateFirstMs ≤ nextBackoffMs backoffMs ∧ backoffMs ≤ nextBackoffMs backoffMs := by
  have hword : wordMax 64 = 18446744073709551615 := by decide
  simp only [reElevateFirstMs, reElevateBackoffMaxMs, nextBackoffMs, satMul, hword] at *
  split <;> omega

namespace Schedule

/-- What the re-elevation does in a tick that reads the clock at `now`: the flag says whether
it is due. -/
inductive Looks (now : Nat) (sch : Schedule) : Bool → Schedule → Prop
  | kept : Looks now sch false sch
  /-- A five-volt episode begins. -/
  | opened (hclosed : sch.nextMs = 0) :
      Looks now sch false { sch with nextMs := now + reElevateFirstMs }
  /-- The pause is over, and the next one begins. -/
  | fired (hopen : sch.nextMs ≠ 0) (hdue : sch.nextMs ≤ now) :
      Looks now sch true
        { sch with
          nextMs := now + nextBackoffMs sch.backoffMs
          backoffMs := nextBackoffMs sch.backoffMs }
  /-- The episode is over. -/
  | closed : Looks now sch false { sch with nextMs := 0, backoffMs := 0 }

end Schedule

/-- The schedule of a tick is one of the four moves. -/
theorem scheduleReelevation_looks (ctx : Context) (owns : Bool) {now : Nat}
    (hnow : now ≤ clockMaxMs) :
    ctx.schedule.Looks now (ctx.scheduleReelevation owns now).1
      (ctx.scheduleReelevation owns now).2.schedule := by
  -- the clock is far from its largest word, so neither time saturates
  have hfirst : satAdd 64 now reElevateFirstMs = now + reElevateFirstMs :=
    satAdd_clock hnow (by decide)
  have hnext : satAdd 64 now (nextBackoffMs ctx.reElevateBackoffMs) =
      now + nextBackoffMs ctx.reElevateBackoffMs :=
    satAdd_clock hnow (nextBackoffMs_le _)
  unfold Context.scheduleReelevation
  rw [hfirst, hnext]
  -- the 1:1 of an adapter that is owned opens an episode, everything else closes it
  cases owns with
  | false =>
      simp only [Bool.false_eq_true, if_false]
      split
      · exact .closed
      · exact .kept
  | true =>
      simp only [if_true]
      split
      · next hclosed => exact .opened hclosed
      split
      · next hopen hdue => exact .fired hopen hdue
      · exact .kept

end Kmdf
