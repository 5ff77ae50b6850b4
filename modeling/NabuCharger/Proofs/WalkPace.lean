import NabuCharger.Kmdf.Bench
import NabuCharger.Kmdf.CountRules
import NabuCharger.Kmdf.WalkedDriver

/-!
# `Proofs.WalkPace`: how often the tick corrects the bus

Over every run of the driver whose clock does not run backwards, two corrections of the bus are at
least ten seconds apart. Four corrections without progress put the next one off to a minute, and
progress is a deviation more than 50 mV below the best one of the episode. So an episode that starts
`e` off the target has at most `4 * (1 + e / 50 mV)` corrections less than a minute after the one
before (`corrections_paced`).

The watch `walkWatch` counts what the marks of the tick show. The bound is a potential: each
deviation that counts as progress pays for four more corrections, and takes 50 mV off the best one
(`Walk.Funded`). The driver's own three fields are the watch's (`Walked`). The urgent correction,
which would not wait, asks for a bus in the range of 1:1 and for one above it (`not_urgent`).
-/

set_option autoImplicit false

namespace Kmdf

open Effectful Ln8000

/-! ### The watch -/

/-- What the marks of a run have shown. -/
structure Walk where
  /-- The last reading of the clock. -/
  clock : Nat
  /-- The reading of the last correction. -/
  correctedAt : Option Nat
  /-- The deviation the episode started with, while there is one. -/
  firstUv : Option Nat
  /-- Its best deviation, the largest word before the first. -/
  bestUv : Nat
  /-- Corrections since the best deviation was found. -/
  stalls : Nat
  /-- Corrections of the episode less than a minute after the one before. -/
  short : Nat
  deriving DecidableEq, Repr

namespace Walk

/-- Before the first entry point. -/
def start : Walk where
  clock := 0
  correctedAt := none
  firstUv := none
  bestUv := wordMax 32
  stalls := 0
  short := 0

/-- The last correction is less than a minute ago. -/
def recent (p : Walk) : Bool :=
  match p.correctedAt with
  | some t => decide (p.clock < t + 60000)
  | none => false

/-- The bus is off by this much. More than 50 mV less than the best deviation is progress. -/
def outside (p : Walk) (errUv : Nat) : Walk :=
  let begun := { p with firstUv := p.firstUv.or (some errUv) }
  if errUv + 50000 < p.bestUv then { begun with bestUv := errUv, stalls := 0 } else begun

/-- The episode is over. -/
def inside (p : Walk) : Walk :=
  { p with firstUv := none, bestUv := wordMax 32, stalls := 0, short := 0 }

/-- A correction, at the last reading of the clock. -/
def corrected (p : Walk) : Walk :=
  { p with
    correctedAt := some p.clock
    stalls := p.stalls + 1
    short := p.short + p.recent.toNat }

/-- A mark moves the episode. -/
def marked (p : Walk) : WalkMark → Walk
  | .outside errUv => p.outside errUv
  | .inside => p.inside
  | .corrects => p.corrected

/-- The clock moves on its readings, the episode on the marks. -/
def next (p : Walk) : (o : WalkedEffect.Op) → WalkedEffect.Resp o → Walk
  | .inl (.inr .now), ms => { p with clock := ms }
  | .inr mark, _ => p.marked mark
  | _, _ => p

/-- The clock does not run backwards. -/
def allow (p : Walk) : (o : WalkedEffect.Op) → WalkedEffect.Resp o → Prop
  | .inl (.inr .now) => fun (ms : Nat) => p.clock ≤ ms
  | _ => fun _ => True

/-- A correction comes within an episode, ten seconds after the last one, a minute after it if four
have brought nothing, and the short ones are paid for by the deviation of the start. -/
structure Correctable (p : Walk) : Prop where
  tenSeconds : ∀ t, p.correctedAt = some t → t + 10000 ≤ p.clock
  stalled : 4 ≤ p.stalls → ∀ t, p.correctedAt = some t → t + 60000 ≤ p.clock
  funded : ∃ firstUv, p.firstUv = some firstUv ∧
    p.corrected.short ≤ 4 * (1 + firstUv / 50000)

/-- A correction has to be one the limits allow. -/
def require (p : Walk) : WalkedEffect.Op → Prop
  | .inr .corrects => p.Correctable
  | _ => True

end Walk

/-- The watch over the walked runs. -/
abbrev walkWatch : Machine WalkedEffect where
  State := Walk
  allow := Walk.allow
  require := Walk.require
  next := Walk.next

/-! ### The potential -/

namespace Walk

/-- The short corrections so far and all that can follow are paid for. -/
def Funded (p : Walk) : Prop :=
  p.bestUv ≤ wordMax 32 ∧
    match p.firstUv with
    | some firstUv =>
        p.short + 4 * (p.bestUv / 50001) + (4 - p.stalls) ≤ 4 * (1 + firstUv / 50000)
    | none => p.bestUv = wordMax 32 ∧ p.stalls = 0 ∧ p.short = 0

/-- A look at the bus pays for no more than it did. -/
theorem Funded.outside {p : Walk} (h : p.Funded) (errUv : Nat) : (p.outside errUv).Funded := by
  have hword : wordMax 32 = 4294967295 := by decide
  obtain ⟨hbest, hpaid⟩ := h
  unfold Walk.outside
  cases hfirst : p.firstUv with
  | none =>
      rw [hfirst] at hpaid
      obtain ⟨hmax, hstalls, hshort⟩ := hpaid
      split
      · -- the first deviation pays for itself
        refine ⟨?_, ?_⟩
        · show errUv ≤ wordMax 32
          omega
        · show p.short + 4 * (errUv / 50001) + (4 - 0) ≤ 4 * (1 + errUv / 50000)
          omega
      · refine ⟨hbest, ?_⟩
        show p.short + 4 * (p.bestUv / 50001) + (4 - p.stalls) ≤ 4 * (1 + errUv / 50000)
        omega
  | some firstUv =>
      rw [hfirst] at hpaid
      split
      · -- progress: a step of the best deviation is worth four corrections
        refine ⟨?_, ?_⟩
        · show errUv ≤ wordMax 32
          omega
        · show p.short + 4 * (errUv / 50001) + (4 - 0) ≤ 4 * (1 + firstUv / 50000)
          have hpaid : p.short + 4 * (p.bestUv / 50001) + (4 - p.stalls) ≤
            4 * (1 + firstUv / 50000) := hpaid
          omega
      · exact ⟨hbest, hpaid⟩

/-- Outside a look there is an episode. -/
theorem outside_firstUv (p : Walk) (errUv : Nat) : (p.outside errUv).firstUv ≠ none := by
  unfold Walk.outside
  cases hfirst : p.firstUv <;> split <;> simp

/-- Outside an episode no short correction has to be paid for. -/
theorem funded_inside (p : Walk) : p.inside.Funded := ⟨Nat.le_refl _, rfl, rfl, rfl⟩

/-- A short correction spends one of four. -/
theorem Funded.corrected {p : Walk} (h : p.Funded) (hepisode : p.firstUv ≠ none)
    (hstalled : p.recent = true → p.stalls < 4) :
    p.corrected.Funded ∧
      ∃ firstUv, p.firstUv = some firstUv ∧ p.corrected.short ≤ 4 * (1 + firstUv / 50000) := by
  obtain ⟨firstUv, hfirst⟩ := Option.ne_none_iff_exists'.1 hepisode
  obtain ⟨hbest, hpaid⟩ := h
  rw [hfirst] at hpaid
  -- a short correction is paid from the stalls left or from the progress still to make
  have hspent : p.corrected.short + 4 * (p.bestUv / 50001) + (4 - (p.stalls + 1)) ≤
      4 * (1 + firstUv / 50000) := by
    show p.short + p.recent.toNat + _ + _ ≤ _
    have hpaid : p.short + 4 * (p.bestUv / 50001) + (4 - p.stalls) ≤
      4 * (1 + firstUv / 50000) := hpaid
    cases hrecent : p.recent with
    | true =>
        have hfew := hstalled hrecent
        rw [Bool.toNat_true]
        omega
    | false =>
        rw [Bool.toNat_false]
        omega
  refine ⟨⟨hbest, ?_⟩, firstUv, hfirst, by omega⟩
  have hfirst' : p.corrected.firstUv = some firstUv := hfirst
  rw [hfirst']
  exact hspent

end Walk

/-! ### The driver and the watch -/

/-- The three fields of the driver are what the watch has seen. -/
structure Walked (w : Window) (p : Walk) : Prop where
  best : w.bestErrUv = p.bestUv
  stalls : w.stallN = min p.stalls (wordMax 32)
  last : ∀ t, p.correctedAt = some t → w.nudgeMs = t
  funded : p.Funded

/-- A fresh window is far enough ahead. -/
theorem Walked.start : Walked Context.new.window Walk.start where
  best := rfl
  stalls := by decide
  last _ h := by cases h
  funded := ⟨Nat.le_refl _, rfl, rfl, rfl⟩

/-- Time passes. -/
theorem Walked.later {w : Window} {p : Walk} (h : Walked w p) (ms : Nat) :
    Walked w { p with clock := ms } where
  best := h.best
  stalls := h.stalls
  last := h.last
  funded := h.funded

/-- Progress in words is progress in numbers: the best deviation is a word. -/
theorem satAdd_progress_lt (errUv : Nat) {bestUv : Nat} (h : bestUv ≤ wordMax 32) :
    satAdd 32 errUv windowProgressUv < bestUv ↔ errUv + 50000 < bestUv := by
  have hprogress : windowProgressUv = 50000 := rfl
  rw [satAdd, hprogress]
  omega

/-- A look at the bus moves both alike. -/
theorem Walked.outside {s : Held} {p : Walk} (h : Walked s.window p) (errUv : Nat) :
    Walked (noteProgress errUv s).window (p.outside errUv) := by
  have hfunded := h.funded.outside errUv
  have hbest : s.windowBestErrUv = p.bestUv := h.best
  have hprogress := satAdd_progress_lt errUv h.funded.1
  rw [← hbest] at hprogress
  unfold noteProgress
  -- progress resets the stalls, and the watch sees the same progress
  by_cases hlt : satAdd 32 errUv windowProgressUv < s.windowBestErrUv
  · rw [if_pos hlt]
    have hmoved : p.outside errUv =
        { p with
          firstUv := p.firstUv.or (some errUv)
          bestUv := errUv
          stalls := 0 } := by
      rw [Walk.outside, if_pos (hbest ▸ hprogress.1 hlt)]
    rw [hmoved] at hfunded ⊢
    exact ⟨rfl, (Nat.zero_min _).symm, h.last, hfunded⟩
  · rw [if_neg hlt]
    have hmoved : p.outside errUv = { p with firstUv := p.firstUv.or (some errUv) } := by
      rw [Walk.outside, if_neg (hbest ▸ mt hprogress.2 hlt)]
    rw [hmoved] at hfunded ⊢
    exact ⟨h.best, h.stalls, h.last, hfunded⟩

/-- The end of an episode puts the window back. -/
theorem Walked.inside {s : Held} {p : Walk} (h : Walked s.window p) :
    Walked (resetStall s).window p.inside where
  best := rfl
  stalls := (Nat.zero_min _).symm
  last := h.last
  funded := p.funded_inside

/-- The pause that is over before a correction. -/
def Window.cooldown (w : Window) : Nat :=
  if w.stallN < windowStallMax then windowNudgeMs else windowStallMs

/-- A correction whose pause is over is one the watch admits. -/
theorem Walked.correctable {w : Window} {p : Walk} (h : Walked w p) (hepisode : p.firstUv ≠ none)
    (hcooled : w.cooldown ≤ p.clock - w.nudgeMs) :
    p.Correctable ∧ p.corrected.Funded := by
  have hword : wordMax 32 = 4294967295 := by decide
  have hstalls := h.stalls
  have hten : windowNudgeMs = 10000 := rfl
  have hminute : windowStallMs = 60000 := rfl
  have hfour : windowStallMax = 4 := rfl
  -- the cooldown has passed: ten seconds, or a minute once four corrections brought nothing
  have hpause : ∀ t, p.correctedAt = some t →
      t + 10000 ≤ p.clock ∧ (4 ≤ p.stalls → t + 60000 ≤ p.clock) := by
    intro t ht
    have hlast := h.last t ht
    unfold Window.cooldown at hcooled
    split at hcooled <;> omega
  -- so a recent correction is one of the first four
  have hfew : p.recent = true → p.stalls < 4 := by
    intro hrecent
    unfold Walk.recent at hrecent
    cases ht : p.correctedAt with
    | none =>
        rw [ht] at hrecent
        cases hrecent
    | some t =>
        rw [ht] at hrecent
        have hclose := of_decide_eq_true hrecent
        have hlong := (hpause t ht).2
        omega
  obtain ⟨hfunded, hpaid⟩ := h.funded.corrected hepisode hfew
  exact ⟨⟨fun t ht => (hpause t ht).1, fun hfour t ht => (hpause t ht).2 hfour, hpaid⟩, hfunded⟩

/-- The driver counts the correction as the watch does. -/
theorem Walked.corrected {s : Held} {p : Walk} (h : Walked s.window p)
    (hfunded : p.corrected.Funded) :
    Walked
      ({ s with
        lastWindowNudgeMs := p.clock
        windowStallN := satAdd 32 s.windowStallN 1 } : Held).window p.corrected where
  best := h.best
  stalls := by
    have hstalls : s.windowStallN = min p.stalls (wordMax 32) := h.stalls
    show satAdd 32 s.windowStallN 1 = min (p.stalls + 1) (wordMax 32)
    rw [satAdd, hstalls]
    omega
  last t ht := Option.some.inj ht
  funded := hfunded

/-! ### The urgent correction -/

/-- 1:1 is chosen below the buses the correction walks: no correction is urgent. -/
theorem not_urgent {d : Decision} (hdesired : d.desired = desiredMode d.obs d.cellVbatUv)
    (hwalks : d.walks = true) : d.desired ≠ some .bypass := by
  intro hbypass
  -- 1:1 is wanted at 5 V only
  have hmode : chargeMode d.obs.vbusUv d.cellVbatUv = some .bypass := by
    rw [hdesired, desiredMode] at hbypass
    split at hbypass
    · cases hbypass
    · exact hbypass
  obtain ⟨-, hlow⟩ := (chargeMode_eq_bypass_iff _ _).1 hmode
  have helevated : elevatedMinVinUv = 6000000 := rfl
  have hfive : fiveVStayMaxUv.toNat = 6000000 := rfl
  have hvbus : d.obs.sample.vbusUv = d.obs.vbusUv.toNat := rfl
  simp only [Decision.walks, hbypass, Bool.and_eq_true, Bool.or_eq_true,
    decide_eq_true_eq] at hwalks
  -- each reason to walk needs a higher bus, or no mode wanted
  rcases hwalks.2 with (hhigh | hnone) | hhigh
  · omega
  · cases hnone.1
  · omega

/-! ### The tick -/

/-- The invariant of the counts. -/
abbrev WindowWalked (_ : Nat) (w : Window) (_ : GuardLimits) (p : Walk) : Prop := Walked w p

/-- Everything but the walk itself leaves the window and the watch together. -/
theorem walkRules : CountRules walkWatch.onLeft WindowWalked where
  deaf := ⟨fun _ _ => trivial, fun _ _ _ => rfl⟩
  host o _ _ _ _ p h := by
    cases o with
    | now => exact ⟨trivial, fun ms _ => h.later ms⟩
    | _ => exact ⟨trivial, fun _ _ => h⟩
  capped _ _ _ _ _ h := h
  settings _ _ _ _ _ h := h

section
variable [LoopFuel]

/-- The correction of the tick keeps to the watch. -/
theorem walkedWindow_keeps {d : Decision} (hdesired : d.desired = desiredMode d.obs d.cellVbatUv) :
    Proc.Keeps walkWatch (heldOf (countsOf WindowWalked)) (walkedWindow d) := by
  have hrules := walkRules.driver.held
  refine ⟨fun s p h => (Proc.wp_get_bind (M := walkWatch) s p _ _).2 ?_⟩
  refine Proc.wp_ite (fun hout => ?_) fun _ => ?_
  · refine (Proc.wp_bind (M := walkWatch) _ _ _ _ _).2 ((Proc.wp_inl _ walkWatch _ _ _).2 ?_)
    refine (Proc.wp_perform (M := walkWatch.onLeft) s p (Sum.inr HostOp.now) _).2 ⟨trivial, ?_⟩
    intro (now : Nat) _
    refine (Proc.wp_perform_bind (M := walkWatch) s _ (Sum.inr (WalkMark.outside d.errUv)) _ _).2
      ⟨trivial, fun _ _ => ?_⟩
    refine (Proc.wp_modify_bind (M := walkWatch) s _ _ _ _).2 ?_
    refine (Proc.wp_get_bind (M := walkWatch) _ _ _ _).2 ?_
    have hlooked : Walked (noteProgress d.errUv s).window
        (Walk.outside { p with clock := now } d.errUv) := (Walked.later h now).outside d.errUv
    refine Proc.wp_ite (fun hdue => ?_) fun _ => (Proc.wp_pure (M := walkWatch) _ _ _ _).2 hlooked
    -- nothing is urgent, so the pause is over
    have hcooled : (noteProgress d.errUv s).window.cooldown ≤
        now - (noteProgress d.errUv s).lastWindowNudgeMs := by
      rcases hdue.2 with hurgent | hcooled
      · simp only [Bool.and_eq_true, decide_eq_true_eq] at hurgent
        exact absurd hurgent.1.1 (not_urgent hdesired hout.1)
      · exact hcooled
    have hclock : (Walk.outside { p with clock := now } d.errUv).clock = now := by
      unfold Walk.outside
      split <;> rfl
    obtain ⟨hadmitted, hfunded⟩ := hlooked.correctable (Walk.outside_firstUv _ _) (by
      rw [hclock]
      exact hcooled)
    refine (Proc.wp_perform_bind (M := walkWatch) _ _ (Sum.inr WalkMark.corrects) _ _).2
      ⟨hadmitted, fun _ _ => ?_⟩
    refine (Proc.wp_inl _ walkWatch _ _ _).2 (hrules.walkOnce_wp
      (fun s => walkRules.deaf.pump (fun _ _ _ h => h) s _) d _ now _ _ ?_)
    have hcorrected := hlooked.corrected hfunded
    rw [hclock] at hcorrected
    exact hcorrected
  · refine (Proc.wp_perform_bind (M := walkWatch) s p (Sum.inr WalkMark.inside) _ _).2
      ⟨trivial, fun _ _ => ?_⟩
    refine (Proc.wp_modify_bind (M := walkWatch) s _ _ _ _).2 ?_
    exact (Proc.wp_pure (M := walkWatch) _ _ _ _).2 h.inside

omit [LoopFuel] in
/-- Whatever else the tick does. -/
theorem inl_walked {α : Type} {x : HeldM α}
    (hx : Proc.Keeps walkWatch.onLeft (heldOf (countsOf WindowWalked)) x) :
    Proc.Keeps walkWatch (heldOf (countsOf WindowWalked)) (x.inl : WalkedM α) :=
  Proc.Keeps.inl hx

/-- The body of a tick keeps the window with the watch, corrections included. -/
theorem walkedAct_keeps (obs : Observation) :
    Proc.Keeps walkWatch (heldOf (countsOf WindowWalked)) (walkedAct obs) := by
  have hrules := walkRules.driver.held
  have hprotect := walkRules.protect (fun _ _ _ h => h) (fun _ _ _ h => ⟨trivial, fun _ _ => h⟩) obs
  refine (inl_walked hprotect).bind fun changed => ?_
  refine (inl_walked (hrules.clearLatches _)).bind fun _ => Proc.Keeps.get.bind fun s => ?_
  refine (walkedWindow_keeps rfl).bind fun left => ?_
  refine (inl_walked (hrules.decideMode (fun _ => walkRules.land.start) _ left)).bind fun _ => ?_
  refine (inl_walked (walkRules.onPump _).discard).bind fun _ => ?_
  exact inl_walked (hrules.dueWants countsOf_timeless.held _)

/-- A tick on an open pump keeps the window with the watch. -/
theorem walkedTickOnPump_keeps (gauge : GaugePoll) :
    Proc.Keeps walkWatch (heldOf (countsOf WindowWalked)) (walkedTickOnPump gauge) := by
  refine (inl_walked (walkRules.onPump _)).bind fun answer => ?_
  cases answer with
  | error err =>
      have hfail : Proc.Keeps walkWatch (heldOf (countsOf WindowWalked))
          (Proc.modify fun s => { s with lastError := -10 } : WalkedM Unit) :=
        Proc.Keeps.modify fun _ _ h => h
      exact hfail.bind fun _ => Proc.Keeps.pure none
  | ok status =>
      refine (inl_walked (walkRules.observe gauge status)).bind fun obs => ?_
      exact (walkedAct_keeps obs).bind fun wants => Proc.Keeps.pure _

omit [LoopFuel] in
/-- The borrow keeps what its program keeps. -/
theorem withWalkedPump_keeps {α : Type} {x : WalkedM α}
    (hx : Proc.Keeps walkWatch (heldOf (countsOf WindowWalked)) x) :
    Proc.Keeps walkWatch (countsOf WindowWalked) (withWalkedPump x) := by
  refine ⟨fun s p h => ?_⟩
  have hprog : (withWalkedPump x s).wp walkWatch
      (fun out p' => countsOf WindowWalked out.2 p') p := by
    unfold withWalkedPump
    split
    · exact h
    · next pump hpump =>
        exact (Prog.wp_map _ _ _ _).2 (hx.run { s.toContext with pump := pump } p h).prog
  unfold Proc.wp
  exact hprog

/-- Every tick keeps the window with the watch. -/
theorem walkedTick_keeps : Proc.Keeps walkWatch (countsOf WindowWalked) walkedTick := by
  have hhost : ∀ o : HostOp, HostKeeps walkWatch.onLeft (countsOf WindowWalked) o := by
    intro o s p h
    cases o with
    | now => exact ⟨trivial, fun ms _ => Walked.later h ms⟩
    | _ => exact ⟨trivial, fun _ _ => h⟩
  have hlandings : ∀ wants, Proc.Keeps walkWatch.onLeft (countsOf WindowWalked)
      (tickLandings wants) := fun wants =>
    ⟨fun s p h => walkRules.land.tickLandings_wp walkRules.driver countsOf_timeless
      countsOf_timeless walkRules.landing (fun _ _ h => h) (fun _ _ h => h) wants s p h⟩
  refine (Proc.Keeps.inl (hhost .pollGauge).perform).bind fun gauge => ?_
  refine (withWalkedPump_keeps (walkedTickOnPump_keeps gauge)).bind fun wants => ?_
  refine (Proc.Keeps.inl (hlandings wants.join)).bind fun _ => ?_
  exact Proc.Keeps.inl (hhost (.point .tickDone)).perform

/-- Every entry point keeps to the watch. -/
theorem driverOp_walked (op : DriverOp) :
    Proc.Keeps walkWatch (countsOf WindowWalked) op.walked := by
  by_cases htick : op = .tick
  · rw [htick]
    exact walkedTick_keeps
  · have hrun := Proc.Keeps.inl (walkRules.run op htick)
    cases op with
    | tick => exact absurd rfl htick
    | _ => exact hrun

/-- The corrections of the bus keep to their rate in every run from the loaded state. The run can be
marked at its looks at the bus, and however it is marked, it meets the watch for as long as the
clock does not run backwards. -/
theorem corrections_paced {log : List (Entry DevEffect DriverState DriverOp)}
    (h : Session DriverOp.run DriverState.new log) :
    (∃ marked, Session DriverOp.walked DriverState.new marked ∧
      marked.map Entry.unmark = log) ∧
      ∀ marked, Session DriverOp.walked DriverState.new marked →
        marked.map Entry.unmark = log → walkWatch.Meets Walk.start (exchanges marked) :=
  ⟨Session.marked DriverOp.unmark_walked h,
    fun _ hmarked _ => hmarked.meets driverOp_walked Walk.start Walked.start⟩

end

/-! ### A run with corrections -/

/-- A bus at 9 V, above the band of a cell at 3.9 V, whose adapter follows no pulse. -/
def walkingBench : Bench := { Bench.around Chip.nineVolt with nowMs := 20000 }

/-- The driver is loaded and ticks six times. -/
def walkingOps : List DriverOp :=
  [.deviceAdd, .prepare none none, .tick, .tick, .tick, .tick, .tick, .tick]

/-- The log of these entry points. A tick reads the clock six times, so that it is 36 s
from one tick to the next. -/
def walkingLog : List (Entry DevEffect DriverState DriverOp) :=
  Session.execute (Bench.answerEvery 6000) (@DriverOp.run ⟨0⟩) walkingBench DriverState.new
    walkingOps

/-- The same run with its marks. -/
def markedLog : List (Entry WalkedEffect DriverState DriverOp) :=
  Session.execute (unanswered (Bench.answerEvery 6000)) (@DriverOp.walked ⟨0⟩) walkingBench
    DriverState.new walkingOps

/-- Four corrections follow one another without progress. The next look at the bus is too early for
a fifth, and the one after it is not. -/
theorem corrections_paced_walking :
    markedLog.map Entry.unmark = walkingLog ∧
      marksOf (exchanges markedLog) =
        [.outside 908000, .corrects, .outside 908000, .corrects, .outside 908000, .corrects,
          .outside 908000, .corrects, .outside 908000, .outside 908000, .corrects] ∧
      walkWatch.Meets Walk.start (exchanges markedLog) := by
  have hsession : Session (@DriverOp.run ⟨0⟩) DriverState.new walkingLog :=
    Session.session_execute (E := DevEffect) _ _ walkingOps walkingBench DriverState.new
  have hmarked : Session (@DriverOp.walked ⟨0⟩) DriverState.new markedLog :=
    Session.session_execute (E := WalkedEffect) _ _ walkingOps walkingBench DriverState.new
  have hlog : markedLog.map Entry.unmark = walkingLog :=
    Session.execute_unmark (@DriverOp.unmark_walked ⟨0⟩) (Bench.answerEvery 6000) walkingOps
      walkingBench DriverState.new
  exact ⟨hlog, by decide +kernel, (@corrections_paced ⟨0⟩ _ hsession).2 markedLog hmarked hlog⟩

end Kmdf
