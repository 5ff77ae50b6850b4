import NabuCharger.Kmdf.Battery
import NabuCharger.Logic.Runs

/-!
# `Proofs.BatteryFlags`: what Windows is told, tick after tick

Three properties of the published battery over runs of its module.

- Removal of the adapter: three ticks in a row with the unplug bit and without current clear
  both flags, whatever the holds were (`adapter_removal`). Ticks without a verdict against the
  adapter never clear them.
- The percentage of a driven pack: the estimate is gated on the raw verdict of the tick and not
  on the flag that is published, so a dropout inside the hold moves it (`drivenDropout`).
  `percent_kept_iff` says that nothing else does.
- Notifications: a change of the flags is compared with the last published value, which a tick
  without the class replaces too. `notified_run` says that only such a change is lost.

`updateFromTelemetry_eq` gives the state after a tick. The proofs read the two holds off it and
carry an invariant over the list of ticks.
-/

set_option autoImplicit false

namespace Kmdf

namespace Battery

open Effectful Ln8000

/-! ### Published flags -/

/-- `POWER_ON_LINE` of the published power state. -/
def onLinePublished (battery : Battery) : Prop :=
  battery.lastPowerState &&& batteryPowerOnLine ≠ 0

/-- `CHARGING` of the published power state. -/
def chargingPublished (battery : Battery) : Prop :=
  battery.lastPowerState &&& batteryCharging ≠ 0

/-- The flag of the supply is published as the battery has it. -/
theorem powerState_onLine (battery : Battery) :
    battery.powerState &&& batteryPowerOnLine ≠ 0 ↔ battery.online = true := by
  unfold powerState
  cases battery.online <;> cases battery.charging <;> simp <;> split <;> decide

/-- The flag of the charge is published as the battery has it. -/
theorem powerState_charging (battery : Battery) :
    battery.powerState &&& batteryCharging ≠ 0 ↔ battery.charging = true := by
  unfold powerState
  cases battery.online <;> cases battery.charging <;> simp <;> split <;> decide

/-- A tick publishes the flags of the holds it leaves. -/
theorem lastPowerState_update (battery : Battery) (sample : Sample) :
    (battery.updateFromTelemetry sample).1.lastPowerState =
      (battery.updateFromTelemetry sample).1.powerState := by
  obtain ⟨notified, h⟩ := updateFromTelemetry_eq battery sample
  rw [h]
  rfl

/-- What is published of the supply is what the tick decided. -/
theorem onLinePublished_update (battery : Battery) (sample : Sample) :
    (battery.updateFromTelemetry sample).1.onLinePublished ↔
      (battery.updateFromTelemetry sample).1.online = true := by
  rw [onLinePublished, lastPowerState_update]
  exact powerState_onLine _

/-- What is published of the charge is what the tick decided. -/
theorem chargingPublished_update (battery : Battery) (sample : Sample) :
    (battery.updateFromTelemetry sample).1.chargingPublished ↔
      (battery.updateFromTelemetry sample).1.charging = true := by
  rw [chargingPublished, lastPowerState_update]
  exact powerState_charging _

/-! ### The holds after a tick -/

/-- The unplug run and the online hold after a sample. -/
def releaseOf (battery : Battery) (sample : Sample) : Bool × Nat :=
  unplugRelease sample.vacUnplug sample.iinUa battery.unplugRun

/-- The hold of the supply after a tick. -/
def onlineHoldAfter (battery : Battery) (sample : Sample) : Hold :=
  if (battery.releaseOf sample).1 then battery.onlineHold.update false sample.nowMs 0
  else battery.onlineHold.updateEvidence sample.rawOnline sample.nowMs onlineHoldMs

/-- The count of unplugged ticks after a tick. -/
theorem update_unplugRun (battery : Battery) (sample : Sample) :
    (battery.updateFromTelemetry sample).1.unplugRun = (battery.releaseOf sample).2 := by
  obtain ⟨notified, h⟩ := updateFromTelemetry_eq battery sample
  rw [h, releaseOf]
  unfold built
  rw [estimatePct_eq]
  rfl

/-- The hold of the supply is moved by the tick. -/
theorem update_onlineHold (battery : Battery) (sample : Sample) :
    (battery.updateFromTelemetry sample).1.onlineHold = battery.onlineHoldAfter sample := by
  obtain ⟨notified, h⟩ := updateFromTelemetry_eq battery sample
  rw [h, onlineHoldAfter, releaseOf]
  unfold built
  rw [estimatePct_eq]
  rfl

/-- The flag of the supply is what its hold says. -/
theorem update_online (battery : Battery) (sample : Sample) :
    (battery.updateFromTelemetry sample).1.online = (battery.onlineHoldAfter sample).held := by
  rw [online, update_onlineHold]

/-! ### Removal of the adapter -/

/-- The hardware reports the removal, and no current flows. -/
def Sample.unplugged (sample : Sample) : Bool :=
  sample.vacUnplug && decide (sample.iinUa < iinChargingUa)

/-- The third unplugged tick in a row releases the flag. -/
theorem releaseOf_unplugged (battery : Battery) {sample : Sample}
    (h : sample.unplugged = true) :
    battery.releaseOf sample =
      (decide (unplugReleaseRun ≤ satAdd 32 battery.unplugRun 1),
        satAdd 32 battery.unplugRun 1) := by
  simp only [Sample.unplugged, Bool.and_eq_true, decide_eq_true_eq] at h
  simp [releaseOf, unplugRelease, h.1, not_le.2 h.2]

/-- An unplugged tick is a verdict against the adapter, never an absent one. -/
theorem rawOnline_unplugged {sample : Sample} (h : sample.unplugged = true) :
    sample.rawOnline = some false := by
  simp only [Sample.unplugged, Bool.and_eq_true, decide_eq_true_eq] at h
  have hcurrent : ¬(vbusChargingMinUv ≤ sample.vbusUv ∧ iinChargingUa ≤ sample.iinUa) := by
    omega
  unfold Sample.rawOnline onlineRawWithEvidence
  simp [isReflectionTick, onlineRaw, h.1, hcurrent]

/-- `n` unplugged ticks in a row. The run counts them, and with the third it ends the
window. -/
def Unplugging (n : Nat) (battery : Battery) : Prop :=
  min n unplugReleaseRun ≤ battery.unplugRun ∧
    (unplugReleaseRun ≤ n → battery.online = false ∧ ¬battery.onLinePublished ∧
      ¬battery.chargingPublished)

/-- Step lemma: one more unplugged tick. -/
theorem Unplugging.tick {n : Nat} {battery : Battery} (h : Unplugging n battery)
    {sample : Sample} (hsample : sample.unplugged = true) :
    Unplugging (n + 1) (battery.updateFromTelemetry sample).1 := by
  have hrelease := releaseOf_unplugged battery hsample
  -- the counter saturates far above the three ticks it takes
  have hrun : min (n + 1) unplugReleaseRun ≤ satAdd 32 battery.unplugRun 1 := by
    have hold := h.1
    simp only [unplugReleaseRun, satAdd, wordMax] at hold ⊢
    omega
  refine ⟨?_, fun hthird => ?_⟩
  · rw [update_unplugRun, hrelease]
    exact hrun
  · -- at the third tick the release ends the session, so both flags go down
    have hends : (battery.releaseOf sample).1 = true := by
      rw [hrelease, decide_eq_true_eq]
      omega
    have honline : (battery.updateFromTelemetry sample).1.online = false := by
      rw [update_online, onlineHoldAfter, if_pos hends]
      simp [Hold.update]
    refine ⟨honline, ?_, ?_⟩
    · rw [onLinePublished_update, honline]
      decide
    · rw [chargingPublished_update, charging, honline, Bool.and_false]
      decide

/-- Run lemma: every tick of the run counts. -/
theorem unplugging_run (samples : List Sample) (hall : ∀ t ∈ samples, t.unplugged = true) :
    ∀ (n : Nat) (battery : Battery), Unplugging n battery →
      Unplugging (n + samples.length) (battery.runTicks samples) := by
  induction samples with
  | nil => exact fun n battery h => h
  | cons sample samples ih =>
      intro n battery h
      have hsample := hall sample (List.mem_cons_self ..)
      have hrest := ih (fun t ht => hall t (List.mem_cons_of_mem _ ht)) (n + 1) _
        (h.tick hsample)
      rw [List.length_cons, runTicks_cons]
      rwa [show n + (samples.length + 1) = n + 1 + samples.length by omega]

/-- A positive or absent verdict leaves a held flag held. -/
theorem Hold.held_updateEvidence {hold : Hold} {evidence : Option Bool} {nowMs holdMs : Nat}
    (hheld : hold.held = true) (hevidence : evidence ≠ some false) :
    (hold.updateEvidence evidence nowMs holdMs).held = true := by
  cases evidence with
  | none => exact hheld
  | some raw =>
      have hraw : raw = true := by simpa using hevidence
      rw [hraw, Hold.updateEvidence_some]
      unfold Hold.update
      by_cases hrun : (if hold.held then holdArmRun else hold.frontRun) ≤
          satAdd 32 hold.trueRun 1
      · rw [if_pos rfl, if_pos hrun]
      · rw [if_pos rfl, if_neg hrun]
        exact hheld

/-- A tick without a verdict against the adapter keeps the flag. -/
theorem online_tick {battery : Battery} {sample : Sample} (h : battery.online = true)
    (hevidence : sample.rawOnline ≠ some false) :
    (battery.updateFromTelemetry sample).1.online = true := by
  have hnot : sample.unplugged = false := by
    cases hunplugged : sample.unplugged with
    | false => rfl
    | true => exact absurd (rawOnline_unplugged hunplugged) hevidence
  have hkept : (battery.releaseOf sample).1 = false := by
    rw [Sample.unplugged, Bool.and_eq_false_iff, decide_eq_false_iff_not, not_lt] at hnot
    rcases hnot with hbit | hcurrent
    · simp [releaseOf, unplugRelease, hbit]
    · simp [releaseOf, unplugRelease, hcurrent]
  rw [update_online, onlineHoldAfter, hkept]
  exact Hold.held_updateEvidence h hevidence

/-- Without evidence against it, the flag stays up over any run of ticks. -/
theorem online_run (samples : List Sample) (hall : ∀ t ∈ samples, t.rawOnline ≠ some false) :
    ∀ battery : Battery, battery.online = true → (battery.runTicks samples).online = true := by
  induction samples with
  | nil => exact fun battery h => h
  | cons sample samples ih =>
      intro battery h
      have hsample := hall sample (List.mem_cons_self ..)
      exact ih (fun t ht => hall t (List.mem_cons_of_mem _ ht)) _ (online_tick h hsample)

/-- The published flag is never ahead of the hold: only a tick publishes, and it publishes
what it leaves. -/
theorem online_of_published (events : List Event) :
    ∀ battery : Battery, (battery.onLinePublished → battery.online = true) →
      (battery.run events).onLinePublished → (battery.run events).online = true := by
  refine foldl_keeps fun battery event _ h => ?_
  cases event with
  | tick sample => exact (onLinePublished_update battery sample).1
  | query => exact (powerState_onLine battery).1
  | gauge raw nowMs => exact h
  | gaugeFailed => exact h
  | attach => exact h
  | detach => exact h

/-- After any run without a verdict against the adapter the flag is published as it is
held. -/
theorem onLinePublished_run {samples : List Sample} {battery : Battery}
    (hpublished : battery.onLinePublished) (h : (battery.runTicks samples).online = true) :
    (battery.runTicks samples).onLinePublished := by
  rcases List.eq_nil_or_concat samples with rfl | ⟨before, last, rfl⟩
  · exact hpublished
  · have hlast : battery.runTicks (before ++ [last]) =
        ((battery.runTicks before).updateFromTelemetry last).1 := by
      simp [runTicks, run, step]
    rw [List.concat_eq_append, hlast] at h ⊢
    exact (onLinePublished_update _ _).2 h

/-- Removal of the adapter, from every state the module can reach: in a run of unplugged ticks
both flags are clear from the third one on, and in a run without a verdict against the
adapter an armed `POWER_ON_LINE` is never dropped. -/
theorem adapter_removal (events : List Event) (samples : List Sample) :
    ((∀ t ∈ samples, t.unplugged = true) → 3 ≤ samples.length →
        ¬((Battery.new.run events).runTicks samples).onLinePublished ∧
          ¬((Battery.new.run events).runTicks samples).chargingPublished) ∧
      ((∀ t ∈ samples, t.rawOnline ≠ some false) →
        (Battery.new.run events).onLinePublished →
        ((Battery.new.run events).runTicks samples).onLinePublished) := by
  constructor
  · -- three unplugged ticks release both holds
    intro hall hthree
    have hstart : Unplugging 0 (Battery.new.run events) :=
      ⟨Nat.zero_le _, fun h => absurd h (by decide)⟩
    have hrun := unplugging_run samples hall 0 _ hstart
    exact (hrun.2 (by simpa [unplugReleaseRun] using hthree)).2
  · -- ticks that do not show the input gone keep the online hold
    intro hall hpublished
    have honline := online_of_published events Battery.new (fun h => absurd rfl h) hpublished
    exact onLinePublished_run hpublished (online_run samples hall _ honline)

/-- A charging tick, on a 9 V bus. -/
def onLineTick : Sample where
  vbatUv := 4400000
  vbusUv := 9000000
  iinUa := 1000000
  iinPeakUa := 1000000
  vacUnplug := false
  inputReadingsUsable := true
  socRising := false
  nowMs := 1000

/-- The adapter is gone. -/
def goneTick : Sample where
  vbatUv := 3900000
  vbusUv := 0
  iinUa := 0
  iinPeakUa := 1000000
  vacUnplug := true
  inputReadingsUsable := true
  socRising := false
  nowMs := 1250

/-- The samples of the input cannot be used, so there is no verdict. -/
def blindTick : Sample :=
  { onLineTick with inputReadingsUsable := false, vbusUv := 0, nowMs := 1250 }

/-- Two charging ticks. -/
def drivenTicks : List Event := [.tick onLineTick, .tick onLineTick]

/-- They publish both flags. Three unplugged ticks clear them, and ticks without a verdict keep the
first. -/
theorem adapter_removal_three :
    (Battery.new.run drivenTicks).onLinePublished ∧
      (Battery.new.run drivenTicks).chargingPublished ∧
      ¬((Battery.new.run drivenTicks).runTicks
        [goneTick, goneTick, goneTick]).onLinePublished ∧
      ¬((Battery.new.run drivenTicks).runTicks
        [goneTick, goneTick, goneTick]).chargingPublished ∧
      ((Battery.new.run drivenTicks).runTicks [blindTick, blindTick]).onLinePublished := by
  have hpublished : (Battery.new.run drivenTicks).onLinePublished := by
    unfold onLinePublished
    decide
  have hcharging : (Battery.new.run drivenTicks).chargingPublished := by
    unfold chargingPublished
    decide
  obtain ⟨honline, hcharge⟩ :=
    (adapter_removal drivenTicks [goneTick, goneTick, goneTick]).1 (by decide) (by decide)
  -- blind ticks instead: the flag stays published
  have hkept := (adapter_removal drivenTicks [blindTick, blindTick]).2 (by decide) hpublished
  exact ⟨hpublished, hcharging, honline, hcharge, hkept⟩

/-! ### The percentage of a driven pack -/

/-- The fuel counter answers. -/
def Event.answersGauge : Event → Bool
  | .gauge .. => true
  | _ => false

/-- The percentage changes only in a tick that leaves the published flag off. -/
def PercentKept (battery : Battery) : Event → Prop
  | .tick sample =>
      (battery.updateFromTelemetry sample).1.lastPct ≠ battery.lastPct →
        ¬(battery.updateFromTelemetry sample).1.onLinePublished
  | _ => True

instance (battery : Battery) (event : Event) : Decidable (PercentKept battery event) :=
  match event with
  | .tick _ => inferInstanceAs (Decidable (_ → ¬(_ ≠ _)))
  | .gauge .. => isTrue trivial
  | .gaugeFailed => isTrue trivial
  | .query => isTrue trivial
  | .attach => isTrue trivial
  | .detach => isTrue trivial

/-- A dropout on a driven pack: the raw verdict says no adapter, the estimate of the cell
voltage differs from the percentage, and the online hold is still in its window. -/
def drivenDropout (battery : Battery) : Event → Bool
  | .tick sample =>
      decide (sample.vbatUv > 0) && decide (sample.rawOnline = some false)
        && decide (socPercent sample.vbatUv ≠ battery.lastPct)
        && battery.onlineHold.held
        && decide (sample.nowMs - battery.onlineHold.lastTrueMs < onlineHoldMs)
        && !(battery.releaseOf sample).1
  | _ => false

/-- The percent is computed anew only when the tick estimates. -/
theorem update_lastPct (battery : Battery) (sample : Sample) :
    (battery.updateFromTelemetry sample).1.lastPct =
      if battery.estimates sample then socPercent sample.vbatUv else battery.lastPct := by
  obtain ⟨notified, h⟩ := updateFromTelemetry_eq battery sample
  rw [h]
  unfold built
  rw [estimatePct_eq]
  rfl

/-- So is its source. -/
theorem update_socSrc (battery : Battery) (sample : Sample) :
    (battery.updateFromTelemetry sample).1.socSrc =
      if battery.estimates sample then socSrcVbat else battery.socSrc := by
  obtain ⟨notified, h⟩ := updateFromTelemetry_eq battery sample
  rw [h]
  unfold built
  rw [estimatePct_eq]
  rfl

/-- Off the adapter the hold stands exactly inside its window, unless the removal is
confirmed. -/
theorem onlineHoldAfter_of_offline {battery : Battery} {sample : Sample}
    (hraw : sample.rawOnline = some false) :
    (battery.onlineHoldAfter sample).held =
      (battery.onlineHold.held
        && decide (sample.nowMs - battery.onlineHold.lastTrueMs < onlineHoldMs)
        && !(battery.releaseOf sample).1) := by
  unfold onlineHoldAfter
  -- a release ends the hold; without one its window decides
  cases hrelease : (battery.releaseOf sample).1 with
  | true => simp [Hold.update]
  | false =>
      rw [if_neg Bool.false_ne_true, hraw, Hold.updateEvidence_some, Hold.update,
        if_neg Bool.false_ne_true]
      by_cases hwindow : (battery.onlineHold.held
          && decide (sample.nowMs - battery.onlineHold.lastTrueMs < onlineHoldMs)) = true
      · rw [if_pos hwindow, hwindow]
        exact (Bool.and_eq_true_iff.1 hwindow).1
      · rw [if_neg hwindow, Bool.eq_false_iff.2 hwindow]
        rfl

/-- Step lemma: before the counter answers, a tick keeps the percentage of a driven pack
unless it is a dropout. -/
theorem percentKept_iff (battery : Battery) (event : Event)
    (hsrc : battery.socSrc ≠ socSrcGauge) :
    PercentKept battery event ↔ battery.drivenDropout event = false := by
  cases event with
  | tick sample =>
      simp only [PercentKept, drivenDropout]
      rw [update_lastPct, onLinePublished_update, update_online]
      by_cases hvbat : sample.vbatUv > 0
      · -- only an offline tick with a voltage may recompute
        by_cases hraw : sample.rawOnline = some false
        · rw [onlineHoldAfter_of_offline hraw]
          simp [estimates, hvbat, hraw, hsrc]
        · simp [estimates, hraw]
      · simp [estimates, hvbat]
  | gauge raw nowMs => simp [PercentKept, drivenDropout]
  | gaugeFailed => simp [PercentKept, drivenDropout]
  | query => simp [PercentKept, drivenDropout]
  | attach => simp [PercentKept, drivenDropout]
  | detach => simp [PercentKept, drivenDropout]

/-- Only the counter makes itself the source. -/
theorem socSrc_step (battery : Battery) {event : Event} (hevent : event.answersGauge = false)
    (hsrc : battery.socSrc ≠ socSrcGauge) : (battery.step event).socSrc ≠ socSrcGauge := by
  cases event with
  | tick sample =>
      have h := update_socSrc battery sample
      -- an estimate names the voltage as its source, and never the gauge
      by_cases hestimate : battery.estimates sample = true
      · rw [if_pos hestimate] at h
        simp only [step, h]
        decide
      · rw [if_neg hestimate] at h
        simpa only [step, h] using hsrc
  | gauge raw nowMs => simp [Event.answersGauge] at hevent
  | gaugeFailed => exact hsrc
  | query => exact hsrc
  | attach => exact hsrc
  | detach => exact hsrc

/-- Until the counter answers, the percentage moves only off the adapter if and only if no
tick is a dropout inside the online hold. -/
theorem percent_kept_iff (events : List Event)
    (hgauge : ∀ event ∈ events, event.answersGauge = false) :
    EveryStep step PercentKept Battery.new events ↔
      EveryStep step (fun battery event => battery.drivenDropout event = false)
        Battery.new events := by
  -- without an answer of the gauge the source is never the gauge
  have hnew : Battery.new.socSrc ≠ socSrcGauge := by decide
  constructor
  · refine EveryStep.of_invariant (I := fun battery => battery.socSrc ≠ socSrcGauge)
      (fun battery event hmem hsrc hkept => ?_) _ hnew
    exact ⟨(percentKept_iff battery event hsrc).1 hkept,
      socSrc_step battery (hgauge event hmem) hsrc⟩
  · refine EveryStep.of_invariant (I := fun battery => battery.socSrc ≠ socSrcGauge)
      (fun battery event hmem hsrc hkept => ?_) _ hnew
    exact ⟨(percentKept_iff battery event hsrc).2 hkept,
      socSrc_step battery (hgauge event hmem) hsrc⟩

/-- A charging tick and a gone adapter, before the counter answers. -/
theorem percent_kept_iff_gone :
    EveryStep step PercentKept Battery.new [.tick onLineTick, .gaugeFailed, .tick goneTick] ↔
      EveryStep step (fun battery event => battery.drivenDropout event = false)
        Battery.new [.tick onLineTick, .gaugeFailed, .tick goneTick] :=
  percent_kept_iff [.tick onLineTick, .gaugeFailed, .tick goneTick] (by decide)

/-- One dropout of the bus, a quarter of a second after a charging tick. -/
def dropoutTick : Sample where
  vbatUv := 4400000
  vbusUv := 4000000
  iinUa := 39000
  iinPeakUa := 1000000
  vacUnplug := false
  inputReadingsUsable := true
  socRising := false
  nowMs := 1250

/-- The dropout publishes 100 % of a driven pack. -/
theorem not_percent_kept :
    ¬EveryStep step PercentKept Battery.new [.tick onLineTick, .tick dropoutTick] := by
  decide

/-! ### Notifications -/

/-- The battery, and the pair that was published when the class was last notified. -/
structure Watched where
  battery : Battery
  told : Option (BitVec 32 × Nat)

namespace Watched

/-- Before the first sample, and before the class was notified at all. -/
def new : Watched where
  battery := Battery.new
  told := none

/-- The published pair. -/
def published (watched : Watched) : BitVec 32 × Nat :=
  (watched.battery.lastPowerState, watched.battery.lastPct)

/-- One event of the battery, with what the class driver is told. -/
def step (watched : Watched) (event : Event) : Watched where
  battery := watched.battery.step event
  told :=
    match event with
    | .tick sample =>
        if (watched.battery.updateFromTelemetry sample).2 then
          some ((watched.battery.updateFromTelemetry sample).1.lastPowerState,
            (watched.battery.updateFromTelemetry sample).1.lastPct)
        else watched.told
    | _ => watched.told

/-- A tick with the class attached ends with the published pair told. -/
def Notified (watched : Watched) (event : Event) : Prop :=
  match event with
  | .tick _ =>
      (watched.step event).battery.attached = true →
        (watched.step event).told = some (watched.step event).published
  | _ => True

end Watched

/-- The two flags of the holds, as bits of the power state. -/
def flagBits (flags : Bool × Bool) : BitVec 32 :=
  (if flags.1 then batteryPowerOnLine else 0) |||
    if flags.2 then batteryCharging else if !flags.1 then batteryDischarging else 0

/-- The critical bit of a percentage. -/
def levelBit (pct : Nat) : BitVec 32 :=
  if pct ≠ batteryUnknownCapacity ∧ pct ≤ 5 then batteryCritical else 0

/-- The held flags. -/
def flags (battery : Battery) : Bool × Bool := (battery.online, battery.charging)

/-- The published state is the flags and the warning of a low battery. -/
theorem powerState_eq (battery : Battery) :
    battery.powerState = flagBits battery.flags ||| levelBit battery.lastPct := rfl

/-- There is a warning or there is none. -/
theorem levelBit_cases (pct : Nat) : levelBit pct = 0 ∨ levelBit pct = batteryCritical := by
  unfold levelBit
  split
  · exact Or.inr rfl
  · exact Or.inl rfl

/-- The critical bit hides no change of the flags. -/
theorem flagBits_of_or {a b : Bool × Bool} {p q : Nat}
    (h : flagBits a ||| levelBit p = flagBits b ||| levelBit q) : flagBits a = flagBits b := by
  obtain ⟨a1, a2⟩ := a
  obtain ⟨b1, b2⟩ := b
  rcases levelBit_cases p with hp | hp <;> rcases levelBit_cases q with hq | hq <;>
    rw [hp, hq] at h <;> revert h <;> cases a1 <;> cases a2 <;> cases b1 <;> cases b2 <;> decide

/-- Some flag is always published. -/
theorem powerState_ne_zero (battery : Battery) : battery.powerState ≠ 0 := by
  rw [powerState_eq]
  obtain ⟨online, charging⟩ := battery.flags
  rcases levelBit_cases battery.lastPct with hpct | hpct <;> rw [hpct] <;>
    cases online <;> cases charging <;> decide

/-- The charging hold after a sample. -/
def chargingHoldAfter (battery : Battery) (sample : Sample) : Hold :=
  battery.chargingHold.update
    (chargingRaw (battery.onlineHoldAfter sample).held sample.iinUa sample.iinPeakUa
      sample.socRising)
    sample.nowMs chargingHoldMs

/-- The flags that the holds give for a sample. -/
def flagsAfter (battery : Battery) (sample : Sample) : Bool × Bool :=
  ((battery.onlineHoldAfter sample).held,
    (battery.chargingHoldAfter sample).held && (battery.onlineHoldAfter sample).held)

/-- The hold of the charge is moved by the tick. -/
theorem update_chargingHold (battery : Battery) (sample : Sample) :
    (battery.updateFromTelemetry sample).1.chargingHold = battery.chargingHoldAfter sample := by
  obtain ⟨notified, h⟩ := updateFromTelemetry_eq battery sample
  rw [h, chargingHoldAfter, onlineHoldAfter, releaseOf]
  unfold built
  rw [estimatePct_eq]
  rfl

/-- A tick leaves the trend of the gauge alone. -/
theorem update_socTrend (battery : Battery) (sample : Sample) :
    (battery.updateFromTelemetry sample).1.socTrend = battery.socTrend := by
  obtain ⟨notified, h⟩ := updateFromTelemetry_eq battery sample
  rw [h]
  unfold built
  rw [estimatePct_eq]
  rfl

/-- The published flags are those of the tick. -/
theorem update_flags (battery : Battery) (sample : Sample) :
    (battery.updateFromTelemetry sample).1.flags = battery.flagsAfter sample := by
  rw [flags, charging, online, update_onlineHold, update_chargingHold]
  rfl

/-- The step loses no change: a tick without the class moves no flag, and the first power
state is built in a tick with the class. -/
def LosesNothing (battery : Battery) : Event → Prop
  | .tick sample =>
      battery.attached = true ∨
        battery.lastPowerState ≠ 0 ∧ battery.flagsAfter sample = battery.flags
  | .query => battery.lastPowerState ≠ 0
  | _ => True

instance (battery : Battery) (event : Event) : Decidable (battery.LosesNothing event) :=
  match event with
  | .tick _ => inferInstanceAs (Decidable (_ = _ ∨ _ ≠ _ ∧ _ = _))
  | .query => inferInstanceAs (Decidable (_ ≠ _))
  | .gauge .. => isTrue trivial
  | .gaugeFailed => isTrue trivial
  | .attach => isTrue trivial
  | .detach => isTrue trivial

namespace Watched

instance (watched : Watched) (event : Event) : Decidable (watched.Notified event) :=
  match event with
  | .tick _ => inferInstanceAs (Decidable (_ = _ → _ = _))
  | .query => isTrue trivial
  | .gauge .. => isTrue trivial
  | .gaugeFailed => isTrue trivial
  | .attach => isTrue trivial
  | .detach => isTrue trivial

/-- The pair told is the one of the held flags and the notified percentage, and the published
state differs from it in the critical bit at most. -/
def Consistent (watched : Watched) : Prop :=
  (watched.told = none ∧ watched.battery.lastPowerState = 0) ∨
    (watched.told = some (flagBits watched.battery.flags |||
        levelBit watched.battery.notifiedPct, watched.battery.notifiedPct) ∧
      ∃ pct, watched.battery.lastPowerState = flagBits watched.battery.flags ||| levelBit pct)

/-- What is built from a sample: the power state of the new flags, and nothing told yet. -/
theorem built_eq (battery : Battery) (sample : Sample) :
    (battery.built sample).lastPowerState =
        flagBits (battery.flagsAfter sample) ||| levelBit (battery.built sample).lastPct ∧
      (battery.built sample).flags = battery.flagsAfter sample ∧
      (battery.built sample).notifiedPct = battery.notifiedPct ∧
      (battery.built sample).attached = battery.attached := by
  unfold built
  rw [estimatePct_eq]
  exact ⟨rfl, rfl, rfl, rfl⟩

/-- A tick that builds the pair it found builds the pair that was told. -/
theorem told_of_same {watched : Watched} {sample : Sample} (h : watched.Consistent)
    (hpower : (watched.battery.built sample).lastPowerState = watched.battery.lastPowerState)
    (hpct : (watched.battery.built sample).lastPct =
      (watched.battery.built sample).notifiedPct) :
    watched.told = some ((watched.battery.built sample).lastPowerState,
      (watched.battery.built sample).lastPct) := by
  obtain ⟨hbuilt, -, hnotified, -⟩ := built_eq watched.battery sample
  rcases h with ⟨-, hzero⟩ | ⟨htold, pct, hlast⟩
  · -- nothing built yet: the new power state is not zero
    rw [hzero] at hpower
    exact absurd hpower (powerState_ne_zero _)
  · rw [hnotified] at hpct
    have hflags : flagBits (watched.battery.flagsAfter sample) =
        flagBits watched.battery.flags := by
      refine flagBits_of_or (p := (watched.battery.built sample).lastPct) (q := pct) ?_
      rw [← hbuilt, hpower, hlast]
    rw [htold, hbuilt, hflags, hpct]

/-- Step lemma: a step that loses nothing ends with the published pair told, if it is a tick
with the class. -/
theorem consistent_step {watched : Watched} {event : Event} (h : watched.Consistent)
    (hkept : watched.battery.LosesNothing event) :
    watched.Notified event ∧ (watched.step event).Consistent := by
  cases event with
  | tick sample =>
      obtain ⟨hbuilt, hflags, hnotified, hattached⟩ := built_eq watched.battery sample
      unfold Notified Consistent published step
      simp only [Battery.step]
      rcases updateFromTelemetry_cases watched.battery sample with
        ⟨hpower, hpct, heq⟩ | ⟨-, heq⟩ | ⟨hdetached, heq⟩
      · have htold := told_of_same h hpower hpct
        rw [heq]
        refine ⟨fun _ => htold, Or.inr ⟨?_, (watched.battery.built sample).lastPct, ?_⟩⟩
        · rw [hflags, ← hpct, ← hbuilt]
          exact htold
        · rw [hflags]
          exact hbuilt
      · rw [heq]
        rw [← hflags] at hbuilt
        refine ⟨fun _ => rfl, Or.inr ⟨?_, (watched.battery.built sample).lastPct, ?_⟩⟩
        · exact congrArg (fun power => some (power, _)) hbuilt
        · exact hbuilt
      · rw [heq]
        refine ⟨fun h => absurd h (by rw [hdetached]; decide), ?_⟩
        -- without the class the flags stand still, so the pair told keeps its meaning
        rw [hattached] at hdetached
        rcases hkept with hclass | ⟨hfirst, hstill⟩
        · exact absurd hclass (by rw [hdetached]; decide)
        · rcases h with ⟨-, hzero⟩ | ⟨htold, -⟩
          · exact absurd hzero hfirst
          · refine Or.inr ⟨?_, (watched.battery.built sample).lastPct, ?_⟩
            · rw [hflags, hstill, hnotified]
              exact htold
            · rw [hflags]
              exact hbuilt
  | query =>
      refine ⟨trivial, ?_⟩
      rcases h with ⟨-, hzero⟩ | ⟨htold, -⟩
      · exact absurd hzero hkept
      · exact Or.inr ⟨htold, watched.battery.lastPct, rfl⟩
  | gauge raw nowMs => exact ⟨trivial, h⟩
  | gaugeFailed => exact ⟨trivial, h⟩
  | attach => exact ⟨trivial, h⟩
  | detach => exact ⟨trivial, h⟩

end Watched

/-- In every run in which no tick without the class moves a held flag, and in which the first
power state is built in a tick with the class, each tick with the class ends with the
published pair told. -/
theorem notified_run (events : List Event)
    (hkept : EveryStep Watched.step (fun watched event => watched.battery.LosesNothing event)
      Watched.new events) :
    EveryStep Watched.step Watched.Notified Watched.new events :=
  EveryStep.of_invariant (I := Watched.Consistent)
    (fun _ _ _ h hstep => Watched.consistent_step h hstep) Watched.new (Or.inl ⟨rfl, rfl⟩) hkept

/-- The class goes away for a tick that moves no flag. -/
theorem notified_run_attached :
    EveryStep Watched.step Watched.Notified Watched.new
      [.attach, .tick onLineTick, .gauge 128 2000, .query, .tick onLineTick, .detach,
        .tick onLineTick, .attach, .tick goneTick] :=
  notified_run _ (by decide)

/-- A removal that three ticks confirm while the class is away is never told. -/
theorem not_notified :
    ¬EveryStep Watched.step Watched.Notified Watched.new
      [.attach, .tick onLineTick, .gauge 128 2000, .tick onLineTick, .detach, .tick goneTick,
        .tick goneTick, .tick goneTick, .attach, .tick goneTick] := by
  decide

end Battery

end Kmdf
