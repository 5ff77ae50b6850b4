import NabuCharger.Kmdf.DriverRules
import NabuCharger.Proofs.BatteryFlags

/-!
# `Proofs.StatusQuery`: a status request feeds the battery too

`GET_STATUS` hands the stored sample to the battery once more. `Context.step` is what a tick
and a request do to the telemetry and the battery, and `handleGetStatus_context` and
`observe_flags` connect it to the programs.

Every request counts as one more sample of the unplug run and of both holds, so a poller can
end the online window early or keep it open (`not_getStatus_transparent`). The property holds
when every request finds the counters where its sample moves nothing
(`getStatus_transparent`): a simulation between the run with the requests and the run without
them, on holds that agree in all that a later sample can tell (`HoldAlike`).
-/

set_option autoImplicit false

namespace Kmdf

open Effectful Ln8000

/-! ### Ticks and requests -/

/-- What reaches the telemetry and the battery: a tick with what it observed and the outcome
of the counter poll, and a status request with what it has read by itself. -/
inductive TelemetryEvent
  | tick (obs : Observation) (gauge : GaugePoll)
  | getStatus (answer : StatusAnswer) (nowMs : Nat)

/-- The event is a tick, not a query. -/
def TelemetryEvent.isTick : TelemetryEvent → Bool
  | .tick .. => true
  | .getStatus .. => false

namespace Context

/-- The sample of a tick is stored. -/
def store (ctx : Context) (obs : Observation) : Context :=
  { ctx with telemetry := ctx.telemetry.push obs.sample }

/-- The peak and the counter, on a bound device. -/
def publish (ctx : Context) (obs : Observation) (gauge : GaugePoll) : Context :=
  if ctx.deviceBound then (ctx.trackPeak obs.sample).publishGauge gauge obs.sample.tsMs
  else ctx

/-- The context after a tick has stored and published what it observed. -/
def tick (ctx : Context) (obs : Observation) (gauge : GaugePoll) : Context :=
  ((ctx.store obs).updateBattery obs).publish obs gauge

/-- The answer with the stored sample, if there is one. -/
def filled (ctx : Context) (answer : StatusAnswer) : StatusAnswer :=
  match ctx.telemetry.lastSample with
  | some sample => answer.withSample sample
  | none => answer

/-- The context after a status request. -/
def getStatus (ctx : Context) (answer : StatusAnswer) (nowMs : Nat) : Context :=
  let answer := ctx.filled answer
  if answer.vbatUv > 0 ∨ answer.vbusUv > 0 then
    { ctx with
      battery :=
        (ctx.battery.updateFromTelemetry
          (answer.batterySample ctx.maxIinUa ctx.battery.socRising nowMs)).1 }
  else ctx

/-- One event on the context. -/
def step (ctx : Context) : TelemetryEvent → Context
  | .tick obs gauge => ctx.tick obs gauge
  | .getStatus answer nowMs => ctx.getStatus answer nowMs

end Context

/-- The published `POWER_ON_LINE` and `CHARGING`. -/
def Battery.publishedFlags (battery : Battery) : Bool × Bool :=
  (decide (battery.lastPowerState &&& batteryPowerOnLine ≠ 0),
    decide (battery.lastPowerState &&& batteryCharging ≠ 0))

/-- The flags published after each tick of a run. -/
def flagsAfterTicks : Context → List TelemetryEvent → List (Bool × Bool)
  | _, [] => []
  | ctx, .tick obs gauge :: events =>
      (ctx.tick obs gauge).battery.publishedFlags ::
        flagsAfterTicks (ctx.tick obs gauge) events
  | ctx, .getStatus answer nowMs :: events =>
      flagsAfterTicks (ctx.getStatus answer nowMs) events

/-! ### What a later sample can tell -/

/-- Two holds that no later sample tells apart. -/
structure HoldAlike (a b : Hold) : Prop where
  held : a.held = b.held
  frontRun : a.frontRun = b.frontRun
  frontRun_le : a.frontRun ≤ holdArmRun
  started : a.trueRun = 0 ↔ b.trueRun = 0
  lastTrueMs : a.held = true → a.lastTrueMs = b.lastTrueMs

/-- Both runs of positive samples reach a needed run of at most two together. -/
theorem needed_le_satAdd_iff {a b : Hold} (hstarted : a.trueRun = 0 ↔ b.trueRun = 0)
    {needed : Nat} (hneeded : needed ≤ holdArmRun) :
    needed ≤ satAdd 32 a.trueRun 1 ↔ needed ≤ satAdd 32 b.trueRun 1 := by
  simp only [holdArmRun, satAdd, wordMax] at hneeded ⊢
  omega

/-- A saturating increment is never zero. -/
theorem satAdd_one_ne_zero (n : Nat) : satAdd 32 n 1 ≠ 0 := by
  simp only [satAdd, wordMax]
  omega

/-- One sample keeps two holds alike. -/
theorem HoldAlike.update {a b : Hold} (h : HoldAlike a b) (raw : Bool) (nowMs holdMs : Nat) :
    HoldAlike (a.update raw nowMs holdMs) (b.update raw nowMs holdMs) := by
  unfold Hold.update
  cases raw with
  | true =>
      have hneeded : (if a.held then holdArmRun else a.frontRun) ≤ holdArmRun := by
        split
        · exact le_rfl
        · exact h.frontRun_le
      have hiff := needed_le_satAdd_iff h.started hneeded
      rw [if_pos rfl, if_pos rfl, ← h.held, ← h.frontRun]
      -- the two counters reach the run together, though they differ in value
      by_cases hrun : (if a.held then holdArmRun else a.frontRun) ≤ satAdd 32 a.trueRun 1
      · rw [if_pos hrun, if_pos (hiff.1 hrun)]
        exact ⟨rfl, rfl, h.frontRun_le, by simp [satAdd_one_ne_zero], fun _ => rfl⟩
      · rw [if_neg hrun, if_neg (mt hiff.2 hrun)]
        exact ⟨rfl, rfl, h.frontRun_le, by simp [satAdd_one_ne_zero], h.lastTrueMs⟩
  | false =>
      rw [if_neg Bool.false_ne_true, if_neg Bool.false_ne_true]
      cases hheld : a.held with
      | true =>
          rw [← h.held, hheld, ← h.lastTrueMs hheld]
          by_cases hwindow : nowMs - a.lastTrueMs < holdMs
          · simp only [hwindow, decide_true, Bool.and_self, if_true]
            exact ⟨rfl, h.frontRun, h.frontRun_le, Iff.rfl, fun _ => rfl⟩
          · simp only [hwindow, decide_false, Bool.and_false, Bool.false_eq_true, if_false]
            exact ⟨rfl, h.frontRun, h.frontRun_le, Iff.rfl, fun h => absurd h Bool.false_ne_true⟩
      | false =>
          rw [← h.held, hheld]
          simp only [Bool.false_and, Bool.false_eq_true, if_false]
          exact ⟨rfl, h.frontRun, h.frontRun_le, Iff.rfl, fun h => absurd h Bool.false_ne_true⟩

/-- Alike holds stay alike under the same evidence. -/
theorem HoldAlike.updateEvidence {a b : Hold} (h : HoldAlike a b) (evidence : Option Bool)
    (nowMs holdMs : Nat) :
    HoldAlike (a.updateEvidence evidence nowMs holdMs)
      (b.updateEvidence evidence nowMs holdMs) := by
  cases evidence with
  | none => exact h
  | some raw => exact h.update raw nowMs holdMs

/-- The hold is where a sample with this verdict moves nothing that a later one can tell. -/
def holdAbsorbs (hold : Hold) (evidence : Option Bool) (nowMs holdMs : Nat) : Bool :=
  match evidence with
  | none => true
  | some true =>
      hold.held && decide (hold.trueRun ≠ 0) && decide (hold.lastTrueMs = nowMs)
  | some false =>
      decide (hold.trueRun = 0)
        && (!hold.held || decide (nowMs - hold.lastTrueMs < holdMs))

/-- A sample that the hold absorbs keeps it like any hold it was like. -/
theorem HoldAlike.absorbs {a b : Hold} (h : HoldAlike a b) {evidence : Option Bool}
    {nowMs holdMs : Nat} (habsorbs : holdAbsorbs b evidence nowMs holdMs = true) :
    HoldAlike a (b.updateEvidence evidence nowMs holdMs) := by
  -- the evidence of a query changes nothing that the holds are alike in
  rcases evidence with _ | _ | _
  · exact h
  · simp only [holdAbsorbs, Bool.and_eq_true, decide_eq_true_eq, Bool.or_eq_true,
      Bool.not_eq_true'] at habsorbs
    obtain ⟨hrun, hwindow⟩ := habsorbs
    rw [Hold.updateEvidence_some, Hold.update, if_neg Bool.false_ne_true]
    rcases hwindow with hheld | hwindow
    · rw [hheld]
      simp only [Bool.false_and, Bool.false_eq_true, if_false]
      exact ⟨h.held.trans hheld, h.frontRun, h.frontRun_le,
        ⟨fun _ => rfl, fun _ => h.started.2 hrun⟩,
        fun hup => absurd ((h.held.trans hheld).symm.trans hup) Bool.false_ne_true⟩
    · cases hheld : b.held with
      | true =>
          simp only [hwindow, decide_true, Bool.and_self, if_true]
          exact ⟨h.held.trans hheld, h.frontRun, h.frontRun_le,
            ⟨fun _ => rfl, fun _ => h.started.2 hrun⟩, h.lastTrueMs⟩
      | false =>
          simp only [Bool.false_and, Bool.false_eq_true, if_false]
          exact ⟨h.held.trans hheld, h.frontRun, h.frontRun_le,
            ⟨fun _ => rfl, fun _ => h.started.2 hrun⟩,
            fun hup => absurd ((h.held.trans hheld).symm.trans hup) Bool.false_ne_true⟩
  · simp only [holdAbsorbs, Bool.and_eq_true, decide_eq_true_eq] at habsorbs
    obtain ⟨⟨hheld, hrun⟩, hnow⟩ := habsorbs
    have hneeded : holdArmRun ≤ satAdd 32 b.trueRun 1 := by
      simp only [holdArmRun, satAdd, wordMax]
      omega
    have hstarted : a.trueRun ≠ 0 := mt h.started.1 hrun
    rw [Hold.updateEvidence_some, Hold.update, if_pos rfl, hheld]
    simp only [if_true, if_pos hneeded]
    exact ⟨h.held.trans hheld, h.frontRun, h.frontRun_le,
      iff_of_false hstarted (satAdd_one_ne_zero _), fun hup => (h.lastTrueMs hup).trans hnow⟩

/-- Two batteries that no later sample tells apart, as far as the flags go. -/
structure BatteryAlike (a b : Battery) : Prop where
  online : HoldAlike a.onlineHold b.onlineHold
  charging : HoldAlike a.chargingHold b.chargingHold
  unplugRun : min a.unplugRun (unplugReleaseRun - 1) = min b.unplugRun (unplugReleaseRun - 1)
  socTrend : a.socTrend = b.socTrend

/-- The release is decided alike, and the runs stay alike. -/
theorem releaseOf_alike {a b : Battery}
    (h : min a.unplugRun (unplugReleaseRun - 1) = min b.unplugRun (unplugReleaseRun - 1))
    (sample : Battery.Sample) :
    (a.releaseOf sample).1 = (b.releaseOf sample).1 ∧
      min (a.releaseOf sample).2 (unplugReleaseRun - 1) =
        min (b.releaseOf sample).2 (unplugReleaseRun - 1) := by
  unfold Battery.releaseOf unplugRelease
  split
  · exact ⟨rfl, rfl⟩
  · simp only [unplugReleaseRun, satAdd, wordMax] at h ⊢
    refine ⟨decide_eq_decide.2 ?_, ?_⟩ <;> omega

/-- Alike batteries compute alike online holds. -/
theorem onlineHoldAfter_alike {a b : Battery} (h : BatteryAlike a b) (sample : Battery.Sample) :
    HoldAlike (a.onlineHoldAfter sample) (b.onlineHoldAfter sample) := by
  unfold Battery.onlineHoldAfter
  rw [(releaseOf_alike h.unplugRun sample).1]
  split
  · exact h.online.update _ _ _
  · exact h.online.updateEvidence _ _ _

/-- Step lemma: the sample of a tick keeps two batteries alike. -/
theorem BatteryAlike.update {a b : Battery} (h : BatteryAlike a b) (sample : Battery.Sample) :
    BatteryAlike (a.updateFromTelemetry sample).1 (b.updateFromTelemetry sample).1 := by
  have honline := onlineHoldAfter_alike h sample
  refine ⟨?_, ?_, ?_, ?_⟩
  · rw [Battery.update_onlineHold, Battery.update_onlineHold]
    exact honline
  · rw [Battery.update_chargingHold, Battery.update_chargingHold, Battery.chargingHoldAfter,
      Battery.chargingHoldAfter, honline.held]
    exact h.charging.update _ _ _
  · rw [Battery.update_unplugRun, Battery.update_unplugRun]
    exact (releaseOf_alike h.unplugRun sample).2
  · rw [Battery.update_socTrend, Battery.update_socTrend]
    exact h.socTrend

/-- The flags a tick publishes are those of the holds, which are alike. -/
theorem BatteryAlike.publishedFlags {a b : Battery} (h : BatteryAlike a b)
    (sample : Battery.Sample) :
    (a.updateFromTelemetry sample).1.publishedFlags =
      (b.updateFromTelemetry sample).1.publishedFlags := by
  have hnext := h.update sample
  have honline : (a.updateFromTelemetry sample).1.online =
      (b.updateFromTelemetry sample).1.online := hnext.online.held
  have hcharging : (a.updateFromTelemetry sample).1.charging =
      (b.updateFromTelemetry sample).1.charging := by
    rw [Battery.charging, Battery.charging, honline, hnext.charging.held]
  unfold Battery.publishedFlags
  rw [Battery.lastPowerState_update, Battery.lastPowerState_update, Prod.mk.injEq,
    decide_eq_decide, decide_eq_decide, Battery.powerState_onLine, Battery.powerState_onLine,
    Battery.powerState_charging, Battery.powerState_charging, honline, hcharging]
  exact ⟨Iff.rfl, Iff.rfl⟩

/-- The sample of a request moves nothing that a later one can tell: neither the unplug run,
nor the online hold with the verdict the sample carries, nor the charging hold. -/
def Battery.absorbs (battery : Battery) (sample : Battery.Sample) : Bool :=
  let release := battery.releaseOf sample
  decide (min release.2 (unplugReleaseRun - 1) =
      min battery.unplugRun (unplugReleaseRun - 1))
    && (if release.1 then holdAbsorbs battery.onlineHold (some false) sample.nowMs 0
      else holdAbsorbs battery.onlineHold sample.rawOnline sample.nowMs onlineHoldMs)
    && holdAbsorbs battery.chargingHold
      (some (chargingRaw battery.online sample.iinUa sample.iinPeakUa sample.socRising))
      sample.nowMs chargingHoldMs

/-- Step lemma: an absorbed sample keeps a battery like any battery it was like. -/
theorem BatteryAlike.absorbs {a b : Battery} (h : BatteryAlike a b) {sample : Battery.Sample}
    (habsorbs : b.absorbs sample = true) : BatteryAlike a (b.updateFromTelemetry sample).1 := by
  simp only [Battery.absorbs, Bool.and_eq_true, decide_eq_true_eq] at habsorbs
  obtain ⟨⟨hrun, honline⟩, hcharging⟩ := habsorbs
  -- the release, if any, touches the counter of the unplug only
  have hheld : HoldAlike a.onlineHold (b.onlineHoldAfter sample) := by
    unfold Battery.onlineHoldAfter
    by_cases hrelease : (b.releaseOf sample).1 = true
    · rw [if_pos hrelease] at honline ⊢
      exact h.online.absorbs honline
    · rw [if_neg hrelease] at honline ⊢
      exact h.online.absorbs honline
  refine ⟨?_, ?_, ?_, ?_⟩
  · rw [Battery.update_onlineHold]
    exact hheld
  · rw [Battery.update_chargingHold, Battery.chargingHoldAfter, ← hheld.held, h.online.held]
    exact h.charging.absorbs hcharging
  · rw [Battery.update_unplugRun, hrun]
    exact h.unplugRun
  · rw [Battery.update_socTrend]
    exact h.socTrend

/-! ### The simulation -/

/-- The contexts of a run without the requests and of one with them. -/
structure ContextAlike (a b : Context) : Prop where
  battery : BatteryAlike a.battery b.battery
  telemetry : a.telemetry = b.telemetry
  maxIinUa : a.maxIinUa = b.maxIinUa
  iinWindowStartMs : a.iinWindowStartMs = b.iinWindowStartMs
  deviceBound : a.deviceBound = b.deviceBound

/-- The sample a tick hands to the battery is the same in both. -/
theorem ContextAlike.updateBattery {a b : Context} (h : ContextAlike a b) (obs : Observation) :
    ContextAlike (a.updateBattery obs) (b.updateBattery obs) ∧
      (a.updateBattery obs).battery.publishedFlags =
        (b.updateBattery obs).battery.publishedFlags := by
  have hsample : obs.batterySample a.maxIinUa a.battery.socRising =
      obs.batterySample b.maxIinUa b.battery.socRising := by
    rw [h.maxIinUa, Battery.socRising, Battery.socRising, h.battery.socTrend]
  unfold Context.updateBattery
  rw [hsample]
  exact ⟨⟨h.battery.update _, h.telemetry, h.maxIinUa, h.iinWindowStartMs, h.deviceBound⟩,
    h.battery.publishedFlags _⟩

/-- Alike contexts track the same peak. -/
theorem ContextAlike.trackPeak {a b : Context} (h : ContextAlike a b)
    (sample : TelemetrySample) : ContextAlike (a.trackPeak sample) (b.trackPeak sample) := by
  unfold Context.trackPeak
  rw [← h.iinWindowStartMs, ← h.maxIinUa]
  split
  · exact ⟨h.battery, h.telemetry, rfl, rfl, h.deviceBound⟩
  · exact ⟨h.battery, h.telemetry, rfl, rfl, h.deviceBound⟩

/-- Alike contexts publish the same gauge. -/
theorem ContextAlike.publishGauge {a b : Context} (h : ContextAlike a b) (gauge : GaugePoll)
    (tsMs : Nat) : ContextAlike (a.publishGauge gauge tsMs) (b.publishGauge gauge tsMs) := by
  cases gauge with
  | raw raw =>
      have htrend : a.battery.socTrend.update raw tsMs = b.battery.socTrend.update raw tsMs := by
        rw [h.battery.socTrend]
      exact ⟨⟨h.battery.online, h.battery.charging, h.battery.unplugRun, htrend⟩, h.telemetry,
        h.maxIinUa, h.iinWindowStartMs, h.deviceBound⟩
  | failed =>
      exact ⟨⟨h.battery.online, h.battery.charging, h.battery.unplugRun, h.battery.socTrend⟩,
        h.telemetry, h.maxIinUa, h.iinWindowStartMs, h.deviceBound⟩
  | skipped => exact h

/-- The peak and the counter leave the published flags alone. -/
theorem publishedFlags_publish (ctx : Context) (sample : TelemetrySample) (gauge : GaugePoll)
    (tsMs : Nat) :
    ((ctx.trackPeak sample).publishGauge gauge tsMs).battery.publishedFlags =
      ctx.battery.publishedFlags := by
  unfold Context.trackPeak
  cases gauge <;> simp only [Context.publishGauge] <;> split <;> rfl

/-- Step lemma: a tick keeps the two contexts alike and publishes the same flags in both. -/
theorem ContextAlike.tick {a b : Context} (h : ContextAlike a b) (obs : Observation)
    (gauge : GaugePoll) :
    ContextAlike (a.tick obs gauge) (b.tick obs gauge) ∧
      (a.tick obs gauge).battery.publishedFlags = (b.tick obs gauge).battery.publishedFlags := by
  -- the store looks at nothing the contexts differ in
  have hstored : ContextAlike (a.store obs) (b.store obs) :=
    ⟨h.battery, congrArg (fun telemetry => telemetry.push obs.sample) h.telemetry, h.maxIinUa,
      h.iinWindowStartMs, h.deviceBound⟩
  obtain ⟨hupdated, hflags⟩ := hstored.updateBattery obs
  unfold Context.tick Context.publish
  rw [hupdated.deviceBound]
  split
  · refine ⟨(hupdated.trackPeak _).publishGauge _ _, ?_⟩
    rw [publishedFlags_publish, publishedFlags_publish]
    exact hflags
  · exact ⟨hupdated, hflags⟩

/-- The request does not disturb the battery: it knows no voltage, or its sample is
absorbed. -/
def Undisturbing (ctx : Context) : TelemetryEvent → Prop
  | .tick .. => True
  | .getStatus answer nowMs =>
      ((ctx.filled answer).vbatUv = 0 ∧ (ctx.filled answer).vbusUv = 0) ∨
        ctx.battery.absorbs
          ((ctx.filled answer).batterySample ctx.maxIinUa ctx.battery.socRising nowMs) = true

instance (ctx : Context) (event : TelemetryEvent) : Decidable (Undisturbing ctx event) :=
  match event with
  | .tick .. => isTrue trivial
  | .getStatus .. => inferInstanceAs (Decidable (_ ∧ _ ∨ _ = _))

/-- Step lemma: an undisturbing request keeps the contexts alike. -/
theorem ContextAlike.getStatus {a b : Context} (h : ContextAlike a b) {answer : StatusAnswer}
    {nowMs : Nat} (hquiet : Undisturbing b (.getStatus answer nowMs)) :
    ContextAlike a (b.getStatus answer nowMs) := by
  unfold Context.getStatus
  simp only
  split
  case isTrue hfed =>
    rcases hquiet with ⟨hvbat, hvbus⟩ | habsorbs
    · omega
    · exact ⟨h.battery.absorbs habsorbs, h.telemetry, h.maxIinUa, h.iinWindowStartMs,
        h.deviceBound⟩
  case isFalse => exact h

/-- Run lemma: alike contexts publish the same flags after every tick, with undisturbing
requests in one run and none in the other. -/
theorem flagsAfterTicks_filter (events : List TelemetryEvent) :
    ∀ a b : Context, ContextAlike a b → EveryStep Context.step Undisturbing b events →
      flagsAfterTicks b events = flagsAfterTicks a (events.filter TelemetryEvent.isTick) := by
  induction events with
  | nil => exact fun a b _ _ => rfl
  | cons event events ih =>
      intro a b h hquiet
      cases event with
      | tick obs gauge =>
          obtain ⟨hnext, hflags⟩ := h.tick obs gauge
          rw [List.filter_cons_of_pos rfl, flagsAfterTicks, flagsAfterTicks, hflags,
            ih _ _ hnext hquiet.2]
      -- a query that does not disturb can be left out
      | getStatus answer nowMs =>
          rw [List.filter_cons_of_neg Bool.false_ne_true, flagsAfterTicks]
          exact ih _ _ (h.getStatus hquiet.1) hquiet.2

/-! ### What the programs do -/

/-- The part of the context a tick or a request moves on the way to the flags. -/
def Context.flagPart (ctx : Context) : Battery × Telemetry × Nat × Nat × Bool :=
  (ctx.battery, ctx.telemetry, ctx.maxIinUa, ctx.iinWindowStartMs, ctx.deviceBound)

/-- The flag part of the held state stays `c`. -/
abbrev FlagsStay (c : Battery × Telemetry × Nat × Nat × Bool) (s : Held) (_ : Unit) : Prop :=
  s.toContext.flagPart = c

section
variable {c : Battery × Telemetry × Nat × Nat × Bool}

/-- No program of the pump reaches the context. -/
theorem onPump_context {ε α : Type} (x : Proc BusEffect ε Pump α) (ctx : Context) :
    Proc.Keeps (Machine.free DevEffect) (fun (s : Held) _ => s.toContext = ctx) (onPump x) := by
  refine Proc.Keeps.onPart fun s m hs => ?_
  unfold Proc.wp
  exact Prog.wp_free _ (fun _ _ => hs) m

/-- A pump program does not touch the flags. -/
theorem onPump_flags {ε α : Type} (x : Proc BusEffect ε Pump α) :
    Proc.Keeps (Machine.free DevEffect) (FlagsStay c) (onPump x) := by
  refine ⟨fun s m hs => ?_⟩
  refine Proc.wp_mono ((onPump_context x s.toContext).run s m rfl) fun _ s' _ h => ?_
  exact (congrArg Context.flagPart h).trans hs

/-- A host access does not touch the flags. -/
theorem host_flags (o : HostOp) :
    Proc.Keeps (Machine.free DevEffect) (FlagsStay c)
      (host o : Proc DevEffect Empty Held _) :=
  Proc.Keeps.perform (M := Machine.free DevEffect) (o := Sum.inr o) fun _ _ h =>
    ⟨trivial, fun _ _ => h⟩

/-- Writing the buck limit does not touch the flags. -/
theorem writeFcc_flags (want : Byte) :
    Proc.Keeps (Machine.free DevEffect) (FlagsStay c) (writeFcc want) :=
  (host_flags _).bind fun _ => Proc.Keeps.pure _

/-- Probing the buck limit does not touch the flags. -/
theorem probeFcc_flags (obs : Observation) :
    Proc.Keeps (Machine.free DevEffect) (FlagsStay c) (probeFcc obs) := by
  refine Proc.Keeps.get.bind fun s => Proc.Keeps.when fun _ => ?_
  refine (Proc.Keeps.when fun _ => ?_).bind fun _ => Proc.Keeps.modify fun _ _ h => h
  exact (writeFcc_flags _).bind fun _ => (writeFcc_flags _).bind fun _ => Proc.Keeps.pure ()

/-- The time is a variable here: the kernel would unfold a sum of milliseconds. -/
theorem flagPart_fccRestoreAtMs (ms : Nat) (s : Held) :
    ({ s with fccRestoreAtMs := ms } : Held).toContext.flagPart = s.toContext.flagPart := rfl

/-- The policy of the buck limit does not touch the flags. -/
theorem runFccPolicy_flags (obs : Observation) :
    Proc.Keeps (Machine.free DevEffect) (FlagsStay c) (runFccPolicy obs) := by
  refine Proc.Keeps.get.bind fun s => Proc.Keeps.ite (fun _ => ?_) fun _ => ?_
  · refine (Proc.Keeps.modify fun _ _ h => by exact h).bind fun _ => Proc.Keeps.when fun _ => ?_
    exact (writeFcc_flags _).bind fun _ => Proc.Keeps.when fun _ =>
      Proc.Keeps.modify fun _ _ h => h
  · refine Proc.Keeps.when fun _ => Proc.Keeps.ite (fun _ => ?_) fun _ => ?_
    · exact Proc.Keeps.modify fun s _ h => (flagPart_fccRestoreAtMs _ s).trans h
    · refine Proc.Keeps.when fun _ => (writeFcc_flags _).bind fun _ => ?_
      exact Proc.Keeps.when fun _ => Proc.Keeps.modify fun _ _ h => h

/-- The snapshot of the buck charger does not touch the flags. -/
theorem snapshotCharger_flags (obs : Observation) :
    Proc.Keeps (Machine.free DevEffect) (FlagsStay c) (snapshotCharger obs) := by
  refine Proc.Keeps.get.bind fun s => Proc.Keeps.when fun _ => ?_
  refine (Proc.Keeps.modify fun _ _ h => by exact h).bind fun _ => ?_
  refine (host_flags .readChargeRegs).bind fun regs => ?_
  refine Proc.Keeps.bind ?_ fun _ => Proc.Keeps.when fun _ => runFccPolicy_flags obs
  cases regs with
  | none => exact Proc.Keeps.pure ()
  | some regs => exact (Proc.Keeps.modify fun _ _ h => by exact h).bind fun _ => probeFcc_flags obs

variable [LoopFuel]

/-- Sampling the converter does not touch the flags. -/
theorem sampleChannels_flags (status : Status) :
    Proc.Keeps (Machine.free DevEffect) (FlagsStay c) (sampleChannels status) := by
  refine (onPump_flags _).bind fun vbat => (onPump_flags _).bind fun vbus => ?_
  refine (onPump_flags _).bind fun iin => (onPump_flags _).bind fun temp => ?_
  exact (host_flags .now).bind fun tsMs => Proc.Keeps.pure _

/-- Keeping the converter awake does not touch the flags. -/
theorem keepAdcAwake_flags (obs : Observation) :
    Proc.Keeps (Machine.free DevEffect) (FlagsStay c) (keepAdcAwake obs) := by
  refine Proc.Keeps.get.bind fun s => ?_
  -- waking or not, no flag of the battery is touched
  cases adcWakeNeeded obs.inputReadingsUsable obs.vacUnplug with
  | none => exact Proc.Keeps.pure ()
  | some wake =>
      cases wake with
      | true =>
          refine Proc.Keeps.when fun _ => (onPump_flags _).bind fun result => ?_
          cases result with
          | ok _ => exact (Proc.Keeps.modify fun _ _ h => by exact h).bind fun _ => host_flags _
          | error _ => exact Proc.Keeps.pure ()
      | false =>
          refine Proc.Keeps.when fun _ => (onPump_flags _).bind fun result => ?_
          cases result with
          | ok _ => exact (Proc.Keeps.modify fun _ _ h => by exact h).bind fun _ => host_flags _
          | error _ => exact Proc.Keeps.pure ()

end

section
variable [LoopFuel]

omit [LoopFuel] in
/-- Two contexts with the same flag part agree on what the flags are made of. -/
theorem flagPart_eq_iff {a b : Context} :
    a.flagPart = b.flagPart ↔ a.battery = b.battery ∧ a.telemetry = b.telemetry ∧
      a.maxIinUa = b.maxIinUa ∧ a.iinWindowStartMs = b.iinWindowStartMs ∧
        a.deviceBound = b.deviceBound := by
  simp only [Context.flagPart, Prod.mk.injEq]

omit [LoopFuel] in
/-- Updating the battery reads nothing but the flag part. -/
theorem flagPart_updateBattery {a b : Context} (h : a.flagPart = b.flagPart)
    (obs : Observation) : (a.updateBattery obs).flagPart = (b.updateBattery obs).flagPart := by
  obtain ⟨hbattery, htelemetry, hmax, hwindow, hbound⟩ := flagPart_eq_iff.1 h
  refine flagPart_eq_iff.2 ⟨?_, htelemetry, hmax, hwindow, hbound⟩
  simp only [Context.updateBattery, hbattery, hmax]

omit [LoopFuel] in
/-- Publishing reads nothing but the flag part. -/
theorem flagPart_publish {a b : Context} (h : a.flagPart = b.flagPart) (obs : Observation)
    (gauge : GaugePoll) : (a.publish obs gauge).flagPart = (b.publish obs gauge).flagPart := by
  obtain ⟨hbattery, htelemetry, hmax, hwindow, hbound⟩ := flagPart_eq_iff.1 h
  unfold Context.publish Context.trackPeak
  rw [hmax, hwindow, hbound]
  split
  · cases gauge <;> simp only [Context.publishGauge] <;> split <;>
      simp only [Context.flagPart, hbattery, htelemetry]
  · exact h

/-- The tick moves the flag part as `Context.tick` does, with what it observed. -/
theorem observe_flags {gauge : GaugePoll} {status : Status} {s : Held}
    {t : List (Effectful.Event DevEffect)} {out : Except Empty Observation × Held}
    (h : Prog.Yields (observe gauge status s) t out) :
    ∃ obs, out.1 = .ok obs ∧
      out.2.toContext.flagPart = (s.toContext.tick obs gauge).flagPart := by
  -- from the sample to the publication each step reads and writes the flag part alone
  have hwp (m : (Machine.free DevEffect).State) :
      (observe gauge status).wp (Machine.free DevEffect)
        (fun outcome s' _ => ∃ obs, outcome = .ok obs ∧
          s'.toContext.flagPart = (s.toContext.tick obs gauge).flagPart) s m := by
    refine (sampleChannels_flags (c := s.toContext.flagPart) status).wp_bind rfl ?_
      fun e => nomatch e
    intro obs s₁ _ h₁
    have hstored : (s₁.toContext.store obs).flagPart = (s.toContext.store obs).flagPart := by
      obtain ⟨hbattery, htelemetry, hmax, hwindow, hbound⟩ :=
        flagPart_eq_iff (b := s.toContext).1 h₁
      refine flagPart_eq_iff.2 ⟨hbattery, ?_, hmax, hwindow, hbound⟩
      simp only [Context.store, htelemetry]
    refine (Proc.wp_bind _ _ _ _ _).2 ((Proc.wp_modify _ _ _ _).2 ?_)
    rw [Proc.thenWp_ok]
    refine (keepAdcAwake_flags (c := (s.toContext.store obs).flagPart) obs).wp_bind hstored
      ?_ fun e => nomatch e
    intro _ s₂ _ h₂
    have hupdated := flagPart_updateBattery (b := s.toContext.store obs) h₂ obs
    refine (Proc.wp_bind _ _ _ _ _).2 ((Proc.wp_modify _ _ _ _).2 ?_)
    rw [Proc.thenWp_ok]
    refine (Proc.wp_bind _ _ _ _ _).2 ((Proc.wp_get _ _ _).2 ?_)
    rw [Proc.thenWp_ok]
    have hpublished := flagPart_publish hupdated obs gauge
    refine (Proc.wp_bind _ _ _ _ _).2 ?_
    -- nothing is published before the device is bound
    by_cases hbound : (s₂.toContext.updateBattery obs).deviceBound = true
    · rw [Context.publish, if_pos hbound] at hpublished
      rw [show (Held.mapContext (fun ctx => ctx.updateBattery obs) s₂).deviceBound = true
        from hbound]
      refine (Proc.wp_bind _ _ _ _ _).2 ((Proc.wp_modify _ _ _ _).2 ?_)
      rw [Proc.thenWp_ok]
      refine Proc.wp_mono ((snapshotCharger_flags
        (c := (s.toContext.tick obs gauge).flagPart) obs).run _ _ hpublished) ?_
      rintro (e | _) s₃ m₃ h₃
      · nomatch e
      · exact (Proc.wp_pure _ _ _ _).2 ⟨obs, rfl, h₃⟩
    · rw [Context.publish, if_neg hbound] at hpublished
      rw [show (Held.mapContext (fun ctx => ctx.updateBattery obs) s₂).deviceBound = false
        from Bool.eq_false_iff.2 hbound]
      exact (Proc.wp_pure _ _ _ _).2 ((Proc.wp_pure _ _ _ _).2 ⟨obs, rfl, hpublished⟩)
  exact Proc.post_free hwp h

/-- The context of the driver stays `ctx`. -/
abbrev ContextStays (ctx : Context) (s : DriverState) (_ : Unit) : Prop := s.toContext = ctx

omit [LoopFuel] in
/-- What leaves the context alone on an open pump leaves it alone with or without one. -/
theorem withPump_context {α : Type} {x : HeldM α} (ctx : Context)
    (hx : Proc.Keeps (Machine.free DevEffect) (fun (s : Held) _ => s.toContext = ctx) x) :
    Proc.Keeps (Machine.free DevEffect) (ContextStays ctx) (withPump x) :=
  withPump_keeps hx

/-- The answer is filled from the stored sample, or by the pump when there is none. -/
theorem fillSample_context (ctx : Context) (answer : StatusAnswer) (s : DriverState)
    (m : (Machine.free DevEffect).State) (hs : s.toContext = ctx) :
    (fillSample answer).wp (Machine.free DevEffect)
      (fun outcome s' _ => ∃ filled, outcome = .ok filled ∧ s'.toContext = ctx ∧
        ctx.filled filled = filled) s m := by
  have hlast : s.telemetry.lastSample = ctx.telemetry.lastSample := by rw [← hs]
  refine (Proc.wp_bind _ _ _ _ _).2 ((Proc.wp_get _ _ _).2 ?_)
  rw [Proc.thenWp_ok, hlast]
  -- the stored sample answers a query, and only without one is the converter read
  cases hsample : ctx.telemetry.lastSample with
  | some sample =>
      have hfilled (filled : StatusAnswer) : ctx.filled filled = filled.withSample sample := by
        rw [Context.filled, hsample]
      simp only
      split
      · exact (Proc.wp_pure _ _ _ _).2 ⟨_, rfl, hs, hfilled _⟩
      · exact (Proc.wp_pure _ _ _ _).2 ⟨_, rfl, hs, hfilled _⟩
  | none =>
      have hfilled (filled : StatusAnswer) : ctx.filled filled = filled := by
        rw [Context.filled, hsample]
      have hread : Proc.Keeps (Machine.free DevEffect) (fun (s : Held) _ => s.toContext = ctx)
          (sampleForStatus answer) :=
        (onPump_context _ ctx).bind fun vbat => (onPump_context _ ctx).bind fun vbus =>
          (onPump_context _ ctx).bind fun iin => (onPump_context _ ctx).bind fun temp =>
            Proc.Keeps.pure _
      refine (withPump_context ctx hread).wp_bind hs ?_ fun e => nomatch e
      exact fun sampled s' _ hs' => (Proc.wp_pure _ _ _ _).2 ⟨_, rfl, hs', hfilled _⟩

/-- A status request moves the context as `Context.getStatus` does. -/
theorem handleGetStatus_context {s : DriverState} {t : List (Effectful.Event DevEffect)}
    {out : Except Empty StatusAnswer × DriverState}
    (h : Prog.Yields (handleGetStatus s) t out) :
    ∃ answer nowMs, out.2.toContext = s.toContext.getStatus answer nowMs := by
  have hwp (m : (Machine.free DevEffect).State) :
      handleGetStatus.wp (Machine.free DevEffect)
        (fun _ s' _ => ∃ answer nowMs, s'.toContext = s.toContext.getStatus answer nowMs)
        s m := by
    refine (Proc.wp_bind _ _ _ _ _).2 ((Proc.wp_get _ _ _).2 ?_)
    rw [Proc.thenWp_ok]
    refine (withPump_context s.toContext (onPump_context _ _)).wp_bind rfl ?_
      fun e => nomatch e
    intro live s₁ _ h₁
    refine (Proc.wp_bind _ _ _ _ _).2 ?_
    refine Proc.wp_mono (fillSample_context s.toContext _ s₁ _ h₁) ?_
    rintro _ s₂ _ ⟨answer, rfl, h₂, hfilled⟩
    rw [Proc.thenWp_ok]
    refine (Proc.wp_bind _ _ _ _ _).2 ?_
    unfold feedBattery
    -- a query feeds the battery only with a voltage in its answer
    by_cases hfed : answer.vbatUv > 0 ∨ answer.vbusUv > 0
    · have hguard : (decide (answer.vbatUv > 0) || decide (answer.vbusUv > 0)) = true := by
        simpa using hfed
      rw [hguard]
      refine (Proc.wp_bind _ _ _ _ _).2 ((Proc.wp_perform _ _ (E := DevEffect) _ _).2
        ⟨trivial, fun nowMs _ => ?_⟩)
      refine (Proc.thenWp_ok _ _ _ _ _).2 ((Proc.wp_modify _ _ _ _).2 ?_)
      refine (Proc.thenWp_ok _ _ _ _ _).2 ((Proc.wp_pure _ _ _ _).2 ⟨answer, nowMs, ?_⟩)
      rw [← h₂] at hfilled ⊢
      simp only [Context.getStatus, hfilled, if_pos hfed]
    · have hguard : (decide (answer.vbatUv > 0) || decide (answer.vbusUv > 0)) = false := by
        simpa using hfed
      rw [hguard]
      refine (Proc.wp_pure _ _ _ _).2 ((Proc.wp_pure _ _ _ _).2 ⟨answer, 0, ?_⟩)
      rw [Context.getStatus, hfilled, if_neg hfed, h₂]
  exact Proc.post_free hwp h

end

/-! ### Every reachable battery -/

/-- An update leaves the length of the first run. -/
theorem frontRun_update (hold : Hold) (raw : Bool) (nowMs holdMs : Nat) :
    (hold.update raw nowMs holdMs).frontRun = hold.frontRun := by
  unfold Hold.update
  simp only [apply_ite Hold.frontRun, ite_self]

/-- An update from evidence leaves the length of the first run. -/
theorem frontRun_updateEvidence (hold : Hold) (evidence : Option Bool) (nowMs holdMs : Nat) :
    (hold.updateEvidence evidence nowMs holdMs).frontRun = hold.frontRun := by
  cases evidence with
  | none => rfl
  | some raw => exact frontRun_update hold raw nowMs holdMs

/-- Both holds are armed by a run of at most two. -/
theorem frontRun_run (events : List Battery.Event) :
    (Battery.new.run events).onlineHold.frontRun ≤ holdArmRun ∧
      (Battery.new.run events).chargingHold.frontRun ≤ holdArmRun := by
  refine foldl_keeps (I := fun battery : Battery =>
    battery.onlineHold.frontRun ≤ holdArmRun ∧ battery.chargingHold.frontRun ≤ holdArmRun)
    (fun battery event _ h => ?_) Battery.new (by decide)
  -- only a tick updates the hold, and no update moves the length of its first run
  cases event with
  | tick sample =>
      have honline : (battery.onlineHoldAfter sample).frontRun = battery.onlineHold.frontRun := by
        unfold Battery.onlineHoldAfter
        split
        · exact frontRun_update _ _ _ _
        · exact frontRun_updateEvidence _ _ _ _
      simp only [Battery.step, Battery.update_onlineHold, Battery.update_chargingHold]
      rw [honline, Battery.chargingHoldAfter, frontRun_update]
      exact h
  | gauge raw nowMs => exact h
  | gaugeFailed => exact h
  | query => exact h
  | attach => exact h
  | detach => exact h

/-- From every battery that can be reached, the flags published after each tick are those of
the run without the status requests, if every request finds its sample absorbed. -/
theorem getStatus_transparent (ctx : Context) (before : List Battery.Event)
    (events : List TelemetryEvent)
    (hquiet : EveryStep Context.step Undisturbing
      { ctx with battery := Battery.new.run before } events) :
    flagsAfterTicks { ctx with battery := Battery.new.run before } events =
      flagsAfterTicks { ctx with battery := Battery.new.run before }
        (events.filter TelemetryEvent.isTick) := by
  obtain ⟨honline, hcharging⟩ := frontRun_run before
  refine flagsAfterTicks_filter events _ _ ⟨⟨?_, ?_, rfl, rfl⟩, rfl, rfl, rfl, rfl⟩ hquiet
  · exact ⟨rfl, rfl, honline, Iff.rfl, fun _ => rfl⟩
  · exact ⟨rfl, rfl, hcharging, Iff.rfl, fun _ => rfl⟩

/-- A status in 2:1, or with the unplug bit. -/
def switchingStatus : Status where
  sysSts := 0x20
  opMode := .switching
  safetySts := 0
  fault1Sts := 0
  fault2Sts := 0
  ldoSts := 0

/-- A status with the unplug bit up. -/
def unplugStatus : Status where
  sysSts := 0x10
  opMode := .standby
  safetySts := 0
  fault1Sts := Regs.fault1VacUnplug
  fault2Sts := 0
  ldoSts := 0

/-- A charging tick at 9 V. -/
def chargingObs : Observation where
  status := switchingStatus
  tsMs := 1000
  vbat := .ok 4100000
  vbus := .ok 9000000
  iin := .ok 1000000
  temp := .ok 300

/-- A tick with the adapter gone. -/
def goneObs (tsMs : Nat) : Observation where
  status := unplugStatus
  tsMs := tsMs
  vbat := .ok 4100000
  vbus := .ok 3000000
  iin := .ok 0
  temp := .ok 300

/-- What a status request has read by itself while the adapter is gone. -/
def goneAnswer : StatusAnswer :=
  { DriverState.new.statusAnswer with fault1Sts := Regs.fault1VacUnplug }

/-- Requests after a confirmed removal move nothing. -/
theorem getStatus_transparent_gone :
    flagsAfterTicks { Context.new with battery := Battery.new.run [] }
        [.tick chargingObs .skipped, .tick (goneObs 1250) .skipped,
          .tick (goneObs 1500) .skipped, .tick (goneObs 1750) .skipped,
          .getStatus goneAnswer 1800, .getStatus goneAnswer 1900,
          .tick (goneObs 2000) .skipped] =
      flagsAfterTicks { Context.new with battery := Battery.new.run [] }
        ([.tick chargingObs .skipped, .tick (goneObs 1250) .skipped,
          .tick (goneObs 1500) .skipped, .tick (goneObs 1750) .skipped,
          .getStatus goneAnswer 1800, .getStatus goneAnswer 1900,
          .tick (goneObs 2000) .skipped].filter TelemetryEvent.isTick) :=
  getStatus_transparent Context.new [] _
    ⟨trivial, trivial, trivial, trivial, by decide, by decide, trivial, trivial⟩

/-- Two requests between two ticks confirm a removal that the ticks alone have not. -/
theorem not_getStatus_transparent :
    flagsAfterTicks Context.new
        [.tick chargingObs .skipped, .tick (goneObs 1250) .skipped,
          .getStatus goneAnswer 1300, .getStatus goneAnswer 1400,
          .tick (goneObs 1500) .skipped] ≠
      flagsAfterTicks Context.new
        ([.tick chargingObs .skipped, .tick (goneObs 1250) .skipped,
          .getStatus goneAnswer 1300, .getStatus goneAnswer 1400,
          .tick (goneObs 1500) .skipped].filter TelemetryEvent.isTick) := by
  decide

end Kmdf
