import NabuCharger.Ln8000.BatteryPolicy

/-!
# `Kmdf.Battery`: the published battery

The statics of `battery.rs` as one record, and the two functions that move them: a telemetry
sample (`updateFromTelemetry`) and a sample of the fuel counter (`setGaugeRaw`). Both flags
Windows sees are held flags. `buildStatus` derives the power state from them, and the class is
notified when it or the percentage changes.
-/

set_option autoImplicit false

namespace Kmdf

open Effectful Ln8000

/-- The tablet is on external power. -/
def batteryPowerOnLine : BitVec 32 := 1
/-- The battery is discharged. -/
def batteryDischarging : BitVec 32 := 2
/-- The battery is charged. -/
def batteryCharging : BitVec 32 := 4
/-- The battery is about to run out. -/
def batteryCritical : BitVec 32 := 8

/-- Stands for a rate that is not known. -/
def batteryUnknownRate : Int := -2147483648

/-- Relative capacity is not known. -/
def batteryUnknownCapacity : Nat := 0xFFFFFFFF

/-- The percent has no source yet. -/
def socSrcNone : Nat := 0
/-- The percent comes from the fuel gauge. -/
def socSrcGauge : Nat := 1
/-- The percent is computed from the voltage. -/
def socSrcVbat : Nat := 2

/-- Voltage of an empty battery. -/
def vbatEmptyUv : Nat := 3400000
/-- Voltage of a full battery. -/
def vbatFullUv : Nat := 4350000

/-- State of the battery miniport. -/
structure Battery where
  /-- The class handle is there. -/
  attached : Bool
  lastPct : Nat
  notifiedPct : Nat
  socSrc : Nat
  gaugeFails : Nat
  lastVbatUv : Nat
  lastVbusUv : Nat
  lastIinUa : Nat
  onlineHold : Hold
  chargingHold : Hold
  unplugRun : Nat
  socTrend : SocTrend
  lastPowerState : BitVec 32
  deriving DecidableEq, Repr

/-- Answer to a status query of the class. -/
structure BatteryStatus where
  powerState : BitVec 32
  capacity : Nat
  voltage : Nat
  rate : Int
  deriving DecidableEq, Repr

namespace Battery

/-- Before the first sample. -/
def new : Battery where
  attached := false
  lastPct := batteryUnknownCapacity
  notifiedPct := batteryUnknownCapacity
  socSrc := socSrcNone
  gaugeFails := 0
  lastVbatUv := 0
  lastVbusUv := 0
  lastIinUa := 0
  onlineHold := Hold.frontArmed
  chargingHold := Hold.new
  unplugRun := 0
  socTrend := SocTrend.new
  lastPowerState := 0

/-- Linear estimate of the charge from the cell voltage. -/
def socPercent (vbatUv : Nat) : Nat :=
  if vbatUv ≤ vbatEmptyUv then 0
  else if vbatFullUv ≤ vbatUv then 100
  else (vbatUv - vbatEmptyUv) * 100 / (vbatFullUv - vbatEmptyUv)

/-- The held online flag. -/
def online (battery : Battery) : Bool := battery.onlineHold.held

/-- The charging flag: it implies the online flag. -/
def charging (battery : Battery) : Bool := battery.chargingHold.held && battery.online

/-- The power state of the held flags. -/
def powerState (battery : Battery) : BitVec 32 :=
  let source := if battery.online then batteryPowerOnLine else 0
  let flow :=
    if battery.charging then batteryCharging
    else if !battery.online then batteryDischarging
    else 0
  let level :=
    if battery.lastPct ≠ batteryUnknownCapacity ∧ battery.lastPct ≤ 5 then batteryCritical
    else 0
  source ||| flow ||| level

/-- Builds the status and remembers its power state. -/
def buildStatus (battery : Battery) : BatteryStatus × Battery :=
  ({ powerState := battery.powerState
     capacity := battery.lastPct
     voltage := if battery.lastVbatUv = 0 then 0 else battery.lastVbatUv / 1000
     rate :=
       if battery.charging then batteryUnknownRate
       else if battery.online then 0
       else batteryUnknownRate },
    { battery with lastPowerState := battery.powerState })

/-- What one telemetry sample carries for the battery. -/
structure Sample where
  vbatUv : Nat
  vbusUv : Nat
  iinUa : Nat
  iinPeakUa : Nat
  vacUnplug : Bool
  inputReadingsUsable : Bool
  socRising : Bool
  nowMs : Nat
  deriving DecidableEq, Repr

/-- The raw verdict of a sample. -/
def Sample.rawOnline (sample : Sample) : Option Bool :=
  onlineRawWithEvidence sample.vbusUv sample.vbatUv sample.iinUa sample.vacUnplug
    sample.inputReadingsUsable

/-- Percentage and its source: a cell estimate only off the adapter, and only until the
counter answers. -/
def estimatePct (battery : Battery) (sample : Sample) : Battery :=
  let battery := if sample.vbatUv > 0 then { battery with lastVbatUv := sample.vbatUv }
    else battery
  if sample.vbatUv > 0 ∧ battery.socSrc ≠ socSrcGauge ∧ sample.rawOnline = some false then
    { battery with lastPct := socPercent sample.vbatUv, socSrc := socSrcVbat }
  else battery

/-- Both holds and the unplug run, one sample on. -/
def updateHolds (battery : Battery) (sample : Sample) : Battery :=
  let release := unplugRelease sample.vacUnplug sample.iinUa battery.unplugRun
  let onlineHold :=
    -- the window ends on this tick
    if release.1 then battery.onlineHold.update false sample.nowMs 0
    else battery.onlineHold.updateEvidence sample.rawOnline sample.nowMs onlineHoldMs
  let chargingHold :=
    battery.chargingHold.update
      (chargingRaw onlineHold.held sample.iinUa sample.iinPeakUa sample.socRising)
      sample.nowMs chargingHoldMs
  { battery with unplugRun := release.2, onlineHold := onlineHold, chargingHold := chargingHold }

/-- Updates the cached sample and both flags. The second part says whether the class was
notified. -/
def updateFromTelemetry (battery : Battery) (sample : Sample) : Battery × Bool :=
  let held := (battery.estimatePct sample).updateHolds sample
  let cached := { held with lastVbusUv := sample.vbusUv, lastIinUa := sample.iinUa }
  let built := cached.buildStatus.2
  if built.lastPowerState = battery.lastPowerState ∧ built.lastPct = built.notifiedPct then
    (built, false)
  else if built.attached then ({ built with notifiedPct := built.lastPct }, true)
  else (built, false)

/-- Percentage of a raw counter value. -/
def gaugePct (raw : Nat) : Nat :=
  if raw = 255 then 100 else if raw = 0 then 0 else ((raw - 1) * 98 + 126) / 253 + 1

/-- Publishes the percentage of the fuel counter and feeds its trend. -/
def setGaugeRaw (battery : Battery) (raw nowMs : Nat) : Battery :=
  { battery with
    lastPct := gaugePct raw
    socSrc := socSrcGauge
    gaugeFails := 0
    socTrend := battery.socTrend.update raw nowMs }

/-- Counts a failed read of the counter. -/
def noteGaugeFailure (battery : Battery) : Battery :=
  { battery with gaugeFails := satAdd 32 battery.gaugeFails 1 }

/-- Whether the fuel counter has risen recently. -/
def socRising (battery : Battery) : Bool := battery.socTrend.rising

/-! ### Runs -/

/-- What reaches the module: the samples of the ticks, the fuel counter, the queries of the
class, and the class itself. -/
inductive Event
  | tick (sample : Sample)
  | gauge (raw nowMs : Nat)
  | gaugeFailed
  | query
  | attach
  | detach
  deriving DecidableEq, Repr

/-- The battery after an event. -/
def step (battery : Battery) : Event → Battery
  | .tick sample => (battery.updateFromTelemetry sample).1
  | .gauge raw nowMs => battery.setGaugeRaw raw nowMs
  | .gaugeFailed => battery.noteGaugeFailure
  | .query => battery.buildStatus.2
  | .attach => { battery with attached := true }
  | .detach => { battery with attached := false }

/-- The battery after these events. -/
def run (battery : Battery) (events : List Event) : Battery :=
  events.foldl step battery

/-- The battery after these samples. -/
def runTicks (battery : Battery) (samples : List Sample) : Battery :=
  battery.run (samples.map Event.tick)

/-- No event, no change. -/
@[simp] theorem run_nil (battery : Battery) : battery.run [] = battery := rfl

/-- The first event comes first. -/
@[simp] theorem run_cons (battery : Battery) (event : Event) (events : List Event) :
    battery.run (event :: events) = (battery.step event).run events := rfl

/-- No tick, no change. -/
@[simp] theorem runTicks_nil (battery : Battery) : battery.runTicks [] = battery := rfl

/-- The first tick comes first. -/
@[simp] theorem runTicks_cons (battery : Battery) (sample : Sample) (samples : List Sample) :
    battery.runTicks (sample :: samples) =
      (battery.updateFromTelemetry sample).1.runTicks samples := rfl

/-! ### What one sample does -/

/-- The sample moves the percentage: the counter never answered, and the raw verdict is off
the adapter. -/
def estimates (battery : Battery) (sample : Sample) : Bool :=
  decide (sample.vbatUv > 0) && decide (battery.socSrc ≠ socSrcGauge)
    && decide (sample.rawOnline = some false)

/-- The estimate touches the percentage, its source and the cached voltage. -/
theorem estimatePct_eq (battery : Battery) (sample : Sample) :
    battery.estimatePct sample =
      { battery with
        lastPct :=
          if battery.estimates sample then socPercent sample.vbatUv else battery.lastPct
        socSrc := if battery.estimates sample then socSrcVbat else battery.socSrc
        lastVbatUv := if sample.vbatUv > 0 then sample.vbatUv else battery.lastVbatUv } := by
  unfold estimatePct estimates
  by_cases hvbat : sample.vbatUv > 0
  · -- the estimate wants a pack at rest: no gauge, and no adapter seen
    by_cases hrest : battery.socSrc ≠ socSrcGauge ∧ sample.rawOnline = some false
    · simp [hvbat, hrest.1, hrest.2]
    · rw [not_and_or] at hrest
      rcases hrest with hsrc | hraw
      · simp [hvbat, hsrc]
      · simp [hvbat, hraw]
  · simp [hvbat]

/-- The battery a sample leaves before the class is notified. -/
def built (battery : Battery) (sample : Sample) : Battery :=
  { (battery.estimatePct sample).updateHolds sample with
    lastVbusUv := sample.vbusUv, lastIinUa := sample.iinUa }.buildStatus.2

/-- A sample changes nothing beside what is built from it but the notified percentage. -/
theorem updateFromTelemetry_cases (battery : Battery) (sample : Sample) :
    ((battery.built sample).lastPowerState = battery.lastPowerState ∧
        (battery.built sample).lastPct = (battery.built sample).notifiedPct ∧
        battery.updateFromTelemetry sample = (battery.built sample, false)) ∨
      ((battery.built sample).attached = true ∧
        battery.updateFromTelemetry sample =
          ({ battery.built sample with notifiedPct := (battery.built sample).lastPct }, true)) ∨
      ((battery.built sample).attached = false ∧
        battery.updateFromTelemetry sample = (battery.built sample, false)) := by
  unfold updateFromTelemetry
  by_cases hsame : (battery.built sample).lastPowerState = battery.lastPowerState ∧
      (battery.built sample).lastPct = (battery.built sample).notifiedPct
  · exact Or.inl ⟨hsame.1, hsame.2, if_pos hsame⟩
  · -- something changed: what is built is kept as notified, and told only when attached
    have hrest : battery.updateFromTelemetry sample =
        if (battery.built sample).attached then
          ({ battery.built sample with notifiedPct := (battery.built sample).lastPct }, true)
        else (battery.built sample, false) := if_neg hsame
    unfold updateFromTelemetry at hrest
    cases hattached : (battery.built sample).attached with
    | true => exact Or.inr (Or.inl ⟨rfl, by rw [hrest, hattached]; rfl⟩)
    | false => exact Or.inr (Or.inr ⟨rfl, by rw [hrest, hattached]; rfl⟩)

/-- The sample of a tick, but for the notified percentage. -/
theorem updateFromTelemetry_eq (battery : Battery) (sample : Sample) :
    ∃ notified, (battery.updateFromTelemetry sample).1 =
      { battery.built sample with notifiedPct := notified } := by
  rcases updateFromTelemetry_cases battery sample with ⟨_, _, h⟩ | ⟨_, h⟩ | ⟨_, h⟩
  · exact ⟨(battery.built sample).notifiedPct, by rw [h]⟩
  · exact ⟨(battery.built sample).lastPct, by rw [h]⟩
  · exact ⟨(battery.built sample).notifiedPct, by rw [h]⟩

end Battery

end Kmdf
