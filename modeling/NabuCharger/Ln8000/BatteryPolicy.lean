import NabuCharger.Ln8000.Encoding

/-!
# `Ln8000.BatteryPolicy`: what the battery class is told

The pure half of the published power state. `onlineRaw` decides from one sample whether an
adapter is there, `onlineRawWithEvidence` whether the sample may decide at all, and a `Hold`
keeps a flag up for a while after the last run of positive samples, so that one sample at the
floor does not flap the tray icon. `SocTrend` is the direction of the fuel counter.

Two decisions of the telemetry tick live here too: whether the ADC must be woken
(`adcWakeNeeded`), and which cell voltage the transfer band is computed from
(`anchorCellVbatUv`).
-/

set_option autoImplicit false

namespace Ln8000

open Effectful

/-- How long the supply stays reported after its last evidence. -/
def onlineHoldMs : Nat := 8000
/-- How long a charge stays reported after its last evidence. -/
def chargingHoldMs : Nat := 20000

/-- Charging current floor for the raw charging predicate. -/
def iinChargingUa : Nat := 80000

/-- How long a rise of the fuel counter counts as charge evidence. -/
def socRiseHoldMs : Nat := 300000

/-- The fuel counter's SOC and whether it is on the way up. -/
structure SocTrend where
  prevRaw : Nat
  rising : Bool
  lastRiseMs : Nat
  deriving DecidableEq, Repr

namespace SocTrend

/-- Nothing seen yet. -/
def new : SocTrend where
  prevRaw := wordMax 8
  rising := false
  lastRiseMs := 0

/-- Applies one raw SOC sample. -/
def update (trend : SocTrend) (raw nowMs : Nat) : SocTrend :=
  if raw > trend.prevRaw then { prevRaw := raw, rising := true, lastRiseMs := nowMs }
  else if raw < trend.prevRaw then { trend with prevRaw := raw, rising := false }
  else
    { prevRaw := raw
      rising := trend.rising && decide (nowMs - trend.lastRiseMs < socRiseHoldMs)
      lastRiseMs := trend.lastRiseMs }

end SocTrend

/-- Consecutive positive samples that extend a hold, and arm one that is not front-armed. -/
def holdArmRun : Nat := 2

/-- Consecutive positive samples that arm a front-armed hold. -/
def holdFrontRun : Nat := 1

/-- Held boolean plus the timestamp of the last run of positive samples. -/
structure Hold where
  held : Bool
  lastTrueMs : Nat
  trueRun : Nat
  /-- Samples a cold hold needs to arm. -/
  frontRun : Nat
  deriving DecidableEq, Repr

namespace Hold

/-- Never held, armed by a run. -/
def new : Hold where
  held := false
  lastTrueMs := 0
  trueRun := 0
  frontRun := holdArmRun

/-- Never held, armed by its first positive sample. -/
def frontArmed : Hold := { new with frontRun := holdFrontRun }

/-- Applies one sample of the raw predicate. -/
def update (hold : Hold) (raw : Bool) (nowMs holdMs : Nat) : Hold :=
  if raw then
    let trueRun := satAdd 32 hold.trueRun 1
    -- a run extends a window that is open; a closed one opens by its own rule
    let neededRun := if hold.held then holdArmRun else hold.frontRun
    if neededRun ≤ trueRun then
      { hold with held := true, lastTrueMs := nowMs, trueRun := trueRun }
    -- the first sample of a run does not move the window
    else { hold with trueRun := trueRun }
  -- inside the window: still held, but the run starts over
  else if hold.held && decide (nowMs - hold.lastTrueMs < holdMs) then
    { hold with trueRun := 0 }
  else { hold with held := false, trueRun := 0 }

/-- Applies one tick that may carry no evidence: then the hold stays as it was. -/
def updateEvidence (hold : Hold) (evidence : Option Bool) (nowMs holdMs : Nat) : Hold :=
  match evidence with
  | some raw => hold.update raw nowMs holdMs
  | none => hold

end Hold

/-- Raw charging predicate before hysteresis. -/
def chargingRaw (onlineHeld : Bool) (iinUa iinPeakUa : Nat) (socRising : Bool) : Bool :=
  onlineHeld && (decide (iinChargingUa ≤ iinUa) || decide (iinChargingUa ≤ iinPeakUa)
    || socRising)

/-- From this level on the bus is a supply. -/
def vbusOnlineUv : Nat := 4600000
/-- Below this level nothing is charged. -/
def vbusChargingMinUv : Nat := 4200000
/-- A charging bus is above the cell by at least this. -/
def vbusAboveVbatUv : Nat := 200000
/-- From this level on the bus has been raised. -/
def vbusElevatedUv : Nat := 6000000

/-- The sample is the converter's own reflection of the cell, and nothing above it in the
ladder has spoken. -/
def isReflectionTick (vbusUv vbatUv iinUa : Nat) (vacUnplug : Bool) : Bool :=
  if vbusChargingMinUv ≤ vbusUv ∧ iinChargingUa ≤ iinUa then false
  else if vacUnplug then false
  else decide (vbusOnlineUv ≤ vbusUv) && vinIsDoubledVbat vbatUv vbusUv

/-- Raw "adapter present" decision for one tick. -/
def onlineRaw (vbusUv vbatUv iinUa : Nat) (vacUnplug : Bool) : Bool :=
  if vbusChargingMinUv ≤ vbusUv ∧ iinChargingUa ≤ iinUa then true
  else if vacUnplug then false
  else if isReflectionTick vbusUv vbatUv iinUa vacUnplug then false
  else if vbusElevatedUv ≤ vbusUv then true
  else if vbusUv < vbusChargingMinUv then false
  else if vbatUv > 0 ∧ vbusUv < satAdd 32 vbatUv vbusAboveVbatUv then false
  else true

/-- The decision together with the tick's authority to age the hold. -/
def onlineRawWithEvidence (vbusUv vbatUv iinUa : Nat) (vacUnplug inputReadingsUsable : Bool) :
    Option Bool :=
  if inputReadingsUsable then
    if isReflectionTick vbusUv vbatUv iinUa vacUnplug then none
    else some (onlineRaw vbusUv vbatUv iinUa vacUnplug)
  else if vacUnplug then some false
  else none

/-- Consecutive ticks the "VBUS gone" verdict must hold before it ends the window. -/
def unplugReleaseRun : Nat := 3

/-- Whether this tick ends the online window at once, and the new run length. -/
def unplugRelease (vacUnplug : Bool) (iinUa run : Nat) : Bool × Nat :=
  if !vacUnplug || decide (iinChargingUa ≤ iinUa) then (false, 0)
  else (decide (unplugReleaseRun ≤ satAdd 32 run 1), satAdd 32 run 1)

/-- What a tick should do about the ADC's power mode: wake it, let it sleep, or nothing. -/
def adcWakeNeeded (inputReadingsUsable vacUnplug : Bool) : Option Bool :=
  if vacUnplug then some false
  else if !inputReadingsUsable then some true
  else none

/-- The gauge does not report a lower cell. -/
def fgVbattMinPlausibleUv : Nat := 2500000
/-- The gauge does not report a higher cell. -/
def fgVbattMaxPlausibleUv : Nat := 4600000

/-- Whether a fuel-gauge cell voltage may drive the transfer band. -/
def fgVbattPlausible (uv : Nat) : Bool :=
  decide (fgVbattMinPlausibleUv ≤ uv) && decide (uv ≤ fgVbattMaxPlausibleUv)

/-- The cell voltage the band, the 2:1 gate and the bus target ride on. -/
def anchorCellVbatUv (fgUv pumpUv : Nat) : Nat :=
  if fgVbattPlausible fgUv then fgUv else pumpUv

/-- Without evidence nothing moves, so such ticks never expire a hold. -/
@[simp] theorem Hold.updateEvidence_none (hold : Hold) (nowMs holdMs : Nat) :
    hold.updateEvidence none nowMs holdMs = hold :=
  rfl

/-- Evidence there is counts as it is. -/
@[simp] theorem Hold.updateEvidence_some (hold : Hold) (raw : Bool) (nowMs holdMs : Nat) :
    hold.updateEvidence (some raw) nowMs holdMs = hold.update raw nowMs holdMs :=
  rfl

/-- An elevated plausible gauge sample is the anchor, whatever the pump reads. -/
theorem anchorCellVbatUv_of_plausible {fgUv : Nat} (h : fgVbattPlausible fgUv = true)
    (pumpUv : Nat) : anchorCellVbatUv fgUv pumpUv = fgUv := by
  rw [anchorCellVbatUv, if_pos h]

end Ln8000
