import NabuCharger.Kmdf.Landing

/-!
# `Kmdf.Tick`: the telemetry tick

The periodic half of the driver, in the order of the code. A tick observes: it reads the
status and four channels, stores the sample, keeps the ADC awake while the hardware reports
an input that the samples do not show, and feeds the battery class. Then it acts: the
protection step (`protect`), the latches, the correction of the bus (`walkWindow`), the mode
decision (`decideMode`), and the watchdog. Last it decides whether a negotiation is due
(`dueWants`), and runs it after the pump is returned (`tickLandings`).

Marks and log lines are left out. The timer is armed again by the host.
-/

set_option autoImplicit false

namespace Kmdf

open Effectful Ln8000

/-- Pause before a charge is tried again. -/
def chargeRetryMs : Nat := 30000
/-- A change of the input that is reason enough to try sooner. -/
def chargeRetryDeltaUv : Nat := 300000
/-- Pause that even such a change has to wait for. -/
def chargeRetryFastMs : Nat := 5000
/-- Pause before the first re-elevation. -/
def reElevateFirstMs : Nat := 60000
/-- The longest pause between two of them. -/
def reElevateBackoffMaxMs : Nat := 300000
/-- With a fuller cell the bus is not raised again. -/
def reElevateMaxVbatUv : Nat := 4350000
/-- Step of the buck limit. -/
def fccStepUa : Nat := 50000
/-- Limit that the probe sets. -/
def fccProbeUa : Nat := 1000000
/-- Pause before the buck limit returns to its factory value. -/
def fccRestoreGraceMs : Nat := 120000
/-- No higher limit is written. -/
def fccWriteMaxUa : Nat := 3000000
/-- A shift of the bus that counts as progress. -/
def windowProgressUv : Nat := 50000
/-- Corrections without progress before they become rare. -/
def windowStallMax : Nat := 4
/-- Pause between two corrections that have become rare. -/
def windowStallMs : Nat := 60000
/-- Length of the window over which the current is measured. -/
def iinWindowMs : Nat := 5000
/-- Pause between two polls of the gauge. -/
def gaugePollMs : Nat := 30000

/-- How many consecutive failures count as a latched chip state. -/
def chargeFailsBeforeReset : Nat := 3

/-- Difference of unsigned words, without sign. -/
def absDiff (a b : Nat) : Nat := max a b - min a b

/-! ### What a tick observes -/

/-- The hardware reports that the brick is unplugged. -/
def vacUnplugged (status : Status) : Bool :=
  decide (status.fault1Sts &&& Regs.fault1VacUnplug ≠ 0)

/-- An input that only looks live: no current, no active mode, and the hardware or the
doubled cell voltage speaks against it. -/
def phantomInput (status : Status) (vbatUv vbusUv iinUa : Nat) : Bool :=
  decide (iinUa < iinDeadFloorUa) && !status.opMode.conducting
    && (vacUnplugged status || vinIsDoubledVbat vbatUv vbusUv)

/-- What the tick has read: the status, the clock, and four channels. -/
structure Observation where
  status : Status
  tsMs : Nat
  vbat : Except PumpError Int
  vbus : Except PumpError Int
  iin : Except PumpError Int
  temp : Except PumpError Int

namespace Observation

/-- `Vin` as it was decoded, zero when the read failed. -/
def vbusUv (obs : Observation) : Int := obs.vbus.toOption.getD 0

/-- The sample of the tick. A failed read counts as zero, and its validity travels with it. -/
def sample (obs : Observation) : TelemetrySample :=
  let vbatUv := (obs.vbat.toOption.getD 0).toNat
  let vbusUv := obs.vbusUv.toNat
  let iinUa := (obs.iin.toOption.getD 0).toNat
  { tsMs := obs.tsMs
    vbatUv := vbatUv
    vbusUv := vbusUv
    iinUa := iinUa
    dieTempDc := obs.temp.toOption.getD 0
    opMode := obs.status.opMode
    -- a fault or a phantom voltage is no input
    inputPresent := !obs.status.hasCriticalFault && decide (vbusUv > 0)
      && !phantomInput obs.status vbatUv vbusUv iinUa
    vbatValid := vbatReadingUsable obs.vbat.toBool vbatUv
    dieTempValid := obs.temp.toBool }

/-- The hardware reports in this observation that the brick is unplugged. -/
def vacUnplug (obs : Observation) : Bool := vacUnplugged obs.status

/-- Whether the input samples are good enough for the power decision. -/
def inputReadingsUsable (obs : Observation) : Bool :=
  obs.sample.vbatValid && obs.vbus.toBool && decide (obs.sample.vbusUv > 0)

/-- The pump carries current in 2:1. -/
def pumpAlive (obs : Observation) : Bool :=
  decide (obs.status.opMode = .switching) && decide (obs.sample.iinUa > iinDeadFloorUa)

/-- What the battery is told of the tick. -/
def batterySample (obs : Observation) (maxIinUa : Nat) (socRising : Bool) : Battery.Sample where
  vbatUv := obs.sample.vbatUv
  vbusUv := obs.sample.vbusUv
  iinUa := obs.sample.iinUa
  iinPeakUa := maxIinUa
  vacUnplug := obs.vacUnplug
  inputReadingsUsable := obs.inputReadingsUsable
  socRising := socRising
  nowMs := obs.sample.tsMs

/-- In a conducting mode the input of a sample is present unless a critical fault is reported
or `Vin` reads zero. -/
theorem inputPresent_of_conducting {obs : Observation}
    (hmode : obs.status.opMode.conducting = true)
    (hfault : obs.status.hasCriticalFault = false) (hvin : 0 < obs.sample.vbusUv) :
    obs.sample.inputPresent = true := by
  have hphantom : phantomInput obs.status obs.sample.vbatUv obs.sample.vbusUv
      obs.sample.iinUa = false := by
    simp [phantomInput, hmode]
  show (!obs.status.hasCriticalFault && decide (obs.sample.vbusUv > 0)
    && !phantomInput obs.status obs.sample.vbatUv obs.sample.vbusUv obs.sample.iinUa) = true
  simp [hfault, hphantom, hvin]

end Observation

/-! ### Bookkeeping of an observation -/

namespace Context

/-- The battery after the sample of a tick. -/
def updateBattery (ctx : Context) (obs : Observation) : Context :=
  { ctx with
    battery :=
      (ctx.battery.updateFromTelemetry
        (obs.batterySample ctx.maxIinUa ctx.battery.socRising)).1 }

/-- The current peak of the window. A new window starts with the current sample. -/
def trackPeak (ctx : Context) (sample : TelemetrySample) : Context :=
  if ctx.iinWindowStartMs = 0 ∨ iinWindowMs ≤ sample.tsMs - ctx.iinWindowStartMs then
    { ctx with maxIinUa := sample.iinUa, iinWindowStartMs := sample.tsMs }
  else { ctx with maxIinUa := max ctx.maxIinUa sample.iinUa }

/-- The outcome of the counter poll. -/
def publishGauge (ctx : Context) (gauge : GaugePoll) (tsMs : Nat) : Context :=
  match gauge with
  | .raw raw => { ctx with battery := ctx.battery.setGaugeRaw raw tsMs }
  | .failed => { ctx with battery := ctx.battery.noteGaugeFailure }
  | .skipped => ctx

end Context

/-- Applies a function of the context to the held state. -/
def Held.mapContext (f : Context → Context) (s : Held) : Held :=
  { f s.toContext with pump := s.pump }

/-! ### The buck current limit -/

/-- Raw buck limit of a current, capped. -/
def rawFor (ua : Nat) : Byte := BitVec.ofNat 8 (min (ua / fccStepUa) (fccWriteMaxUa / fccStepUa))

/-- Writes the buck limit. The answer says whether the value is really there. -/
def writeFcc (want : Byte) : HeldM Bool := do
  let written : Option Byte ← host (.writeFccRaw want)
  pure (decide (written = some want))

/-- The one-shot probe of the buck limit, unless the policy holds the register. -/
def probeFcc (obs : Observation) : HeldM Unit := do
  let s ← Proc.get
  Proc.when (!s.fccProbeDone && s.fccBootRaw != 0 && !obs.status.hasCriticalFault) do
    -- the probe yields where its write would wipe out a raise
    let policyOwns :=
      s.fccRaised || (obs.pumpAlive && decide (obs.sample.vbatUv < reElevateMaxVbatUv))
    Proc.when (!policyOwns && decide (rawFor fccProbeUa < s.fccBootRaw)) do
      let _ ← writeFcc (rawFor fccProbeUa)
      let _ ← writeFcc s.fccBootRaw
      pure ()
    -- once, written or not: a write that fails is not repeated on every tick
    Proc.modify fun s => { s with fccProbeDone := true }

/-- Raises the buck limit while the pump carries current, and restores it afterwards. -/
def runFccPolicy (obs : Observation) : HeldM Unit := do
  let s ← Proc.get
  if obs.pumpAlive then
    -- a running pump keeps the raise, and a wait for its end is off
    Proc.modify fun s => { s with fccRestoreAtMs := 0 }
    Proc.when (s.fccCfgRaw != 0 && !s.fccRaised && s.fccBootRaw != 0
        && decide (obs.sample.vbatUv < reElevateMaxVbatUv)) do
      let ok ← writeFcc (rawFor (satMul 32 s.fccCfgRaw fccStepUa))
      Proc.when ok (Proc.modify fun s => { s with fccRaised := true })
  else
    Proc.when s.fccRaised do
      -- the first tick without the pump starts the grace
      if s.fccRestoreAtMs = 0 then
        Proc.modify fun s =>
          { s with fccRestoreAtMs := satAdd 64 obs.sample.tsMs fccRestoreGraceMs }
      else
        Proc.when (decide (s.fccRestoreAtMs ≤ obs.sample.tsMs)) do
          -- a restore that fails is tried again at the next tick
          let ok ← writeFcc (rawFor (satMul 32 s.fccBootRaw.toNat fccStepUa))
          Proc.when ok
            (Proc.modify fun s => { s with fccRaised := false, fccRestoreAtMs := 0 })

/-- Keeps what the driver needs of a snapshot. -/
def storeChargeRegs (obs : Observation) : Option ChargeRegs → HeldM Unit
  | some regs => do
      Proc.modify fun s =>
        { s with
          fccBootRaw := if s.fccBootRaw = 0 then regs.fccRaw else s.fccBootRaw
          fgVbattUv := regs.fgVbattUv }
      probeFcc obs
  | none => pure ()

/-- The snapshot of the buck registers, once per poll period. -/
def snapshotCharger (obs : Observation) : HeldM Unit := do
  let s ← Proc.get
  Proc.when (s.lastChgrMarkMs == 0 ||
      decide (gaugePollMs ≤ obs.sample.tsMs - s.lastChgrMarkMs)) do
    Proc.modify fun s => { s with lastChgrMarkMs := obs.sample.tsMs }
    let regs : Option ChargeRegs ← host .readChargeRegs
    storeChargeRegs obs regs
    Proc.when (!obs.status.hasCriticalFault) (runFccPolicy obs)

section
variable [LoopFuel]

/-! ### Observing -/

/-- Reads the four channels and the clock. -/
def sampleChannels (status : Status) : HeldM Observation := do
  let vbat ← onPump (readAdc .vbat)
  let vbus ← onPump (readAdc .vin)
  let iin ← onPump (readAdc .iin)
  let temp ← onPump (readAdc .dieTemp)
  let tsMs ← monotonicMs
  pure { status, tsMs, vbat, vbus, iin, temp }

/-- Wakes the ADC when the hardware reports an input that the samples do not show, and lets
it sleep when the input is gone. -/
def keepAdcAwake (obs : Observation) : HeldM Unit := do
  let s ← Proc.get
  match adcWakeNeeded obs.inputReadingsUsable obs.vacUnplug with
  | some true =>
      Proc.when (!s.adcAwake) do
        match ← onPump (setAdcMode .normal) with
        | .ok _ =>
            Proc.modify fun s => { s with adcAwake := true, adcWakeN := satAdd 32 s.adcWakeN 1 }
            point (.adcAwake true)
        -- the flag follows the chip, so it moves only after the write
        | .error _ => pure ()
  | some false =>
      Proc.when s.adcAwake do
        match ← onPump (setAdcMode .autoHibernate) with
        | .ok _ =>
            Proc.modify fun s => { s with adcAwake := false }
            point (.adcAwake false)
        | .error _ => pure ()
  | none => pure ()

/-- Samples, stores and publishes. -/
def observe (gauge : GaugePoll) (status : Status) : HeldM Observation := do
  let obs ← sampleChannels status
  Proc.modify fun s => { s with telemetry := s.telemetry.push obs.sample }
  keepAdcAwake obs
  Proc.modify (Held.mapContext fun ctx => ctx.updateBattery obs)
  let s ← Proc.get
  -- between `release` and `deviceAdd` nothing is published
  Proc.when s.deviceBound do
    Proc.modify (Held.mapContext fun ctx =>
      (ctx.trackPeak obs.sample).publishGauge gauge obs.sample.tsMs)
    snapshotCharger obs
  pure obs

/-! ### Protection -/

/-- Forgets the denials of the bypass. -/
def clearStrikes (s : Held) : Held := { s with bypassDeniedStrikes := 0 }

/-- Applies what a demand for 1:1 resolves to. -/
def applyResolution : BypassResolution → HeldM Unit
  | .allowed => do
      Proc.modify clearStrikes
      Proc.discard (onPump enableBypass)
  | .reduceCurrent toUa _ => do
      Proc.modify fun s => { s with bypassDeniedStrikes := satAdd 32 s.bypassDeniedStrikes 1 }
      Proc.discard (onPump (setIinLimit toUa))
  | .stop _ => Proc.discard (onPump standby)

/-- Applies a decision of the guard to the device. A failure of the pump is logged and
dropped. -/
def applyGuard (action : GuardAction) (vinUv : Int) (vbatUv : Nat) (limits : GuardLimits) :
    HeldM Unit := do
  match action with
  | .none => Proc.modify clearStrikes
  | .reduceCurrent toUa _ | .restoreCurrent toUa _ =>
      Proc.modify clearStrikes
      Proc.discard (onPump (setIinLimit toUa))
  | .fallbackToBypass _ =>
      -- the strikes of the denials before this one decide how it is resolved
      let s ← Proc.get
      applyResolution (resolveBypass vinUv vbatUv s.bypassDeniedStrikes limits)
  -- standby, whatever mode the chip is in
  | .stop _ =>
      Proc.modify clearStrikes
      Proc.discard (onPump standby)

/-- What the decision is taken on. `applied` is the setpoint that stands in the chip. -/
def GuardInputs.of (obs : Observation) (s : Held) (applied : Option Nat) : GuardInputs :=
  let ovLatched := decide (obs.status.fault1Sts &&& Regs.fault1VbatOv ≠ 0)
  { status := obs.status
    sample := obs.sample
    limits := s.limits
    appliedIinUa := applied
    deliberateIinUa := s.pump.taperSetpointUa obs.sample.vbatUv obs.sample.vbusUv ovLatched
    deniedStrikes := s.bypassDeniedStrikes
    vbusUv := obs.vbusUv }

/-- Reads what stands in the chip and what the taper asks for. -/
def guardInputs (obs : Observation) : HeldM GuardInputs := do
  let applied ← onPump appliedIinUa
  let s ← Proc.get
  pure (.of obs s applied.toOption.join)

/-- Applies the decision, if it is a change. The answer says whether it was. -/
def applyDecision (inputs : GuardInputs) : HeldM Bool := do
  Proc.when inputs.action.isChange do
    applyGuard inputs.action inputs.vbusUv inputs.sample.vbatUv inputs.limits
    Proc.modify fun s => { s with actions := satAdd 32 s.actions 1 }
  pure inputs.action.isChange

/-- The protection step. The answer says whether it changed anything. -/
def protect (obs : Observation) : HeldM Bool := do
  let s ← Proc.get
  Proc.when (bypassStrikesExpired obs.sample s.limits) (Proc.modify clearStrikes)
  let inputs ← guardInputs obs
  point (.guard inputs)
  applyDecision inputs

/-- Clears a latch that blocks the mode. -/
def clearLatches (status : Status) : HeldM Unit :=
  Proc.when (status.fault1Sts &&& (Regs.fault1Watchdog ||| Regs.fault1VbatOv) != 0) do
    Proc.discard (onPump clearLatchedFaults)
    Proc.when (status.fault1Sts &&& Regs.fault1Watchdog != 0)
      (Proc.discard (onPump serviceWatchdog))

end

/-! ### The mode decision -/

/-- The mode the bus admits. A working transfer is kept down to the floor of the band. -/
def desiredMode (obs : Observation) (cellVbatUv : Nat) : Option OpMode :=
  if obs.pumpAlive = true ∧ max (windowFloorUv cellVbatUv) elevatedMinVinUv ≤ obs.sample.vbusUv
  then some .switching
  else chargeMode obs.vbusUv cellVbatUv

/-- The chip is in the mode the bus admits. -/
def modeOk : Option OpMode → OpMode → Bool
  | some .switching, .switching => true
  | some .bypass, .bypass => true
  | none, .standby => true
  | none, .unknown => true
  | _, _ => false

/-- What the rest of the tick reads of the observation. -/
structure Decision where
  obs : Observation
  cellVbatUv : Nat
  desired : Option OpMode
  /-- The pump carries real power. -/
  transferring : Bool
  /-- The five-volt episode belongs to the re-elevation. -/
  reelevateOwns : Bool

/-- The bus is in the five-volt range. -/
def fiveVRegime (vbusUv : Nat) : Bool :=
  decide (chargeMinVinUv ≤ vbusUv) && decide (vbusUv < fiveVStayMaxUv.toNat)

/-- The bypass carries current, now or in the window. -/
def bypassCarrying (obs : Observation) (maxIinUa : Nat) : Bool :=
  decide (obs.status.opMode = .bypass)
    && (decide (obs.sample.iinUa > iinDeadFloorUa) || decide (maxIinUa > iinDeadFloorUa))

/-- Takes the decisions that follow from the observation and the context. -/
def Context.decide (ctx : Context) (obs : Observation) : Decision :=
  let cellVbatUv := anchorCellVbatUv ctx.fgVbattUv obs.sample.vbatUv
  { obs := obs
    cellVbatUv := cellVbatUv
    desired := desiredMode obs cellVbatUv
    -- 2:1 with a current worth it
    transferring :=
      Decidable.decide (obs.status.opMode = .switching) && transferIsUseful ctx.maxIinUa
    reelevateOwns :=
      obs.sample.inputPresent && obs.vbat.toBool && obs.iin.toBool
        && fiveVRegime obs.sample.vbusUv && !bypassCarrying obs ctx.maxIinUa && !obs.pumpAlive
        && Decidable.decide (obs.sample.vbatUv < reElevateMaxVbatUv) }

/-- The bus belongs to the correction: it is above the five-volt range. -/
def Decision.walks (d : Decision) : Bool :=
  decide (d.cellVbatUv > 0) &&
    (decide (elevatedMinVinUv ≤ d.obs.sample.vbusUv)
      || (d.desired.isNone && decide (fiveVStayMaxUv.toNat ≤ d.obs.sample.vbusUv))
      || (decide (d.desired = some .bypass)
        && decide (fiveVStayMaxUv.toNat ≤ d.obs.sample.vbusUv)))

/-- 2:1 without current, now and in the window. -/
def Decision.dead (d : Decision) (maxIinUa : Nat) : Bool :=
  decide (d.obs.status.opMode = .switching) && decide (d.obs.sample.iinUa ≤ iinDeadFloorUa)
    && decide (maxIinUa ≤ iinDeadFloorUa)

/-- Forgets the stall history. -/
def resetStall (s : Held) : Held := { s with windowBestErrUv := wordMax 32, windowStallN := 0 }

/-- A smaller deviation from the target is progress. -/
def noteProgress (errUv : Nat) (s : Held) : Held :=
  if satAdd 32 errUv windowProgressUv < s.windowBestErrUv then
    { s with windowBestErrUv := errUv, windowStallN := 0 }
  else s

section
variable [LoopFuel]

/-- A chip in 1:1 goes to standby before the bus is raised. The answer says whether it
did. -/
def leaveBypass (mode : OpMode) : HeldM Bool :=
  if mode = .bypass then do
    let result ← onPump standby
    pure result.toBool
  else pure false

/-- One correction of the bus. The answer says whether 1:1 was left for it. -/
def walkOnce (d : Decision) (dead : Bool) (now : Nat) : HeldM Bool := do
  Proc.modify fun s =>
    { s with lastWindowNudgeMs := now, windowStallN := satAdd 32 s.windowStallN 1 }
  let left ← leaveBypass d.obs.status.opMode
  let sent ← nudge d.obs.vbusUv d.cellVbatUv dead
  -- the bus has just moved: the mode is decided again at once
  Proc.when (decide (sent > 0)) (Proc.modify fun s => { s with lastChargeAttemptMs := 0 })
  pure left

/-- Keeps the bus inside the transfer band. The answer says whether 1:1 was left for it. -/
def walkWindow (d : Decision) : HeldM Bool := do
  let s ← Proc.get
  let dead := d.dead s.maxIinUa
  if d.walks = true ∧
      (dead = true ∨ vinInSwitchingWindow d.obs.vbusUv d.cellVbatUv = false) then
    let now ← monotonicMs
    Proc.modify (noteProgress (absDiff d.obs.sample.vbusUv (targetVbusUv d.cellVbatUv)))
    let s ← Proc.get
    -- after four corrections that brought nothing the wait is a minute
    let cooldown := if s.windowStallN < windowStallMax then windowNudgeMs else windowStallMs
    let urgent :=
      decide (d.desired = some .bypass) && decide (d.obs.status.opMode = .bypass)
        && decide (s.windowStallN = 0)
    let belowBand := decide (d.obs.sample.vbusUv < windowFloorUv d.cellVbatUv)
    if shouldWalkWindow dead d.transferring belowBand = true ∧
        (urgent = true ∨ cooldown ≤ now - s.lastWindowNudgeMs) then
      walkOnce d dead now
    else pure false
  else
    -- nothing to walk for: the episode is over
    Proc.modify resetStall
    pure false

/-- Several failures in a row: the latched state is left, at most one reset a tick. -/
def recoverFailedCharge (vbusUv : Int) : HeldM Unit := do
  match ← onPumpTotal recoverLnShutdown with
  | some _ =>
      let now ← monotonicMs
      Proc.modify fun s => { s with lastChargeAttemptMs := now }
      countChargeAttempt
  -- not shut down: below the voltage of 2:1 the chip is rebuilt, above it its faults are cleared
  | none =>
      if vbusUv < switchingMinVinUv then
        let _ ← onPumpTotal rebuildAndCharge
        countChargeAttempt
      else Proc.discard (onPump clearLatchedFaults)

/-- Turns the charge on from a tick, and recovers after repeated failures. -/
def startFromTick (vbusUv : Int) : HeldM Unit := do
  let (recovered, result) ← attemptCharge
  match result with
  | .ok _ => Proc.modify noteChargeStarted
  | .error err =>
      Proc.modify fun s =>
        { s with lastError := pumpErrorCode err, failedAttempts := satAdd 32 s.failedAttempts 1 }
      let s ← Proc.get
      Proc.when (decide (chargeFailsBeforeReset ≤ s.failedAttempts)) do
        Proc.modify fun s => { s with failedAttempts := 0 }
        -- a start that already recovered is not recovered twice
        Proc.when (!recovered) (recoverFailedCharge vbusUv)

/-- Starts, keeps or stops the charge. `changed` is the answer of the protection step,
`left` the one of the correction. -/
def decideMode (d : Decision) (changed left : Bool) : HeldM Unit := do
  let vbusUv := d.obs.sample.vbusUv
  -- the mode is right: the attempt clock moves with it
  if modeOk d.desired d.obs.status.opMode = true ∧ left = false then
    let now ← monotonicMs
    Proc.modify fun s => { s with lastChargeAttemptMs := now, lastAttemptVbusUv := vbusUv }
  else if d.desired.isSome = true ∧ changed = false ∧ left = false then
    let now ← monotonicMs
    let s ← Proc.get
    let elapsed := now - s.lastChargeAttemptMs
    let cooled := decide (chargeRetryMs ≤ elapsed)
    -- an input that moved is worth a try before the full wait
    let inputMoved :=
      decide (chargeRetryDeltaUv ≤ absDiff s.lastAttemptVbusUv vbusUv)
        && decide (chargeRetryFastMs ≤ elapsed) && !d.reelevateOwns
    let upgrade :=
      decide (d.desired = some .switching) && decide (d.obs.status.opMode = .bypass)
    Proc.when (cooled || inputMoved || upgrade) do
      Proc.modify fun s => { s with lastChargeAttemptMs := now, lastAttemptVbusUv := vbusUv }
      startFromTick d.obs.vbusUv
  else
    Proc.when (d.obs.status.opMode.conducting && !changed
        && stopRunningCharge d.desired.isSome d.transferring)
      -- no mode is wanted, or the bus has just been walked: a running charge may stop
      (Proc.discard (onPump (setCharging false)))

/-! ### What is due after the tick -/

/-- Which negotiation is due. -/
structure Wants where
  replug : Bool
  retry : Bool
  reelevate : Bool
  deriving DecidableEq, Repr

/-- The pause to the next re-elevation doubles up to its maximum. -/
def nextBackoffMs (backoffMs : Nat) : Nat :=
  if backoffMs = 0 then reElevateFirstMs
  else min (satMul 64 backoffMs 2) reElevateBackoffMaxMs

/-- The schedule of the re-elevation, and whether it is due. -/
def Context.scheduleReelevation (ctx : Context) (owns : Bool) (now : Nat) : Bool × Context :=
  if owns then
    if ctx.reElevateNextMs = 0 then
      (false, { ctx with reElevateNextMs := satAdd 64 now reElevateFirstMs })
    else if ctx.reElevateNextMs ≤ now then
      (true,
        { ctx with
          reElevateAttempts := satAdd 32 ctx.reElevateAttempts 1
          reElevateBackoffMs := nextBackoffMs ctx.reElevateBackoffMs
          reElevateNextMs := satAdd 64 now (nextBackoffMs ctx.reElevateBackoffMs) })
    else (false, ctx)
  -- the re-elevation has lost its reason: the episode and its backoff end
  else if ctx.reElevateNextMs ≠ 0 ∨ ctx.reElevateAttempts ≠ 0 then
    (false, { ctx with reElevateNextMs := 0, reElevateAttempts := 0, reElevateBackoffMs := 0 })
  else (false, ctx)

/-- Decides which negotiation is due. -/
def dueWants (d : Decision) : HeldM Wants := do
  let s ← Proc.get
  let inputNow := inputPresentFromVin d.obs.vbusUv
  let now ← monotonicMs
  Proc.modify (Held.mapContext fun ctx =>
    { (ctx.scheduleReelevation d.reelevateOwns now).2 with lastInputPresent := inputNow })
  pure
    { replug := s.hvdcpEdgeArmed &&
        shouldRenegotiateOnInputEdge s.hvdcp.phase.code s.lastInputPresent inputNow
      retry := superuserRetryDue s.hvdcpRetryPending s.hvdcpRetryAttempts now s.hvdcpRetryNextMs
      reelevate := (s.toContext.scheduleReelevation d.reelevateOwns now).1 }

/-- The half of the tick that acts on an observation. -/
def act (obs : Observation) : HeldM Wants := do
  let changed ← protect obs
  clearLatches obs.status
  let s ← Proc.get
  let d := s.toContext.decide obs
  let left ← walkWindow d
  decideMode d changed left
  Proc.discard (onPump serviceWatchdog)
  dueWants d

/-- The half of the tick that holds the pump. `none` is a status that could not be read. -/
def tickOnPump (gauge : GaugePoll) : HeldM (Option Wants) := do
  match ← onPump status with
  -- no status, no tick: the guard does not run either
  | .error _ =>
      Proc.modify fun s => { s with lastError := -10 }
      pure none
  | .ok status =>
      let obs ← observe gauge status
      let wants ← act obs
      pure (some wants)

/-- Runs the negotiation that is due. -/
def runDue (wants : Wants) : DriverM Unit := do
  let s ← Proc.get
  if s.deviceBound = false then pure ()
  else if wants.replug then
    -- a new input: the latch of the old one has no force
    Proc.modify fun s => { s with hvdcp := { s.hvdcp with force9vLatched := false } }
    let code ← runHvdcpAndLand
    scheduleOrClearSuperuserRetry code
    armHvdcpInputEdge
  else if wants.retry then
    Proc.modify fun s => { s with hvdcpRetryAttempts := satAdd 32 s.hvdcpRetryAttempts 1 }
    let now ← monotonicMs
    Proc.modify fun s => { s with hvdcpRetryNextMs := satAdd 64 now hvdcpSuperuserRetryMs }
    let code ← runHvdcpAndLand
    scheduleOrClearSuperuserRetry code
    Proc.when (decide (code = 0)) armHvdcpInputEdge
  else if wants.reelevate then
    let code ← runHvdcpAndLand
    scheduleOrClearSuperuserRetry code
    armHvdcpInputEdge
  else pure ()

/-- What follows after the pump was returned. -/
def tickLandings : Option Wants → DriverM Unit
  | some wants => runDue wants
  | none => pure ()

/-- One telemetry tick. -/
def telemetryTick : DriverM Unit := do
  let gauge : GaugePoll ← host .pollGauge
  let wants ← withPump (tickOnPump gauge)
  tickLandings wants.join
  point .tickDone

end

end Kmdf
