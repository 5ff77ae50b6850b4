import NabuCharger.Kmdf.Tick

/-!
# `Kmdf.Handlers`: control requests and the device life cycle

The handlers of the control requests, and what happens when the hardware is prepared and
released. `DriverOp` collects every entry point: a run of the driver is a sequence of them,
each under the state mutex.

The probes of the bus that `evt_prepare_hardware` makes before it opens the pump are left
out, and so are the buffers of the requests: a request here is its decoded fields.
-/

set_option autoImplicit false

namespace Kmdf

open Effectful Ln8000

/-! ### Answers -/

/-- Answer of `GET_STATUS`. -/
structure StatusAnswer where
  state : Nat
  opMode : Byte
  sysSts : Byte
  fault1Sts : Byte
  fault2Sts : Byte
  safetySts : Byte
  criticalFault : Bool
  writes : Nat
  reads : Nat
  lastError : Int
  sessions : Nat
  samples : Nat
  iinUa : Nat
  vbatUv : Nat
  vbusUv : Nat
  dieTempDc : Int
  deriving DecidableEq, Repr

/-- Code of the session state. -/
def sessionCode : Option PumpState → Nat
  | some .probed => 1
  | some .configured => 2
  | some .switching => 3
  | some .faulted => 4
  | some .closed | none => 0

/-- What is known before the chip is asked. -/
def DriverState.statusAnswer (s : DriverState) : StatusAnswer where
  state := sessionCode (s.pump.map Pump.state)
  opMode := ((s.pump.map Pump.opMode).getD .unknown).code
  sysSts := 0
  fault1Sts := 0
  fault2Sts := 0
  safetySts := 0
  criticalFault := false
  writes := s.writes
  reads := s.reads
  lastError := s.lastError
  sessions := s.telemetry.sessionTotal
  samples := s.telemetry.sampleTotal
  iinUa := 0
  vbatUv := 0
  vbusUv := 0
  dieTempDc := 0

namespace StatusAnswer

/-- The answer with what the chip shows now. -/
def withLive (answer : StatusAnswer) (live : Status) : StatusAnswer :=
  { answer with
    opMode := live.opMode.code
    sysSts := live.sysSts
    fault1Sts := live.fault1Sts
    fault2Sts := live.fault2Sts
    safetySts := live.safetySts
    criticalFault := live.hasCriticalFault }

/-- The answer with the last sample. -/
def withSample (answer : StatusAnswer) (sample : TelemetrySample) : StatusAnswer :=
  { answer with
    iinUa := sample.iinUa
    vbatUv := sample.vbatUv
    vbusUv := sample.vbusUv
    dieTempDc := sample.dieTempDc }

/-- What the battery is told by a status request, unless no voltage is known. -/
def batterySample (answer : StatusAnswer) (maxIinUa : Nat) (socRising : Bool) (nowMs : Nat) :
    Battery.Sample where
  vbatUv := answer.vbatUv
  vbusUv := answer.vbusUv
  iinUa := answer.iinUa
  iinPeakUa := maxIinUa
  vacUnplug := decide (answer.fault1Sts &&& Regs.fault1VacUnplug ≠ 0)
  inputReadingsUsable := decide (answer.vbatUv > 0) && decide (answer.vbusUv > 0)
  socRising := socRising
  nowMs := nowMs

end StatusAnswer

/-- Answer of `SET_LIMITS`. -/
structure LimitsAnswer where
  appliedIinUa : Nat
  errorCode : Int
  deriving DecidableEq, Repr

/-- Answer of `SET_MODE` and of `SET_CHARGE`. -/
structure ModeAnswer where
  appliedMode : Byte
  sysSts : Byte
  errorCode : Int
  deriving DecidableEq, Repr

/-- Answer of `READ_REG` and of `WRITE_REG`. -/
structure RegAnswer where
  value : Byte
  errorCode : Int
  deriving DecidableEq, Repr

/-- Answer of `RUN_HVDCP`. -/
structure HvdcpAnswer where
  errorCode : Int
  apsdStatus : Byte
  apsdResult : Byte
  pulseCnt : Nat
  phase : Nat
  targetVbusUv : Nat
  estimatedVbusUv : Nat
  deriving DecidableEq, Repr

section
variable [LoopFuel]

/-! ### Control requests -/

/-- Reads the four channels for a status request that finds no stored sample. -/
def sampleForStatus (answer : StatusAnswer) : HeldM StatusAnswer := do
  let vbat ← onPump (readAdc .vbat)
  let vbus ← onPump (readAdc .vin)
  let iin ← onPump (readAdc .iin)
  let temp ← onPump (readAdc .dieTemp)
  pure
    { answer with
      vbatUv := (vbat.toOption.getD 0).toNat
      vbusUv := (vbus.toOption.getD 0).toNat
      iinUa := (iin.toOption.getD 0).toNat
      dieTempDc := temp.toOption.getD 0 }

/-- The stored sample, or one read in place. -/
def fillSample (answer : StatusAnswer) : DriverM StatusAnswer := do
  let s ← Proc.get
  match s.telemetry.lastSample with
  | some sample =>
      let answer := answer.withSample sample
      -- without a pump the stored sample also tells the mode
      if s.pump.isNone then pure { answer with opMode := sample.opMode.code } else pure answer
  -- no sample was ever stored: the converter is read now
  | none =>
      let sampled ← withPump (sampleForStatus answer)
      pure (sampled.getD answer)

/-- Keeps the battery fresh from a status request, if any voltage is known. -/
def feedBattery (answer : StatusAnswer) : DriverM Unit :=
  Proc.when (decide (answer.vbatUv > 0) || decide (answer.vbusUv > 0)) do
    let now ← monotonicMs
    Proc.modify fun s =>
      { s with
        battery :=
          (s.battery.updateFromTelemetry
            (answer.batterySample s.maxIinUa s.battery.socRising now)).1 }

/-- `GET_STATUS`. -/
def handleGetStatus : DriverM StatusAnswer := do
  let s ← Proc.get
  let live ← withPump (onPump status)
  let answer :=
    match live.bind Except.toOption with
    | some live => s.statusAnswer.withLive live
    | none => s.statusAnswer
  let answer ← fillSample answer
  -- the query itself feeds the battery flags
  feedBattery answer
  pure answer

/-- The transfer counters of the pump, copied for the status. -/
def copyCounters (s : Held) : Held := { s with writes := s.pump.writes, reads := s.pump.reads }

/-- Code of an outcome: zero, or the code of its error. -/
def outcomeCode {α : Type} : Except PumpError α → Int
  | .ok _ => 0
  | .error err => pumpErrorCode err

/-- `READ_REG`. -/
def handleReadReg (addr : RegAddr) : DriverM RegAnswer := do
  let answer ← withPump do
    let result ← onPump (readRegister addr)
    Proc.modify copyCounters
    pure { value := result.toOption.getD 0, errorCode := outcomeCode result }
  pure (answer.getD { value := 0, errorCode := -1 })

/-- `WRITE_REG`. -/
def handleWriteReg (addr : RegAddr) (value : Byte) : DriverM RegAnswer := do
  let answer ← withPump do
    let result ← onPump (writeRegister addr value)
    Proc.modify copyCounters
    pure { value := value, errorCode := outcomeCode result }
  pure (answer.getD { value := value, errorCode := -1 })

/-- The current half of `SET_LIMITS`: the guard gets the current that was really applied. -/
def setGuardCurrent (iinUa : Nat) : HeldM LimitsAnswer := do
  -- zero leaves the limit as it is
  if iinUa = 0 then pure { appliedIinUa := 0, errorCode := 0 }
  else
    match ← onPump (setIinLimit iinUa) with
    | .ok code =>
        -- the guard works with what the chip was given, not with the request
        let applied := decodeIinLimit code
        Proc.modify fun s =>
          { s with limits := { s.limits with iinMaxUa := applied, iinTargetUa := applied } }
        pure { appliedIinUa := applied, errorCode := 0 }
    | .error err => pure { appliedIinUa := 0, errorCode := pumpErrorCode err }

/-- The voltage half of `SET_LIMITS`. -/
def setFloatVoltage (vbatUv : Nat) (answer : LimitsAnswer) : HeldM LimitsAnswer := do
  if vbatUv = 0 then pure answer
  else
    match ← onPump (setVbatFloat vbatUv) with
    | .ok _ => pure answer
    | .error err => pure { answer with errorCode := pumpErrorCode err }

/-- `SET_LIMITS`. A zero leaves its half alone. -/
def handleSetLimits (iinUa vbatUv : Nat) : DriverM LimitsAnswer := do
  let answer ← withPump do
    let answer ← setGuardCurrent iinUa
    setFloatVoltage vbatUv answer
  pure (answer.getD { appliedIinUa := 0, errorCode := -1 })

/-- The mode request itself. -/
def requestedMode (mode : Nat) : PumpM Byte :=
  match mode with
  | 1 => do
      standby
      pure OpMode.standby.code
  | 2 => do
      let mode ← enableBypass
      pure mode.code
  -- every other request is one for 2:1
  | _ => do
      let mode ← enableSwitching
      pure mode.code

/-- Whether the mode is admitted: a request of 1:1 must find `Vin` in the bypass window. -/
def modeAdmitted (mode : Nat) : HeldM Bool :=
  if mode = 2 then do
    let vin ← heldVin
    let vbat ← onPump (readAdc .vbat)
    pure (bypassAllowedByVin vin (vbat.toOption.getD 0).toNat)
  else pure true

/-- Requests an admitted mode. -/
def requestIfAdmitted (mode : Nat) : HeldM ModeAnswer := do
  let admitted ← modeAdmitted mode
  if admitted = false then pure { appliedMode := 0, sysSts := 0, errorCode := -20 }
  else
    match ← onPump (requestedMode mode) with
    | .ok applied => pure { appliedMode := applied, sysSts := 0, errorCode := 0 }
    | .error err => pure { appliedMode := 0, sysSts := 0, errorCode := pumpErrorCode err }

/-- `SET_MODE`. The answer is `none` for a mode that does not exist. -/
def handleSetMode (mode : Nat) : DriverM (Option ModeAnswer) :=
  if 1 ≤ mode ∧ mode ≤ 3 then do
    let answer ← withPump (requestIfAdmitted mode)
    pure (some (answer.getD { appliedMode := 0, sysSts := 0, errorCode := -1 }))
  else pure none

/-- Turns the charge on or off for a request. -/
def chargeOnRequest (on : Bool) : HeldM (Except PumpError OpMode) :=
  if on then do
    let (_, result) ← onPumpTotal startCharge
    countChargeAttempt
    pure result
  else onPump (setCharging false)

/-- `SET_CHARGE`. -/
def handleSetCharge (on : Bool) : DriverM ModeAnswer := do
  let answer ← withPump do
    match ← chargeOnRequest on with
    | .ok applied =>
        -- a status that cannot be read leaves a zero in the answer
        let st ← onPump status
        Proc.modify fun s => { s with lastError := 0 }
        pure
          { appliedMode := applied.code
            sysSts := (st.toOption.map Status.sysSts).getD 0
            errorCode := 0 }
    | .error err =>
        Proc.modify fun s => { s with lastError := pumpErrorCode err }
        pure { appliedMode := 0, sysSts := 0, errorCode := pumpErrorCode err }
  -- no pump is open
  pure (answer.getD { appliedMode := 0, sysSts := 0, errorCode := -1 })

/-- Command 0 reports, any other command negotiates. The answer is the error code. -/
def runHvdcpCommand (command : Nat) : DriverM Int := do
  -- a query: the phase, or zero before the first negotiation without a USBIN device
  if command = 0 then
    let s ← Proc.get
    pure (if s.hvdcp.phase = .idle ∧ s.usbinId = none then 0 else (s.hvdcp.phase.code : Int))
  else
    let code ← runHvdcpAndLand
    scheduleOrClearSuperuserRetry code
    armHvdcpInputEdge
    pure code

/-- `RUN_HVDCP`. -/
def handleRunHvdcp (command : Nat) : DriverM HvdcpAnswer := do
  -- 4 V where the cell cannot be read, for the target in the answer
  let vbatUv ← withPump (sampleVbatUv 4000000)
  let code ← runHvdcpCommand command
  let s ← Proc.get
  pure
    { errorCode := code
      apsdStatus := s.hvdcp.apsdStatus
      apsdResult := s.hvdcp.apsdResult
      pulseCnt := min s.hvdcp.pulseCnt 255
      phase := s.hvdcp.phase.code
      targetVbusUv := targetVbusUv (vbatUv.getD 4000000)
      estimatedVbusUv := estimatedVbusUv s.hvdcp.pulseCnt }

/-! ### Life cycle -/

/-- Identifies and configures the pump. The error is the code of `last_error`. A session whose
`configure` fails is dropped, and the drop closes it. -/
def preparePump (config : PumpConfig) : Prog BusEffect (Except Int Pump) :=
  (Pump.open config).bind fun
    -- the chip was not found, and nothing was opened
    | .error _ => .ret (.error (-2))
    | .ok pump =>
        (configure pump).bind fun
          -- the pump that was opened is dropped, and the drop closes it
          | (.error _, pump) => ((close : PumpM Unit) pump).map fun _ => .error (-3)
          | (.ok _, pump) =>
              -- charging starts from standby, whose outcome is not looked at
              ((Proc.discard standby : Proc BusEffect Empty Pump Unit) pump).map fun out =>
                .ok out.2

/-- One read for the first battery status: the samples, and whether the brick is
unplugged. -/
def firstBatterySample (maxIinUa : Nat) (socRising : Bool) : HeldM Battery.Sample := do
  let vbat ← onPump (readAdc .vbat)
  let vbus ← onPump (readAdc .vin)
  let iin ← onPump (readAdc .iin)
  let fault1 ← onPump (readRegister Regs.fault1Sts)
  let iinUa := (iin.toOption.getD 0).toNat
  pure
    { vbatUv := (vbat.toOption.getD 0).toNat
      vbusUv := (vbus.toOption.getD 0).toNat
      iinUa := iinUa
      -- the first current is a peak already
      iinPeakUa := max maxIinUa iinUa
      vacUnplug := decide (fault1.toOption.getD 0 &&& Regs.fault1VacUnplug ≠ 0)
      inputReadingsUsable :=
        decide (vbat.toOption.getD 0 > 0) && decide (vbus.toOption.getD 0 > 0)
      socRising := socRising
      nowMs := 0 }

/-- The first read may come back empty: `n` more reads at most. -/
def firstBatterySamples (maxIinUa : Nat) (socRising : Bool) : Nat → HeldM Battery.Sample
  | 0 => firstBatterySample maxIinUa socRising
  | n + 1 => do
      let sample ← firstBatterySample maxIinUa socRising
      if sample.vbatUv > 0 then pure sample else firstBatterySamples maxIinUa socRising n

/-- Attaches the battery and publishes its first status. -/
def publishBattery : DriverM Unit := do
  let attached : Bool ← host .initializeBattery
  Proc.when attached do
    -- the battery device exists before its first sample
    Proc.modify fun s => { s with battery := { s.battery with attached := true } }
    let s ← Proc.get
    Proc.discard (withPump do
      let sample ← firstBatterySamples s.maxIinUa s.battery.socRising 2
      let now ← monotonicMs
      Proc.modify fun s =>
        { s with battery := (s.battery.updateFromTelemetry { sample with nowMs := now }).1 })

/-- The hardware is there: `key` is the registry key, `usbinId` the secondary transport. The
framework releases a device before it prepares it again, so there is no earlier pump to drop. -/
def prepareHardware (key : Option Registry) (usbinId : Option Nat) : DriverM Unit := do
  let params := readParameters key
  Proc.modify fun s => { s with usbinId := usbinId }
  let opened : Except Int Pump ←
    (fun s => (preparePump params.config).inl.map fun r => (.ok r, s))
  match opened with
  -- without a pump the device can still be asked for the error
  | .error code => Proc.modify fun s => { s with lastError := code }
  | .ok pump =>
      Proc.modify fun s =>
        { s with
          pump := some pump
          telemetryMs := params.telemetryMs
          fccCfgRaw := params.fccRaw
          limits := params.limits }
      -- the first negotiation, before the battery is shown
      let code ← runHvdcpAndLand
      scheduleOrClearSuperuserRetry code
      armHvdcpInputEdge
      Proc.when params.publishBattery publishBattery

/-- The hardware goes away. -/
def releaseHardware : DriverM Unit := do
  Proc.modify fun s => { s with battery := { s.battery with attached := false } }
  Proc.discard (withPump do
    -- standby first, then the chip is closed; both outcomes are dropped
    Proc.discard (onPump standby)
    Proc.discard (onPump close))
  Proc.modify fun s =>
    { s with
      pump := none
      hvdcpRetryPending := false
      hvdcpEdgeArmed := false
      lastInputPresent := false
      deviceBound := false }

/-! ### Runs -/

/-- The entry points of the driver. -/
inductive DriverOp
  | tick
  | getStatus
  | readReg (addr : RegAddr)
  | writeReg (addr : RegAddr) (value : Byte)
  | setLimits (iinUa vbatUv : Nat)
  | setMode (mode : Nat)
  | setCharge (on : Bool)
  | runHvdcp (command : Nat)
  /-- `evt_device_add`: the device handle of the timer callback. -/
  | deviceAdd
  | prepare (key : Option Registry) (usbinId : Option Nat)
  | release

/-- The program of an entry point. Its answer goes to the caller. -/
def DriverOp.run : DriverOp → DriverM Unit
  | .tick => telemetryTick
  | .getStatus => Proc.discard handleGetStatus
  | .readReg addr => Proc.discard (handleReadReg addr)
  | .writeReg addr value => Proc.discard (handleWriteReg addr value)
  | .setLimits iinUa vbatUv => Proc.discard (handleSetLimits iinUa vbatUv)
  | .setMode mode => Proc.discard (handleSetMode mode)
  | .setCharge on => Proc.discard (handleSetCharge on)
  | .runHvdcp command => Proc.discard (handleRunHvdcp command)
  | .deviceAdd => Proc.modify fun s => { s with deviceBound := true }
  | .prepare key usbinId => prepareHardware key usbinId
  | .release => releaseHardware

end

end Kmdf
