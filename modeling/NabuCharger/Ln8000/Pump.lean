import NabuCharger.Ln8000.Transport

/-!
# `Ln8000.Pump`: the charge pump driver

The session of the pump driver: initialisation, modes, charge start and stop, the staged
recovery of the 5 V bypass, status and ADC reads. Each operation is a program over the
register bus with the session record `Pump` as its state and `PumpError` as its failure.

Every transfer goes through one retry loop (`retrying`): a failure worth another attempt
resets the channel and tries again until the attempts exceed `maxBusRetries`. Every
register write goes through `update` or `writeVerified`, and reads back what it wrote when
the profile asks for it. The exceptions are the two writes of `softReset`, after which the
chip must not be read.

Where the code drops a result (`let _ = …`), the program uses `Proc.discard`, and where it
substitutes a default (`unwrap_or`), `Proc.unwrapOr`: a failure there changes the session
(the loop marks it faulted) and nothing else.
-/

set_option autoImplicit false

namespace Ln8000

open Effectful

/-- Driver settings. -/
structure PumpConfig where
  vbatFloatUv : Nat
  vacOvpUv : Nat
  iinLimitUa : Nat
  ntcAlarmCfg : Nat
  watchdogEnabled : Bool
  watchdogPeriod : WatchdogPeriod
  autoRecovery : Bool
  verifyWrites : Bool
  maxBusRetries : Nat
  vbatRegDisabled : Bool
  iinOcpDisabled : Bool
  iinRegDisabled : Bool
  tdieProtDisabled : Bool
  tdieRegDisabled : Bool
  tbusMonDisabled : Bool
  tbatMonDisabled : Bool
  deriving DecidableEq, Repr

namespace PumpConfig

/-- Defaults of the reference driver. -/
def default : PumpConfig where
  vbatFloatUv := nabuVbatFloatUv
  vacOvpUv := 9500000
  iinLimitUa := 2000000
  ntcAlarmCfg := Regs.ntcAlarmDefault
  watchdogEnabled := false
  watchdogPeriod := .sec10
  autoRecovery := false
  verifyWrites := true
  maxBusRetries := 2
  vbatRegDisabled := false
  iinOcpDisabled := false
  iinRegDisabled := false
  tdieProtDisabled := false
  tdieRegDisabled := false
  tbusMonDisabled := false
  tbatMonDisabled := false

/-- Device Tree profile: the pump's own protections are disabled. -/
def forNabuDts : PumpConfig :=
  { default with
    vbatRegDisabled := true
    iinOcpDisabled := true
    iinRegDisabled := true
    tdieProtDisabled := true
    tdieRegDisabled := true
    tbusMonDisabled := true
    tbatMonDisabled := true }

/-- Profile with the pump's protections enabled. -/
def protective : PumpConfig :=
  { default with
    vbatRegDisabled := false
    iinOcpDisabled := false
    iinRegDisabled := false
    tdieProtDisabled := false
    tdieRegDisabled := false
    tbusMonDisabled := false
    tbatMonDisabled := false }

/-- Profile for a Quick Charge 3.5 class B adapter. -/
def forQc35ClassB : PumpConfig :=
  { default with
    vacOvpUv := 13000000
    -- the limit is the over-current threshold less 700 mA
    iinLimitUa := 3500000 - 700000
    vbatRegDisabled := false
    iinRegDisabled := false
    iinOcpDisabled := true
    tdieProtDisabled := true
    tdieRegDisabled := true
    tbusMonDisabled := true
    tbatMonDisabled := true }

/-- Takes the protection switches of `template`. -/
def withProtections (cfg template : PumpConfig) : PumpConfig :=
  { cfg with
    vbatRegDisabled := template.vbatRegDisabled
    iinOcpDisabled := template.iinOcpDisabled
    iinRegDisabled := template.iinRegDisabled
    tdieProtDisabled := template.tdieProtDisabled
    tdieRegDisabled := template.tdieRegDisabled
    tbusMonDisabled := template.tbusMonDisabled
    tbatMonDisabled := template.tbatMonDisabled }

/-- Applies a parameter from the registry. The flag says whether it is known and accepted,
and a rejected one leaves the profile as it was. -/
def applyParameter (cfg : PumpConfig) (name : String) (value : Nat) : PumpConfig × Bool :=
  if name = "IinLimitUa" then
    match encodeIinLimit value with
    | .error _ => (cfg, false)
    | .ok _ => ({ cfg with iinLimitUa := value }, true)
  else if name = "VbatFloatUv" then
    -- the encoder clamps, so the range of the register is checked here
    if ¬(3725000 ≤ value ∧ value ≤ 5000000) then (cfg, false)
    else ({ cfg with vbatFloatUv := value }, true)
  else if name = "VacOvpUv" then
    if ¬(6500000 ≤ value ∧ value ≤ 13000000) then (cfg, false)
    else ({ cfg with vacOvpUv := value }, true)
  else if name = "NtcAlarmCfg" then
    if value > 0x03FF then (cfg, false)
    else ({ cfg with ntcAlarmCfg := value }, true)
  else if name = "WatchdogEnabled" then
    ({ cfg with watchdogEnabled := decide (value ≠ 0) }, true)
  else if name = "BusRetryCount" then
    if value > 8 then (cfg, false)
    else ({ cfg with maxBusRetries := value }, true)
  else if name = "ProtectionProfile" then
    match value with
    | 0 => (cfg.withProtections forNabuDts, true)
    | 1 => (cfg.withProtections protective, true)
    | _ => (cfg, false)
  else (cfg, false)

end PumpConfig

/-- Driver session state. -/
inductive PumpState
  | closed
  | probed
  | configured
  | switching
  | faulted
  deriving DecidableEq, Repr

/-- The session of the pump driver. -/
structure Pump where
  config : PumpConfig
  state : PumpState
  opMode : OpMode
  /-- Stage the 5 V fallback reached in the last attempt. -/
  bypassStage : Nat
  /-- Input on which the latch was already cleared by a reset. -/
  porVinUv : Option Nat
  writes : Nat
  reads : Nat
  deriving DecidableEq, Repr

/-- Programs of the pump driver. -/
abbrev PumpM (α : Type) : Type := Proc BusEffect PumpError Pump α

section
variable [LoopFuel]

/-! ### Transfers -/

/-- Makes a point of the driver visible in the trace. -/
def mark (m : Mark) : PumpM Unit :=
  Proc.perform (E := BusEffect) (BusOp.mark m)

/-- One attempt to read a register. -/
def busRead (addr : RegAddr) : PumpM (Except BusError Byte) :=
  Proc.perform (E := BusEffect) (BusOp.read addr)

/-- One attempt to read two registers at once. -/
def busReadPair (addr : RegAddr) : PumpM (Except BusError (BitVec 16)) :=
  Proc.perform (E := BusEffect) (BusOp.readPair addr)

/-- One attempt to write a register. -/
def busWrite (addr : RegAddr) (value : Byte) : PumpM (Except BusError Unit) :=
  Proc.perform (E := BusEffect) (BusOp.write addr value)

/-- One attempt to reset the bus. -/
def busReset : PumpM (Except BusError Unit) :=
  Proc.perform (E := BusEffect) BusOp.reset

/-- The caller's sleep after a soft reset. -/
def postResetDelay : PumpM Unit :=
  Proc.perform (E := BusEffect) BusOp.postResetDelay

/-- The retry loop: `transfer` until it succeeds, the failure is not worth another attempt,
or the attempts exceed the profile's count. `attempt` is a saturating byte. -/
def retryLoop {α : Type} (transfer : PumpM (Except BusError α)) (count : Pump → Pump) :
    Nat → Nat → PumpM α
  -- out of fuel, which a number of retries from the registry, 8 at most, never reaches
  | 0, _ => Proc.diverge
  | fuel + 1, attempt => do
      match ← transfer with
      | .ok value =>
          -- only a transfer that succeeded is counted
          Proc.modify count
          pure value
      | .error err =>
          let pump ← Proc.get
          if !busRecoverable err || decide (satAdd 8 attempt 1 > pump.config.maxBusRetries) then
            -- not recoverable, or the retries are used up
            Proc.modify fun p => { p with state := .faulted }
            Proc.fail (.bus err)
          else
            -- the answer of the reset is dropped, whatever it was
            let _ ← busReset
            retryLoop transfer count fuel (satAdd 8 attempt 1)

/-- A transfer with retries. `count` is the bookkeeping of a success. -/
def retrying {α : Type} (transfer : PumpM (Except BusError α)) (count : Pump → Pump) :
    PumpM α :=
  retryLoop transfer count (LoopFuel.fuel + 256) 0

/-- Reads a register, with retries. -/
def read (addr : RegAddr) : PumpM Byte :=
  retrying (busRead addr) fun p => { p with reads := satAdd 32 p.reads 1 }

/-- Reads two registers at once, with retries. -/
def readPair (addr : RegAddr) : PumpM (BitVec 16) :=
  retrying (busReadPair addr) fun p => { p with reads := satAdd 32 p.reads 2 }

/-- Writes a register, with retries. -/
def write (addr : RegAddr) (value : Byte) : PumpM Unit :=
  retrying (busWrite addr value) fun p => { p with writes := satAdd 32 p.writes 1 }

/-- A setpoint out of its range is a fault. -/
def faultOutOfRange (field : String) (requested : Nat) : PumpM Unit := do
  Proc.modify fun p => { p with state := .faulted }
  Proc.fail (.outOfRange field requested)

/-- Reads back what a write left behind, if the profile asks for it. -/
def verifyWrite (addr : RegAddr) (value : Byte) (field : String) : PumpM Unit := do
  let pump ← Proc.get
  Proc.when pump.config.verifyWrites do
    let readBack ← read addr
    Proc.when (readBack != value) (faultOutOfRange field value.toNat)

/-- Read-modify-write of the bits under `mask`. -/
def update (addr : RegAddr) (mask value : Byte) (field : String) : PumpM Unit := do
  let current ← read addr
  write addr (mergeBits current mask value)
  verifyWrite addr (mergeBits current mask value) field

/-- Write of a whole register. -/
def writeVerified (addr : RegAddr) (value : Byte) (field : String) : PumpM Unit := do
  write addr value
  verifyWrite addr value field

/-! ### Reads -/

/-- Every operation begins with this check. -/
def ensureOpen : PumpM Unit := do
  let pump ← Proc.get
  Proc.when (pump.state == .closed) (Proc.fail .notOpen)

/-- Reads one ADC channel sample. The conversions pause while the pair is read, and resume
when the read failed too. -/
def readAdc (channel : AdcChannel) : PumpM Int := do
  update Regs.timerCtrl Regs.timerCtrlPauseAdc Regs.timerCtrlPauseAdc "adc_pause"
  let outcome ← Proc.attempt (readPair channel.register)
  Proc.discard (update Regs.timerCtrl Regs.timerCtrlPauseAdc 0 "adc_resume")
  let raw ← Proc.ofExcept outcome
  pure (channel.decode raw)

/-- A sample as an unsigned voltage: zero when the read failed or the value is negative. -/
def readAdcUv (channel : AdcChannel) : PumpM Nat := do
  let value ← Proc.unwrapOr (readAdc channel) 0
  pure value.toNat

/-- Reads a status snapshot. -/
def status : PumpM Status := do
  ensureOpen
  let sysSts ← read Regs.sysSts
  let safetySts ← read Regs.safetySts
  let fault1Sts ← read Regs.fault1Sts
  let fault2Sts ← read Regs.fault2Sts
  let ldoSts ← read Regs.ldoSts
  let opMode := OpMode.fromSysSts sysSts
  -- the mode is recorded only once all five registers are read
  Proc.modify fun p => { p with opMode := opMode }
  pure { sysSts, opMode, safetySts, fault1Sts, fault2Sts, ldoSts }

/-- The rest of the settle loop: at most `n` more reads, until a mode shows. -/
def settleLoop : Nat → Status → PumpM Status
  | 0, last => pure last
  | n + 1, _ => do
      let last ← status
      if last.opMode ≠ .unknown ∧ last.opMode ≠ .standby then pure last
      else settleLoop n last

/-- Re-reads the status, giving the chip time to apply the mode. -/
def settleAndReadStatus : PumpM Status := do
  let last ← status
  settleLoop 3 last

/-- Reads a register directly. -/
def readRegister (addr : RegAddr) : PumpM Byte := do
  ensureOpen
  read addr

/-- The input current setpoint that stands in the chip. -/
def appliedIinUa : PumpM (Option Nat) := do
  let raw ← Proc.attempt (readRegister Regs.iinCtrl)
  pure (raw.toOption.map decodeIinLimit)

/-! ### Modes and configuration -/

/-- Requests a mode. -/
def setOpMode (target : OpMode) : PumpM Unit := do
  ensureOpen
  let bits ← Proc.ofExcept target.sysCtrlBits
  mark (.request target)
  update Regs.sysCtrl OpMode.sysCtrlMask bits "op_mode"
  Proc.modify fun p => { p with opMode := target }

/-- `1` for a set flag. -/
def flag (b : Bool) : Byte := if b then 1 else 0

/-- Writes the protection and regulation loop bits according to the profile flags. -/
def configureProtections : PumpM Unit := do
  let pump ← Proc.get
  let cfg := pump.config
  -- bit 5 cleared keeps the battery over-voltage protection on
  update Regs.faultCtrl (bit 5) 0 "enable_vbat_ovp"
  -- the input over-current protection is off in every profile
  update Regs.faultCtrl (bit 6) (bit 6) "iin_ocp_off_nabu_dts"
  update Regs.regulationCtrl (bit 5) (flag cfg.vbatRegDisabled <<< 5) "vfloat_loop"
  update Regs.regulationCtrl (bit 7) (flag (!cfg.vbatRegDisabled) <<< 7) "vfloat_loop_int"
  update Regs.regulationCtrl (bit 4) (flag cfg.iinRegDisabled <<< 4) "iin_loop"
  update Regs.regulationCtrl (bit 6) (flag (!cfg.iinRegDisabled) <<< 6) "iin_loop_int"
  -- bit 2 is also the low bit of the NTC setting that `configureThresholds` wrote
  update Regs.regulationCtrl (bit 2) (flag (!cfg.tdieProtDisabled) <<< 2) "tdie_prot"
  update Regs.regulationCtrl (bit 1) (flag (!cfg.tdieRegDisabled) <<< 1) "tdie_regulation"
  update Regs.sysCtrl (bit 2) 0 "disable_reverse_current"

/-- Steps 1 to 6 of `configure`: thresholds and temperature monitors. -/
def configureThresholds : PumpM Unit := do
  let pump ← Proc.get
  let cfg := pump.config
  writeVerified Regs.vFloatCtrl (encodeVbatFloat cfg.vbatFloatUv) "vbat_float"
  update Regs.glitchCtrl (0x03 <<< 2) (encodeVacOvp cfg.vacOvpUv <<< 2) "vac_ovp"
  -- the only encoder that can fail: earlier writes stay in the chip
  let iinCode ← Proc.ofExcept (encodeIinLimit cfg.iinLimitUa)
  update Regs.iinCtrl 0x7F iinCode "iin_limit"
  writeVerified Regs.ntcCtrl (encodeNtcAlarm cfg.ntcAlarmCfg).1 "ntc_alarm_low"
  update Regs.adcCtrl 0x03 (encodeNtcAlarm cfg.ntcAlarmCfg).2 "ntc_alarm_high"
  update Regs.regulationCtrl (0x03 <<< 2) (Regs.ntcShutdownCfg <<< 2) "ntc_shutdown_cfg"
  let recovery : Byte := if cfg.autoRecovery then 0xF0 else 0x00
  let monitors := flag (!cfg.tbusMonDisabled) <<< 1 ||| flag (!cfg.tbatMonDisabled)
  update Regs.recoveryCtrl (0xF0 ||| 0b11) (recovery ||| monitors) "recovery_and_monitors"

/-- Steps 9 and 10 of `configure`: watchdog, ADC and the initialisation mark. -/
def configureTimers : PumpM Unit := do
  let pump ← Proc.get
  let cfg := pump.config
  let wdt : Byte := if cfg.watchdogEnabled then bit 7 else 0
  update Regs.timerCtrl (bit 7) wdt "watchdog_enable"
  update Regs.timerCtrl (0x03 <<< 5) (cfg.watchdogPeriod.code <<< 5) "watchdog_period"
  -- the ADC is off while its channels change
  update Regs.adcCtrl (0x07 <<< 5) (AdcMode.shutdown.code <<< 5) "adc_off_before_config"
  update Regs.adcCtrl (0x03 <<< 3) (AdcHibernateDelay.sec4.code <<< 3) "adc_hibernate_delay"
  writeVerified Regs.adcCfg 0x3E "adc_channels"
  update Regs.adcCtrl (0x07 <<< 5) (AdcMode.autoHibernate.code <<< 5) "adc_auto"
  update Regs.chargeCtrl (bit 7) (bit 7) "sw_init_marker"
  writeVerified Regs.thresholdCtrl Regs.thresholdCtrlDefault "thresholds"

/-- Configures the thresholds and protections, and leaves the chip in standby. -/
def configure : PumpM Unit := do
  ensureOpen
  mark .configureBegin
  configureThresholds
  configureProtections
  setOpMode .standby
  -- the adapter over-voltage protection goes on once the chip is in standby
  update Regs.faultCtrl (bit 4) 0 "enable_vac_ov"
  configureTimers
  Proc.modify fun p => { p with state := .configured }
  mark .configured

/-- Checks that the device accepted the requested mode. A silent refusal is a failure. -/
def confirmMode (wanted : OpMode) (reached : PumpState) : PumpM OpMode := do
  let st ← settleAndReadStatus
  if st.opMode ≠ wanted then
    Proc.fail (.modeNotReached wanted.code st.sysSts)
  else
    Proc.modify fun p => { p with state := reached }
    pure st.opMode

/-- Enables 2:1 mode and checks that the device accepted it. -/
def enableSwitching : PumpM OpMode := do
  setOpMode .switching
  confirmMode .switching .switching

/-- Enables 1:1 mode, in the bypass window only. -/
def enableBypass : PumpM OpMode := do
  let vin ← readAdc .vin
  let vbat ← readAdcUv .vbat
  if !bypassAllowedByVin vin vbat then
    Proc.fail (.bypassNeedsFiveVoltVin vin)
  else
    setOpMode .bypass
    -- 1:1 is not 2:1: the session goes back to the configured state
    confirmMode .bypass .configured

/-- Enables 2:1 mode and, on failure, 1:1. If neither is confirmed, the error of the first
attempt is returned. -/
def enableSwitchingOrBypass : PumpM OpMode := do
  match ← Proc.attempt enableSwitching with
  | .ok mode => pure mode
  | .error switchingError =>
      match ← Proc.attempt enableBypass with
      | .ok mode => pure mode
      | .error _ => Proc.fail switchingError

/-- Puts the device into standby. -/
def standby : PumpM Unit := setOpMode .standby

/-! ### Setpoints and latches -/

/-- Writes the input current setpoint without touching the profile. -/
def writeIinLimit (iinUa : Nat) (field : String) : PumpM Byte := do
  let code ← Proc.ofExcept (encodeIinLimit iinUa)
  update Regs.iinCtrl 0x7F code field
  pure code

/-- Updates the input current limit, in the chip and in the profile. -/
def setIinLimit (iinUa : Nat) : PumpM Byte := do
  let code ← writeIinLimit iinUa "iin_limit"
  Proc.modify fun p => { p with config := { p.config with iinLimitUa := iinUa } }
  pure code

/-- Updates the target charge voltage. -/
def setVbatFloat (vbatUv : Nat) : PumpM Byte := do
  writeVerified Regs.vFloatCtrl (encodeVbatFloat vbatUv) "vbat_float"
  Proc.modify fun p => { p with config := { p.config with vbatFloatUv := vbatUv } }
  pure (encodeVbatFloat vbatUv)

/-- Pulses the latch-clear bit. -/
def clearLatchedFaults : PumpM Unit := do
  update Regs.timerCtrl Regs.timerCtrlClearLatch Regs.timerCtrlClearLatch "latch_clear_set"
  update Regs.timerCtrl Regs.timerCtrlClearLatch 0 "latch_clear_clr"

/-- Services the chip's watchdog timer. -/
def serviceWatchdog : PumpM Unit := do
  let pump ← Proc.get
  Proc.when pump.config.watchdogEnabled
    (update Regs.timerCtrl (bit 7) (bit 7) "watchdog_service")

/-- Sets the ADC operating mode. -/
def setAdcMode (mode : AdcMode) : PumpM Unit :=
  update Regs.adcCtrl (0x07 <<< 5) (mode.code <<< 5) "adc_mode"

/-- Deliberate taper setpoint near the top of the charge. -/
def Pump.taperSetpointUa (pump : Pump) (vbatUv vinUv : Nat) (ovLatched : Bool) :
    Option Nat :=
  if !vbatNearFloatWithVin vbatUv pump.config.vbatFloatUv ovLatched vinUv then none
  else some (min pump.config.iinLimitUa vbatTaperIinUa)

/-- Vbat is at the float ceiling, not merely in the early taper band. -/
def atFloatCeiling (ovLatched : Bool) (vbatUv floatUv : Nat) : Bool :=
  ovLatched || decide (floatUv ≤ satAdd 32 vbatUv 50000)

/-- Raises `V_FLOAT` softly and masks `VBAT_OV`, at the float ceiling. -/
def raiseFloatAtCeiling (floatUv vbatUv : Nat) : PumpM Unit := do
  Proc.when (softFloatForVbat floatUv vbatUv > floatUv)
    (Proc.discard (writeVerified Regs.vFloatCtrl
      (encodeVbatFloat (softFloatForVbat floatUv vbatUv)) "vbat_float_soft"))
  Proc.discard (update Regs.faultCtrl Regs.faultCtrlDisableVbatOv Regs.faultCtrlDisableVbatOv
    "disable_vbat_ov_near_float")
  Proc.discard clearLatchedFaults

/-- Soft float, `VBAT_OV` and taper when Vbat is near float. -/
def prepareNearFloatForCharge (allowFloatRaise : Bool) : PumpM Unit := do
  let vbatUv ← readAdcUv .vbat
  let vinUv ← readAdcUv .vin
  -- a failed read counts as no fault latched
  let fault1 ← Proc.unwrapOr (read Regs.fault1Sts) 0
  let ovLatched := decide (fault1 &&& Regs.fault1VbatOv ≠ 0)
  let pump ← Proc.get
  let floatUv := pump.config.vbatFloatUv
  match pump.taperSetpointUa vbatUv vinUv ovLatched with
  | none => pure ()
  | some tapered =>
      Proc.when (atFloatCeiling ovLatched vbatUv floatUv && allowFloatRaise)
        (raiseFloatAtCeiling floatUv vbatUv)
      -- the profile keeps its limit: only the register is lowered
      Proc.when (tapered < pump.config.iinLimitUa)
        (Proc.discard (writeIinLimit tapered "iin_taper_near_float"))

/-! ### Reset and recovery of the 5 V bypass -/

/-- Software reset. The second write is absolute and not read back: the chip restarts. -/
def softReset : PumpM Unit := do
  write Regs.lionCtrl Regs.lionCtrlUnlock
  let current ← Proc.unwrapOr (read Regs.bcOp2) 0
  write Regs.bcOp2 (current ||| bit 0)
  Proc.modify fun p => { p with state := .probed, opMode := .unknown }

/-- Masks the faults a sagging 5 V brick latches, and clears the latch. -/
def arm5vBypassFaultMask : PumpM Unit := do
  update Regs.faultCtrl Regs.faultCtrlMask5vBypass Regs.faultCtrlMask5vBypass
    "mask_5v_bypass_faults"
  clearLatchedFaults

/-- Refuses a second reset on the same input, unless a voltage fault is latched. -/
def checkPorBudget (vinNow : Nat) : PumpM Unit := do
  let pump ← Proc.get
  match pump.porVinUv with
  | none => pure ()
  | some prev =>
      let fault1 ← Proc.unwrapOr (read Regs.fault1Sts) 0
      -- the same input, and no input fault latched: the budget is used up
      if (max vinNow prev - min vinNow prev ≤ porVinToleranceUv) ∧
          fault1 &&& Regs.fault1VfaultsMask = 0 then
        let rawStatus ← Proc.unwrapOr (read Regs.sysSts) 0
        Proc.fail (.modeNotReached OpMode.bypass.code rawStatus)
      else pure ()

/-- Stage 3 of the recovery: the fault mask and the latch pulse, then the mode again. -/
def recoverMasked : PumpM OpMode := do
  Proc.modify fun p => { p with bypassStage := 3 }
  Proc.discard arm5vBypassFaultMask
  setOpMode .bypass
  let st ← settleAndReadStatus
  if st.opMode = .bypass then
    Proc.modify fun p => { p with state := .configured }
    pure st.opMode
  else
    -- the mask did not help: it is taken out again
    Proc.discard (update Regs.faultCtrl Regs.faultCtrlMask5vBypass 0 "unmask_after_failed_bypass")
    Proc.fail (.modeNotReached OpMode.bypass.code st.sysSts)

/-- Stage 2 of the recovery: the mode on the clean configuration, then stage 3. -/
def recoverClean : PumpM OpMode := do
  -- masked like every mode write: the other bits of `SYS_CTRL` stay as they are
  setOpMode .bypass
  let st ← settleAndReadStatus
  if st.opMode = .bypass then
    Proc.modify fun p => { p with state := .configured }
    prepareNearFloatForCharge false
    pure st.opMode
  else
    recoverMasked

/-- What follows the reset: reconfigure, sample again, and request 1:1 if it is allowed. -/
def recoverConfigured : PumpM OpMode := do
  Proc.discard configure
  let vin ← Proc.unwrapOr (readAdc .vin) 0
  let vbat ← readAdcUv .vbat
  if chargeMode vin vbat ≠ some .bypass then
    Proc.fail (.modeNotReached OpMode.bypass.code 0)
  else
    recoverClean

/-- The reset of the recovery and what follows it. -/
def resetAndRecover : PumpM OpMode := do
  Proc.discard softReset
  Proc.modify fun p => { p with bypassStage := 2 }
  postResetDelay
  recoverConfigured

/-- Soft-reset recovery for the 5 V bypass, once per input. -/
def recover5vBypass : PumpM OpMode := do
  let vinNow ← readAdcUv .vin
  checkPorBudget vinNow
  Proc.modify fun p => { p with porVinUv := some vinNow }
  resetAndRecover

/-! ### Charge start and stop -/

/-- The steps before a 2:1 request: taper, latches, and the input overvoltage mask. -/
def prepareElevated (want : OpMode) : PumpM Unit := do
  prepareNearFloatForCharge true
  Proc.discard clearLatchedFaults
  Proc.when (want == .switching)
    (Proc.discard (update Regs.faultCtrl Regs.faultCtrlDisableVinOv Regs.faultCtrlDisableVinOv
      "disable_vin_ov_qc"))

/-- Requests the chosen mode, with the staged recovery behind 1:1. -/
def requestMode : OpMode → PumpM OpMode
  | .switching => enableSwitching
  | .bypass => do
      Proc.modify fun p => { p with bypassStage := 1 }
      match ← Proc.attempt enableBypass with
      | .ok mode => pure mode
      | .error _ => recover5vBypass
  | want => Proc.fail (.modeNotReached want.code 0)

/-- Charge start once the mode is chosen. -/
def startCharging (want : OpMode) : PumpM OpMode := do
  let pump ← Proc.get
  Proc.when (!pump.config.watchdogEnabled)
    (Proc.discard (update Regs.timerCtrl (bit 7) 0 "watchdog_force_off"))
  Proc.modify fun p => { p with bypassStage := 0 }
  -- the 5 V path goes straight to the mode request
  Proc.when (want != .bypass) (prepareElevated want)
  match ← Proc.attempt (requestMode want) with
  | .ok mode =>
      Proc.modify fun p =>
        { p with
          opMode := mode
          state := if mode = .switching then .switching else .configured }
      -- at 5 V the taper comes after the mode, and never raises the float voltage
      Proc.when (mode == .bypass) (prepareNearFloatForCharge false)
      pure mode
  | .error err =>
      -- a refused 1:1 request is left as it stands
      Proc.when (want != .bypass) (Proc.discard (setOpMode .standby))
      Proc.fail err

/-- Charge stop. -/
def stopCharging : PumpM OpMode := do
  Proc.modify fun p => { p with porVinUv := none }
  setOpMode .standby
  let st ← settleAndReadStatus
  Proc.modify fun p => { p with opMode := st.opMode, state := .configured }
  pure st.opMode

/-- Charge start, from a fresh sample of Vin and Vbat. -/
def chargeFromSamples : PumpM OpMode := do
  let vin ← Proc.unwrapOr (readAdc .vin) 0
  let vbat ← readAdcUv .vbat
  match chargeMode vin vbat with
  | none =>
      Proc.discard (setOpMode .standby)
      Proc.fail (.modeNotReached OpMode.standby.code 0)
  | some want => startCharging want

/-- Explicit charge start or stop. -/
def setCharging (on : Bool) : PumpM OpMode := do
  update Regs.sysCtrl (bit 2) 0 "disable_reverse_current"
  if !on then stopCharging else chargeFromSamples

/-! ### Session -/

/-- Writes a register directly, verified by reading back. -/
def writeRegister (addr : RegAddr) (value : Byte) : PumpM Unit := do
  ensureOpen
  if addr = Regs.bcOp2 ∧ value &&& bit 0 ≠ 0 then write addr value
  else writeVerified addr value "diagnostic"

/-- Closes the session: the device is put into standby. -/
def close : PumpM Unit := do
  let pump ← Proc.get
  Proc.when (pump.state != .closed) do
    Proc.discard (update Regs.sysCtrl OpMode.sysCtrlMask Regs.sysCtrlStandbyEn "close_standby")
    Proc.modify fun p => { p with state := .closed, opMode := .standby }

end

/-- The session of a chip that answered with the right identifier. -/
def Pump.probed (config : PumpConfig) : Pump where
  config := config
  state := .probed
  opMode := .unknown
  bypassStage := 0
  porVinUv := none
  writes := 0
  reads := 1

/-- Opens a session: one channel reset, one read of the identifier. -/
def Pump.open (config : PumpConfig) : Prog BusEffect (Except PumpError Pump) :=
  .op BusOp.reset fun _ => .op (BusOp.read Regs.deviceId) fun
    | .error err => .ret (.error (.bus err))
    | .ok id =>
        if id ≠ Regs.deviceIdValue then .ret (.error (.wrongDeviceId id))
        else .ret (.ok (Pump.probed config))

end Ln8000
