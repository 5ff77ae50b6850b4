import NabuCharger.Kmdf.Battery
import NabuCharger.Kmdf.Hvdcp
import NabuCharger.Kmdf.Parameters
import NabuCharger.Ln8000.Telemetry

/-!
# `Kmdf.State`: the state of the kernel driver, and what it talks to

The driver owns one `DriverState`. All its entry points run under the state mutex, so each is
one program from state to state. A program talks to two parties: the pump's bus
(`BusEffect`) and the host (`HostEffect`): the PMIC bus, the clock, the fuel counter and the
buck registers.

The code borrows the pump for the length of a telemetry tick. `Held` is the state with the
pump in hand, `withPump` the borrow. Programs of the pump run inside by `onPump`, the ones of
the Quick Charge machine by `onHvdcp`: its `Vin` samples are samples of the pump's ADC.

The points of the tick and the landing that a property speaks of are operations of the host
without an answer (`Point`), as the marks of the pump are.
-/

set_option autoImplicit false

namespace Kmdf

open Effectful Ln8000

/-! ### What the driver talks to -/

/-- Outcome of the fuel-counter poll of a tick. -/
inductive GaugePoll
  | skipped
  | raw (value : Nat)
  | failed
  deriving DecidableEq, Repr

/-- What the driver keeps of the PM8150B register snapshot. -/
structure ChargeRegs where
  fccRaw : Byte
  fgVbattUv : Nat
  deriving DecidableEq, Repr

/-- What the protection step of a tick decides on. -/
structure GuardInputs where
  status : Status
  sample : TelemetrySample
  limits : GuardLimits
  /-- The setpoint that stands in the chip. -/
  appliedIinUa : Option Nat
  /-- The deliberate setpoint of the taper. -/
  deliberateIinUa : Option Nat
  deniedStrikes : Nat
  vbusUv : Int
  deriving DecidableEq, Repr

/-- The decision of the protection step. -/
def GuardInputs.action (inputs : GuardInputs) : GuardAction :=
  evaluate inputs.sample inputs.limits inputs.appliedIinUa inputs.deliberateIinUa

/-- The current the protection step orders. -/
def GuardInputs.orderedUa (inputs : GuardInputs) : Option Nat :=
  inputs.action.orderedUa inputs.vbusUv inputs.sample.vbatUv inputs.deniedStrikes inputs.limits

/-- A point of the driver made visible in its trace. -/
inductive Point
  /-- The protection step is about to act. -/
  | guard (inputs : GuardInputs)
  /-- The telemetry tick returns. -/
  | tickDone
  /-- `run_hvdcp_and_land` starts. -/
  | landing
  /-- The landing goes to the 5 V bypass, with this maximum in force. -/
  | fiveVLanding (iinMaxUa : Nat)
  /-- `adc_awake` was assigned. -/
  | adcAwake (awake : Bool)
  deriving DecidableEq, Repr

/-- Operations on the host. -/
inductive HostOp
  | spmi (o : SpmiOp)
  /-- `monotonic_ms`. -/
  | now
  | pollGauge
  | readChargeRegs
  /-- Writes the buck FCC. The answer is the read-back. -/
  | writeFccRaw (raw : Byte)
  /-- Attaches the battery to its class. -/
  | initializeBattery
  | point (p : Point)
  deriving DecidableEq, Repr

/-- What the driver needs beside the pump's bus. -/
def HostEffect : Effect where
  Op := HostOp
  Resp
    | .spmi o => o.Resp
    | .now => Nat
    | .pollGauge => GaugePoll
    | .readChargeRegs => Option ChargeRegs
    | .writeFccRaw _ => Option Byte
    | .initializeBattery => Bool
    | .point _ => Unit

/-- Everything the kernel driver talks to. -/
abbrev DevEffect : Effect := BusEffect.sum HostEffect

/-! ### State -/

/-- The driver state beside the pump, the battery miniport included. -/
structure Context where
  telemetry : Telemetry
  limits : GuardLimits
  writes : Nat
  reads : Nat
  lastError : Int
  actions : Nat
  telemetryMs : Nat
  lastChargeAttemptMs : Nat
  lastAttemptVbusUv : Nat
  autoStarts : Nat
  failedAttempts : Nat
  chargeAttempts : Nat
  lastEnableMs : Nat
  maxIinUa : Nat
  iinWindowStartMs : Nat
  bypassDeniedStrikes : Nat
  usbinId : Option Nat
  hvdcp : HvdcpState
  hvdcpRetryPending : Bool
  hvdcpRetryAttempts : Nat
  hvdcpRetryNextMs : Nat
  lastInputPresent : Bool
  /-- The tick has taken the ADC out of auto-hibernation. -/
  adcAwake : Bool
  adcWakeN : Nat
  hvdcpEdgeArmed : Bool
  lastWindowNudgeMs : Nat
  windowBestErrUv : Nat
  windowStallN : Nat
  reElevateAttempts : Nat
  reElevateNextMs : Nat
  reElevateBackoffMs : Nat
  lastChgrMarkMs : Nat
  fgVbattUv : Nat
  fccCfgRaw : Nat
  fccBootRaw : Byte
  fccRaised : Bool
  fccRestoreAtMs : Nat
  fccProbeDone : Bool
  battery : Battery
  /-- The device handle of the timer callback is set. -/
  deviceBound : Bool

/-- Driver state: the single device instance. -/
structure DriverState extends Context where
  pump : Option Pump

/-- The driver state while the pump is borrowed. -/
structure Held extends Context where
  pump : Pump

/-- The state of a driver that was just loaded. -/
def Context.new : Context where
  telemetry := Telemetry.new
  limits := GuardLimits.standard
  writes := 0
  reads := 0
  lastError := 0
  actions := 0
  telemetryMs := 250
  lastChargeAttemptMs := 0
  lastAttemptVbusUv := 0
  autoStarts := 0
  failedAttempts := 0
  chargeAttempts := 0
  lastEnableMs := 0
  maxIinUa := 0
  iinWindowStartMs := 0
  bypassDeniedStrikes := 0
  usbinId := none
  hvdcp := HvdcpState.new
  hvdcpRetryPending := false
  hvdcpRetryAttempts := 0
  hvdcpRetryNextMs := 0
  lastInputPresent := false
  adcAwake := false
  adcWakeN := 0
  hvdcpEdgeArmed := false
  lastWindowNudgeMs := 0
  windowBestErrUv := wordMax 32
  windowStallN := 0
  reElevateAttempts := 0
  reElevateNextMs := 0
  reElevateBackoffMs := 0
  lastChgrMarkMs := 0
  fgVbattUv := 0
  fccCfgRaw := 0
  fccBootRaw := 0
  fccRaised := false
  fccRestoreAtMs := 0
  fccProbeDone := false
  battery := Battery.new
  deviceBound := false

/-- The driver without its hardware. -/
def DriverState.new : DriverState := { Context.new with pump := none }

/-! ### Programs -/

/-- Programs of the driver. They have no failure of their own: every failure of the pump is
handled where it occurs. -/
abbrev DriverM (α : Type) : Type := Proc DevEffect Empty DriverState α

/-- Programs of the driver with the pump in hand. -/
abbrev HeldM (α : Type) : Type := Proc DevEffect Empty Held α

/-- Issues one operation on the host. -/
def host {σ : Type} (o : HostOp) : Proc DevEffect Empty σ (HostEffect.Resp o) :=
  Proc.perform (E := DevEffect) (Sum.inr o)

/-- Monotonic milliseconds. -/
def monotonicMs {σ : Type} : Proc DevEffect Empty σ Nat := host .now

/-- Makes a point of the driver visible in the trace. -/
def point {σ : Type} (p : Point) : Proc DevEffect Empty σ Unit := host (.point p)

/-- Runs a program of the pump on the borrowed pump. -/
def onPump {ε α : Type} (x : Proc BusEffect ε Pump α) : HeldM (Except ε α) :=
  Proc.onPart Held.pump (fun p s => { s with pump := p }) x.inl

/-- Borrows the pump for `x`. Without a pump, `x` does not run. -/
def withPump {α : Type} (x : HeldM α) : DriverM (Option α) := fun s =>
  match s.pump with
  | none => .ret (.ok none, s)
  | some p =>
      (x { s.toContext with pump := p }).map fun out =>
        (out.1.map some, { out.2.toContext with pump := some out.2.pump })

section
variable [LoopFuel]

/-- A `Vin` sample of the borrowed pump, zero when it fails. -/
def heldVin : HeldM Int := do
  let sample ← onPump (readAdc .vin)
  pure (sample.toOption.getD 0)

/-- The value of a program that has no failure. -/
def outcome {σ α : Type} : Except Empty α × σ → α × σ
  | (.ok a, s) => (a, s)
  | (.error e, _) => nomatch e

/-- What the operations of the Quick Charge machine stand for while the pump is borrowed. -/
def heldHandler : Handler HvdcpEffect DevEffect Held
  | .spmi o, s => .op (Sum.inr (HostOp.spmi o)) fun r => .ret (r, s)
  | .readVin, s => (heldVin s).map outcome

/-- A `Vin` sample of the pump, zero when it fails or when there is none. -/
def driverVin : DriverM Int := do
  let sample ← withPump heldVin
  pure (sample.getD 0)

/-- What the operations of the Quick Charge machine stand for outside the borrow. -/
def driverHandler : Handler HvdcpEffect DevEffect DriverState
  | .spmi o, s => .op (Sum.inr (HostOp.spmi o)) fun r => .ret (r, s)
  | .readVin, s => (driverVin s).map outcome

/-- Runs a program of the Quick Charge machine while the pump is borrowed. -/
def onHvdcp {α : Type} (x : HvdcpM α) : HeldM (Except HvdcpError α) :=
  Proc.handled heldHandler (fun s => s.hvdcp) (fun st s => { s with hvdcp := st }) x

/-- Runs a program of the Quick Charge machine outside the borrow. -/
def onDriverHvdcp {α : Type} (x : HvdcpM α) : DriverM (Except HvdcpError α) :=
  Proc.handled driverHandler (fun s => s.hvdcp) (fun st s => { s with hvdcp := st }) x

end

end Kmdf
