import NabuCharger.Kmdf.Handlers
import NabuCharger.Logic.Marks

/-!
# `Kmdf.MarkedDriver`: the driver, with its negotiations marked

No exchange of the driver shows why it negotiates, or when it decided to. Here the programs
that start a negotiation are written once more, with a mark where the decision is taken
(`DriverMark.negotiating`), one where the negotiation has ended (`DriverMark.negotiated`), and one
after the half of a tick that moves the re-elevation (`DriverMark.scheduled`).

Without its marks each of them is the program it was written from
(`DriverOp.unmark_marked`).
-/

set_option autoImplicit false

namespace Kmdf

open Effectful Ln8000

/-- What a negotiation was started by. -/
inductive Cause
  | replug
  | retry
  | reelevate
  /-- `RUN_HVDCP`. -/
  | request
  /-- `try_autostart_hvdcp`, when the hardware is prepared. -/
  | prepare
  deriving DecidableEq, Repr

/-- What the driver decides and what comes of it. -/
inductive DriverMark
  /-- The tick has moved its schedule: the next re-elevation is due at `nextMs`, zero while no
  five-volt episode is open. -/
  | scheduled (nextMs : Nat)
  /-- A negotiation was decided on. -/
  | negotiating (cause : Cause)
  /-- It has ended with this code. -/
  | negotiated (code : Int)
  deriving DecidableEq, Repr

/-- The driver's surroundings, with a place for its marks. -/
abbrev MarkedEffect : Effect := DevEffect.sum (marks DriverMark)

/-- Programs of the marked driver. -/
abbrev MarkedM (α : Type) : Type := Proc MarkedEffect Empty DriverState α

section
variable [LoopFuel]

/-- `runDue` with its marks. -/
def markedDue (wants : Wants) : MarkedM Unit := do
  let s ← Proc.get
  -- one negotiation a tick: re-plug before retry before re-elevation
  if s.deviceBound = false then pure ()
  else if wants.replug then
    Proc.mark (.negotiating .replug)
    Proc.modify fun s => { s with hvdcp := { s.hvdcp with force9vLatched := false } }
    let code ← runHvdcpAndLand.inl
    Proc.mark (.negotiated code)
    (scheduleOrClearSuperuserRetry code).inl
    armHvdcpInputEdge.inl
  else if wants.retry then
    Proc.mark (.negotiating .retry)
    Proc.modify fun s => { s with hvdcpRetryAttempts := satAdd 32 s.hvdcpRetryAttempts 1 }
    -- the next retry is scheduled before the outcome of this one is known
    let now ← (monotonicMs : DriverM Nat).inl
    Proc.modify fun s => { s with hvdcpRetryNextMs := satAdd 64 now hvdcpSuperuserRetryMs }
    let code ← runHvdcpAndLand.inl
    Proc.mark (.negotiated code)
    (scheduleOrClearSuperuserRetry code).inl
    Proc.when (decide (code = 0)) armHvdcpInputEdge.inl
  else if wants.reelevate then
    Proc.mark (.negotiating .reelevate)
    let code ← runHvdcpAndLand.inl
    Proc.mark (.negotiated code)
    (scheduleOrClearSuperuserRetry code).inl
    armHvdcpInputEdge.inl
  else pure ()

/-- `tickLandings` with its marks. -/
def markedLandings : Option Wants → MarkedM Unit
  | some wants => markedDue wants
  | none => pure ()

/-- `telemetryTick` with its marks. -/
def markedTick : MarkedM Unit := do
  let gauge : GaugePoll ← (host .pollGauge : DriverM GaugePoll).inl
  let wants ← (withPump (tickOnPump gauge)).inl
  let s ← Proc.get
  Proc.mark (.scheduled s.reElevateNextMs)
  markedLandings wants.join
  (point .tickDone : DriverM Unit).inl

/-- `runHvdcpCommand` with its marks. -/
def markedCommand (command : Nat) : MarkedM Int := do
  if command = 0 then
    -- command 0 asks for the phase and starts nothing
    let s ← Proc.get
    pure (if s.hvdcp.phase = .idle ∧ s.usbinId = none then 0 else (s.hvdcp.phase.code : Int))
  else
    Proc.mark (.negotiating .request)
    let code ← runHvdcpAndLand.inl
    Proc.mark (.negotiated code)
    (scheduleOrClearSuperuserRetry code).inl
    armHvdcpInputEdge.inl
    pure code

/-- `handleRunHvdcp` with its marks. -/
def markedRunHvdcp (command : Nat) : MarkedM HvdcpAnswer := do
  let vbatUv ← (withPump (sampleVbatUv 4000000)).inl
  let code ← markedCommand command
  let s ← Proc.get
  pure
    { errorCode := code
      apsdStatus := s.hvdcp.apsdStatus
      apsdResult := s.hvdcp.apsdResult
      pulseCnt := min s.hvdcp.pulseCnt 255
      phase := s.hvdcp.phase.code
      targetVbusUv := targetVbusUv (vbatUv.getD 4000000)
      estimatedVbusUv := estimatedVbusUv s.hvdcp.pulseCnt }

/-- `prepareHardware` with its marks. -/
def markedPrepare (key : Option Registry) (usbinId : Option Nat) : MarkedM Unit := do
  let params := readParameters key
  Proc.modify fun s => { s with usbinId := usbinId }
  let opened : Except Int Pump ←
    Proc.inl (fun s => (preparePump params.config).inl.map fun r => (.ok r, s) :
      DriverM (Except Int Pump))
  match opened with
  | .error code => Proc.modify fun s => { s with lastError := code }
  | .ok pump =>
      Proc.modify fun s =>
        { s with
          pump := some pump
          telemetryMs := params.telemetryMs
          fccCfgRaw := params.fccRaw
          limits := params.limits }
      Proc.mark (.negotiating .prepare)
      let code ← runHvdcpAndLand.inl
      Proc.mark (.negotiated code)
      (scheduleOrClearSuperuserRetry code).inl
      armHvdcpInputEdge.inl
      Proc.when params.publishBattery publishBattery.inl

/-- The marked program of an entry point. One that negotiates nothing has no marks. -/
def DriverOp.marked : DriverOp → MarkedM Unit
  | .tick => markedTick
  | .runHvdcp command => Proc.discard (markedRunHvdcp command)
  | .prepare key usbinId => markedPrepare key usbinId
  | op => op.run.inl

/-! ### Without the marks -/

/-- The negotiations of a tick, with their marks taken away. -/
theorem unmark_markedDue (wants : Wants) : (markedDue wants).unmark = runDue wants := by
  simp [markedDue, runDue]

/-- So with the landings of a tick. -/
theorem unmark_markedLandings (wants : Option Wants) :
    (markedLandings wants).unmark = tickLandings wants := by
  cases wants with
  | none => rfl
  | some wants => exact unmark_markedDue wants

/-- The marked tick is the tick. -/
theorem unmark_markedTick : markedTick.unmark = telemetryTick := by
  refine Proc.unmark_inl_bind fun gauge => ?_
  simp [unmark_markedLandings]

/-- The marked negotiation of a client is that negotiation. -/
theorem unmark_markedCommand (command : Nat) :
    (markedCommand command).unmark = runHvdcpCommand command := by
  simp [markedCommand, runHvdcpCommand]

/-- The marked start of the hardware is that start. -/
theorem unmark_markedPrepare (key : Option Registry) (usbinId : Option Nat) :
    (markedPrepare key usbinId).unmark = prepareHardware key usbinId := by
  refine (Proc.unmark_bind _ _).trans (congrArg (_ >>= ·) (funext fun _ => ?_))
  refine Proc.unmark_inl_bind fun opened => ?_
  cases opened with
  | error code => rfl
  | ok pump => simp

/-- The marked driver is the driver. -/
theorem DriverOp.unmark_marked (op : DriverOp) : op.marked.unmark = op.run := by
  cases op with
  | tick => exact unmark_markedTick
  | runHvdcp command =>
      simp [DriverOp.marked, DriverOp.run, markedRunHvdcp, handleRunHvdcp, unmark_markedCommand]
  | prepare key usbinId => exact unmark_markedPrepare key usbinId
  | _ => exact Proc.unmark_inl _

end

end Kmdf
