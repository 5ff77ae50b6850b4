import NabuCharger.Kmdf.State

/-!
# `Kmdf.Landing`: charge start, shutdown recovery, and the landing after a negotiation

`startCharge` is how every path of the driver turns the charge on: a chip in shutdown is
reset, configured and started (`recoverLnShutdown`), any other one is started at once.

`runHvdcpAndLand` negotiates, decides a mode from the bus it finds, prepares the input for
it, and starts the charge. The mode it prepares for is `engage`, computed from the anchored
cell voltage. The mode that is requested is chosen again by `setCharging`.
-/

set_option autoImplicit false

namespace Kmdf

open Effectful Ln8000

/-- Code of a pump error in `last_error` and in the answers. -/
def pumpErrorCode : PumpError → Int
  | .bus _ => -1
  | .notOpen => -2
  | .wrongDeviceId _ => -3
  | .modeNotReached _ _ => -4
  | .fault _ _ => -5
  | .outOfRange _ _ => -6
  | .watchdogExpired => -7
  | .bypassNeedsFiveVoltVin _ => -20

section
variable [LoopFuel] {ε : Type}

/-! ### Charge start -/

/-- A reset chip has to be configured anew before it charges. -/
def rebuildAndCharge : Proc BusEffect ε Pump (Except PumpError OpMode) := do
  Proc.discard softReset
  Proc.discard postResetDelay
  Proc.discard configure
  Proc.attempt (setCharging true)

/-- Leaves the hardware shutdown. `none` is a chip that was not in it. -/
def recoverLnShutdown : Proc BusEffect ε Pump (Option (Except PumpError OpMode)) := do
  match ← Proc.attempt (readRegister Regs.sysSts) with
  | .error _ => pure none
  | .ok sys =>
      if sys &&& Regs.sysStsShutdown = 0 then pure none
      else do
        let result ← rebuildAndCharge
        pure (some result)

/-- Turns the charge on. The first part says whether the chip was recovered for it. -/
def startCharge : Proc BusEffect ε Pump (Bool × Except PumpError OpMode) := do
  match ← recoverLnShutdown with
  | some result => pure (true, result)
  | none =>
      let result ← Proc.attempt (setCharging true)
      pure (false, result)

/-- Runs a program of the pump that has no failure of its own. -/
def onPumpTotal {α : Type} (x : Proc BusEffect Empty Pump α) : HeldM α := do
  let result ← onPump x
  match result with
  | .ok value => pure value
  | .error e => nomatch e

/-- Counts an attempt to turn the charge on. -/
def countChargeAttempt : HeldM Unit := do
  Proc.modify fun s => { s with chargeAttempts := satAdd 32 s.chargeAttempts 1 }
  let now ← monotonicMs
  Proc.modify fun s => { s with lastEnableMs := now }

/-- Turns the charge on and counts the attempt. -/
def attemptCharge : HeldM (Bool × Except PumpError OpMode) := do
  let (recovered, result) ← onPumpTotal startCharge
  Proc.when recovered do
    let now ← monotonicMs
    Proc.modify fun s => { s with lastChargeAttemptMs := now }
  countChargeAttempt
  pure (recovered, result)

/-- A charge that was turned on clears the failure counters. -/
def noteChargeStarted (s : Held) : Held :=
  { s with autoStarts := satAdd 32 s.autoStarts 1, failedAttempts := 0, lastError := 0 }

/-! ### The landing -/

/-- One correction of the bus toward the transfer band of `cellVbatUv`. -/
def nudge (vin : Int) (cellVbatUv : Nat) (dead : Bool) : HeldM Nat := do
  let s ← Proc.get
  let sent ← onHvdcp (nudgeVinIntoWindow s.usbinId vin cellVbatUv dead)
  pure (sent.toOption.getD 0)

/-- A `Vbat` sample of the pump, `fallback` when it fails. -/
def sampleVbatUv (fallback : Nat) : HeldM Nat := do
  let sample ← onPump (readAdc .vbat)
  pure ((sample.toOption.map Int.toNat).getD fallback)

/-- The mode the landing prepares for, and the bus it was decided on. An elevated bus without
headroom is corrected once before it is judged again. -/
def landingMode (vin : Int) (cellVbatUv : Nat) : HeldM (Int × Option OpMode) :=
  if chargeMode vin cellVbatUv ≠ some .switching ∧ fiveVStayMaxUv ≤ vin then do
    let _ ← nudge vin cellVbatUv false
    let again ← onPump (readAdc .vin)
    let vin := again.toOption.getD vin
    pure (vin, chargeMode vin cellVbatUv)
  else pure (vin, chargeMode vin cellVbatUv)

/-- The current budget of the 5 V bus, whatever the limits are. -/
def set5vCurrent : HeldM Unit := do
  let s ← Proc.get
  point (.fiveVLanding s.limits.iinMaxUa)
  Proc.discard (onPump (setIinLimit 2700000))

/-- Prepares the input for the mode of the landing. -/
def prepareLanding (vin : Int) (cellVbatUv : Nat) (engage : Option OpMode) : HeldM Unit := do
  let s ← Proc.get
  if engage = some .switching then do
    -- before 2:1 the bus goes into its window, and the input limit up
    let _ ← nudge vin cellVbatUv false
    let _ ← onHvdcp (raiseIclForPump s.usbinId)
    pure ()
  -- before 1:1 only an adapter that stayed at 5 V gets a higher limit
  else if engage = some .bypass ∧ vinStayedNear5v vin = true then do
    let _ ← onHvdcp (raiseIclFor5vBypass s.usbinId)
    set5vCurrent
  else pure ()

/-- The half of the landing that has the pump in hand. -/
def landOnPump (vbatUv : Nat) : HeldM Unit := do
  let vin ← heldVin
  let pumpVbatUv ← sampleVbatUv vbatUv
  let s ← Proc.get
  -- the gauge's cell voltage, where it is plausible
  let cellVbatUv := anchorCellVbatUv s.fgVbattUv pumpVbatUv
  let (vin, engage) ← landingMode vin cellVbatUv
  prepareLanding vin cellVbatUv engage
  let (_, result) ← attemptCharge
  match result with
  | .ok _ => Proc.modify noteChargeStarted
  -- a start that fails leaves its code, and the tick tries again
  | .error err => Proc.modify fun s => { s with lastError := pumpErrorCode err }

/-- Code of a negotiation: zero, or the code of its error. -/
def negotiateCode : Except HvdcpError Unit → Int
  | .ok _ => 0
  | .error err => err.code

/-- Negotiates and lands. The answer is the code of the negotiation. -/
def runHvdcpAndLand : DriverM Int := do
  point .landing
  let pumpVbatUv ← withPump (sampleVbatUv 4000000)
  let s ← Proc.get
  let vbatUv := anchorCellVbatUv s.fgVbattUv (pumpVbatUv.getD 4000000)
  let result ← onDriverHvdcp (runNegotiate s.usbinId vbatUv)
  let _ ← withPump (landOnPump vbatUv)
  pure (negotiateCode result)

/-- Schedules another attempt to open the PMIC bus, or clears the schedule. -/
def scheduleOrClearSuperuserRetry (code : Int) : DriverM Unit := do
  let s ← Proc.get
  if shouldScheduleSuperuserRetry code then
    -- after thirty retries no more are scheduled
    if hvdcpSuperuserRetryMax ≤ s.hvdcpRetryAttempts then
      Proc.modify fun s => { s with hvdcpRetryPending := false }
    else do
      -- any other outcome ends the series
      Proc.modify fun s => { s with hvdcpRetryPending := true }
      -- a time already set is not moved
      Proc.when (s.hvdcpRetryNextMs == 0) do
        let now ← monotonicMs
        Proc.modify fun s =>
          { s with hvdcpRetryNextMs := satAdd 64 now hvdcpSuperuserRetryMs }
  else
    Proc.modify fun s =>
      { s with hvdcpRetryPending := false, hvdcpRetryAttempts := 0, hvdcpRetryNextMs := 0 }

/-- Seeds the cable state, so that the next tick does not see an edge. -/
def armHvdcpInputEdge : DriverM Unit := do
  let vin ← driverVin
  Proc.modify fun s =>
    { s with lastInputPresent := inputPresentFromVin vin, hvdcpEdgeArmed := true }

end

end Kmdf
