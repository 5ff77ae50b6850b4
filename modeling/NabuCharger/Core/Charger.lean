import NabuCharger.Core.Icl
import NabuCharger.Logic.Machine

/-!
# `Core.Charger`: the session of the charger driver

The core driver identifies the adapter and applies the current limit for it. It has a session
state and talks to three parties, each of them operations of `ChargerEffect`: the transport to
the PMIC registers, the clock, and the journal. Nothing is assumed about the answers: a
transfer may fail or return any byte, a link reset may fail, the clock is any sequence of
readings.

A transfer that fails is repeated after a link reset, up to `maxTransportRetries` times
(`attemptLoop`). With the largest budget of a byte the attempt counter saturates before the
budget is exceeded, and the loop need not end. The loop therefore has fuel.

Every operation that fails on an open session goes through `Charger.fail`, which counts and
journals the error and moves the session to `State.faulted`.
-/

set_option autoImplicit false

namespace ChargerCore

open Effectful

/-- Session state. -/
inductive State
  /-- Session is not open. -/
  | closed
  /-- Link verified, detection has not started yet. -/
  | idle
  /-- Waiting for APSD to complete. -/
  | detecting
  /-- Adapter type identified, policy applied. -/
  | ready
  /-- Session is faulted after attempts were exhausted. -/
  | faulted
  deriving DecidableEq, Repr

/-- Stable state name for the journal. -/
def State.label : State → String
  | .closed => "closed"
  | .idle => "idle"
  | .detecting => "detecting"
  | .ready => "ready"
  | .faulted => "faulted"

/-- Driver settings. -/
structure ChargerConfig where
  /-- How many milliseconds to wait for APSD to complete before failing. -/
  detectTimeoutMs : Nat
  /-- How many times detection may be rerun on an unstable adapter. -/
  maxDetectReruns : Nat
  /-- How many times the link may be reopened on a transport failure. -/
  maxTransportRetries : Nat
  /-- Safe current limit applied when the session closes. -/
  safeIclUa : Nat
  /-- Upper bound on the current limit that may be applied. -/
  maxIclUa : Nat
  /-- Verify every write by reading it back. -/
  verifyWrites : Bool
  qc35 : Qc35Support
  icl : IclEncoding
  maxDetectReruns_le : maxDetectReruns ≤ wordMax 8
  maxTransportRetries_le : maxTransportRetries ≤ wordMax 8
  deriving DecidableEq, Repr

/-- Profile for the tablet. -/
def ChargerConfig.forNabu : ChargerConfig where
  detectTimeoutMs := 3000
  maxDetectReruns := 2
  maxTransportRetries := 3
  safeIclUa := minIclUa
  maxIclUa := ChargerCore.maxIclUa
  verifyWrites := true
  qc35 := .supported false
  icl := .standard
  maxDetectReruns_le := by decide
  maxTransportRetries_le := by decide

/-- Driver counters. -/
structure Stats where
  reads : Nat
  writes : Nat
  retries : Nat
  resets : Nat
  errors : Nat
  detections : Nat
  deriving DecidableEq, Repr

namespace Stats

variable (stats : Stats)

/-- One more register was read. -/
def addRead : Stats := { stats with reads := satAdd 64 stats.reads 1 }
/-- One more register was written. -/
def addWrite : Stats := { stats with writes := satAdd 64 stats.writes 1 }
/-- One more access had to be tried again. -/
def addRetry : Stats := { stats with retries := satAdd 64 stats.retries 1 }
/-- The link was reset once more. -/
def addReset : Stats := { stats with resets := satAdd 64 stats.resets 1 }
/-- One more operation failed. -/
def addError : Stats := { stats with errors := satAdd 64 stats.errors 1 }
/-- One more adapter was identified. -/
def addDetection : Stats := { stats with detections := satAdd 64 stats.detections 1 }

end Stats

/-! ### The journal -/

/-- Record severity level. -/
inductive Level
  | trace
  | debug
  | info
  | warn
  | error
  deriving DecidableEq, Repr

/-- What exactly happened. -/
inductive EventKind
  | opened (transport : String) (ok : Bool)
  | close (ok : Bool)
  | read (addr : RegAddr) (value : Byte) (elapsedUs : Nat)
  | write (addr : RegAddr) (value : Byte) (elapsedUs : Nat)
  | detect (adapter : String) (rawStatus rawResult : Byte) (waitedMs : Nat)
  | policy (adapter : String) (iclUa : Nat) (iclRaw : Byte) (qc2Voltage : Option String)
      (pumpEligible : Bool)
  | retry (op : String) (attempt : Nat) (reason : String)
  | reset (ok : Bool)
  | stateChange (source target : String)
  | error (op error : String)
  deriving DecidableEq, Repr

/-- One journal record. -/
structure JournalEvent where
  seq : Nat
  tsMs : Nat
  requestId : Nat
  level : Level
  kind : EventKind
  deriving DecidableEq, Repr

/-! ### The session and its parties -/

/-- Calls to the transport, the clock and the journal. -/
inductive ChargerOp
  | name
  | read (addr : RegAddr)
  | write (addr : RegAddr) (value : Byte)
  | reset
  | nowMs
  | event (record : JournalEvent)
  deriving DecidableEq, Repr

/-- What the core driver needs of its surroundings: the transport, the clock and the journal. -/
def ChargerEffect : Effect where
  Op := ChargerOp
  Resp
    | .name => String
    | .read _ => Except TransportError Byte
    | .write _ _ => Except TransportError Unit
    | .reset => Except TransportError Unit
    | .nowMs => Nat
    | .event _ => Unit

/-- The session. -/
structure Charger where
  config : ChargerConfig
  state : State
  adapter : Option AdapterType
  detectStartedMs : Option Nat
  reruns : Nat
  attempts : Nat
  seq : Nat
  requestId : Nat
  stats : Stats
  deriving DecidableEq, Repr

/-- Programs of the core driver. -/
abbrev ChargerM : Type → Type := Proc ChargerEffect ChargerError Charger

/-- Result of one detection step. -/
inductive Detection
  /-- Detection is still running. -/
  | pending (elapsedMs attempts : Nat)
  | ready (adapter : AdapterType)
  deriving DecidableEq, Repr

/-- Result of polling the state after detection. -/
inductive Monitor
  | unchanged (adapter : AdapterType)
  /-- Adapter replaced or re-identified: the policy must be applied again. -/
  | changed (adapter : AdapterType)
  | detached
  deriving DecidableEq, Repr

/-- What the driver applied. -/
structure ChargePlan where
  adapter : AdapterType
  policy : ChargePolicy
  /-- Code written to the current limit register. -/
  iclRaw : Byte
  /-- Applied current, after quantization to the grid. -/
  appliedIclUa : Nat
  deriving DecidableEq, Repr

namespace Charger

/-- The session `open` starts from. -/
def new (config : ChargerConfig) : Charger where
  config := config
  state := .closed
  adapter := none
  detectStartedMs := none
  reruns := 0
  attempts := 0
  seq := 0
  requestId := 0
  stats := ⟨0, 0, 0, 0, 0, 0⟩

/-! ### Bookkeeping -/

/-- Changes the counters. -/
def count (f : Stats → Stats) : ChargerM Unit :=
  Proc.modify fun charger => { charger with stats := f charger.stats }

/-- The clock. -/
def nowMs : ChargerM Nat :=
  Proc.perform (E := ChargerEffect) .nowMs

/-- Writes a journal record under the next sequence number. -/
def log (requestId : Nat) (level : Level) (kind : EventKind) : ChargerM Unit := do
  Proc.modify fun charger => { charger with seq := satAdd 64 charger.seq 1 }
  let charger ← Proc.get
  let tsMs ← nowMs
  Proc.perform (E := ChargerEffect) (.event { seq := charger.seq, tsMs, requestId, level, kind })

/-- Moves the session to a state, with a journal record when it was in another one. -/
def transition (target : State) : ChargerM Unit := do
  let charger ← Proc.get
  if charger.state = target then pure ()
  else
    Proc.modify fun charger => { charger with state := target }
    log charger.requestId .debug (.stateChange charger.state.label target.label)

/-- Takes the next request number, up to the end of its counter. -/
def nextRequest : ChargerM Nat := do
  Proc.modify fun charger => { charger with requestId := satAdd 64 charger.requestId 1 }
  let charger ← Proc.get
  pure charger.requestId

/-- Faults the session and returns `err`. -/
def fail {α : Type} (request : Nat) (op : String) (err : ChargerError) : ChargerM α := do
  count Stats.addError
  transition .faulted
  log request .error (.error op err.code)
  Proc.fail err

/-- Runs `x`. Its failure faults the session. -/
def orFail {α : Type} (request : Nat) (op : String) (x : ChargerM α) : ChargerM α := do
  match ← Proc.attempt x with
  | .ok value => pure value
  | .error err => fail request op err

/-! ### Register access -/

/-- Microseconds since `startedMs`. -/
def elapsedUs (startedMs : Nat) : ChargerM Nat := do
  let now ← nowMs
  pure (satMul 64 (now - startedMs) 1000)

/-- Whether a transfer that failed so is worth another attempt. -/
def recoverable (err : TransportError) : Bool :=
  match err.kind with
  | .timeout | .disconnected | .io => true
  | .protocol | .unsupported => false

/-- Resets the link after the failed attempt number `attempt`. -/
def recover (request : Nat) (op : String) (attempt : Nat) (err : TransportError) :
    ChargerM Unit := do
  count Stats.addRetry
  log request .warn (.retry op attempt err.kind.asStr)
  -- the link is reset before the next attempt
  let answer : Except TransportError Unit ← Proc.perform (E := ChargerEffect) .reset
  count Stats.addReset
  log request .debug (.reset answer.isOk)
  match answer with
  | .ok () => pure ()
  | .error _ =>
      -- the reset failed too: the error of the attempt is the one reported
      count Stats.addError
      Proc.fail (.transport err)

/-- Attempts a transfer until it succeeds or its budget is used up. `attempt` counts the
failures so far. -/
def attemptLoop {α β : Type} (request : Nat) (op : String)
    (transfer : ChargerM (Except TransportError α)) (finish : α → ChargerM β) :
    Nat → Nat → ChargerM β
  -- out of fuel, which a configured number of retries never reaches
  | 0, _ => Proc.diverge
  | fuel + 1, attempt => do
      match ← transfer with
      | .ok value => finish value
      | .error err =>
          -- the counter saturates at 255, so a limit of 255 would never be passed
          let attempt := satAdd 8 attempt 1
          let charger ← Proc.get
          if recoverable err = false ∨ charger.config.maxTransportRetries < attempt then
            count Stats.addError
            Proc.fail (.transport err)
          else
            recover request op attempt err
            attemptLoop request op transfer finish fuel attempt

variable [LoopFuel]

/-- Reads a register, with retries and recovery. -/
def readReg (addr : RegAddr) (request : Nat) : ChargerM Byte := do
  let started ← nowMs
  attemptLoop request "read" (Proc.perform (E := ChargerEffect) (.read addr))
    -- only the attempt that succeeds is counted, timed and logged
    (fun (value : Byte) => do
      count Stats.addRead
      let elapsed ← elapsedUs started
      log request .trace (.read addr value elapsed)
      pure value)
    (LoopFuel.fuel + 256) 0

/-- Reads a written register back. -/
def verify (addr : RegAddr) (wrote : Byte) (request : Nat) : ChargerM Unit := do
  let charger ← Proc.get
  if charger.config.verifyWrites = false then pure ()
  else
    let read ← readReg addr request
    -- the whole byte is compared
    if read ≠ wrote then
      let err := ChargerError.verifyFailed addr wrote read
      count Stats.addError
      log request .error (.error "verify" err.code)
      Proc.fail err
    else pure ()

/-- Writes a register, with retries and recovery, and reads it back. -/
def writeReg (addr : RegAddr) (value : Byte) (request : Nat) : ChargerM Unit := do
  let started ← nowMs
  attemptLoop request "write" (Proc.perform (E := ChargerEffect) (.write addr value))
    (fun (_ : Unit) => do
      count Stats.addWrite
      let elapsed ← elapsedUs started
      log request .trace (.write addr value elapsed)
      -- after the log of the write, so that the read back has a record of its own
      verify addr value request)
    (LoopFuel.fuel + 256) 0

/-- Replaces the bits under `mask`. -/
def updateReg (addr : RegAddr) (mask value : Byte) (request : Nat) : ChargerM Unit := do
  let current ← readReg addr request
  writeReg addr (mergeBits current mask value) request

/-- Checks that `APSD_STATUS` can be read. All bits set is an unread link. -/
def probe : ChargerM Unit := do
  let request ← nextRequest
  let status ← readReg apsdStatus request
  if status = 0xFF then Proc.fail (.deviceFault 0xFF) else pure ()

/-! ### Operations -/

/-- Opens a session: resets the link and checks it. -/
def openSession : ChargerM Unit := do
  let request ← nextRequest
  let name : String ← Proc.perform (E := ChargerEffect) .name
  let answer : Except TransportError Unit ← Proc.perform (E := ChargerEffect) .reset
  -- a reset that fails is logged and does not end the opening
  log request (if answer.isOk then .debug else .warn) (.reset answer.isOk)
  match ← Proc.attempt probe with
  | .ok () =>
      transition .idle
      log request .info (.opened name true)
  -- the session stays closed
  | .error err =>
      count Stats.addError
      log request .error (.error "open" err.code)
      log request .info (.opened name false)
      Proc.fail err

/-- Reruns APSD, while there are reruns left. -/
def retryDetection (request : Nat) (reason : String) : ChargerM Unit := do
  let charger ← Proc.get
  if charger.config.maxDetectReruns ≤ charger.reruns then pure ()
  else
    let reruns := satAdd 8 charger.reruns 1
    Proc.modify fun charger => { charger with reruns }
    log request .warn (.retry "detect.rerun" reruns reason)
    orFail request "detect.rerun" (updateReg cmdApsd apsdRerun apsdRerun request)

/-- When the detection that is running started. The first step starts it. -/
def beginDetection (now : Nat) : ChargerM Nat := do
  let charger ← Proc.get
  match charger.detectStartedMs with
  | some started => pure started
  | none =>
      Proc.modify fun charger => { charger with detectStartedMs := some now }
      transition .detecting
      pure now

/-- The result register, once detection is complete. -/
def readResult (status : Byte) (request : Nat) : ChargerM Byte :=
  if status &&& apsdDtcStatusDone ≠ 0 then
    orFail request "detect.read_result" (readReg apsdResultStatus request)
  else pure 0

/-- What a detection step makes of the two registers. -/
def concludeDetection (request : Nat) (status result : Byte) (elapsedMs : Nat) :
    ChargerM Detection := do
  let charger ← Proc.get
  match AdapterType.decode status result charger.config.qc35 with
  | .ok adapter =>
      count Stats.addDetection
      Proc.modify fun charger => { charger with adapter := some adapter }
      transition .ready
      log request .info (.detect adapter.label status result elapsedMs)
      pure (.ready adapter)
  -- the status is not done yet: wait until the time limit, then rerun or give up
  | .error .detectionNotComplete =>
      if charger.config.detectTimeoutMs ≤ elapsedMs then
        if charger.config.maxDetectReruns ≤ charger.reruns then
          fail request "detect.timeout" (.detectionTimeout elapsedMs)
        else
          retryDetection request "timeout"
          pure (.pending elapsedMs charger.attempts)
      else pure (.pending elapsedMs charger.attempts)
  -- done, but no adapter bit is set: rerun at once, or give up
  | .error (.adapterCheckTimeout rawStatus) =>
      if charger.config.maxDetectReruns ≤ charger.reruns then
        fail request "detect.unstable" (.adapterCheckTimeout rawStatus)
      else
        retryDetection request "adapter_check_timeout"
        pure (.pending elapsedMs charger.attempts)
  -- more than one bit, or an unknown one: no rerun
  | .error err => fail request "detect.decode" err

/-- One adapter detection step. -/
def detectStep : ChargerM Detection := do
  let charger ← Proc.get
  if charger.state = .closed then Proc.fail .notOpen
  else
    let request ← nextRequest
    let now ← nowMs
    let started ← beginDetection now
    let status ← orFail request "detect.read_status" (readReg apsdStatus request)
    -- the result is read only once the status is done
    let result ← readResult status request
    Proc.modify fun charger => { charger with attempts := satAdd 8 charger.attempts 1 }
    concludeDetection request status result (now - started)

/-- Writes the limit code, the override bits and, for Quick Charge, the voltage. -/
def applyRegisters (request : Nat) (policy : ChargePolicy) (iclRaw : Byte) : ChargerM Unit := do
  orFail request "apply.write_icl" (writeReg usbinCurrentLimitCfg iclRaw request)
  -- the override comes before the voltage is raised
  let overrideBits := iclOverride ||| iclOverrideAfterApsd
  orFail request "apply.write_override"
    (updateReg cmdIclOverride overrideBits overrideBits request)
  -- only a Quick Charge policy asks for a voltage
  match policy.qc2Voltage with
  | some voltage =>
      orFail request "apply.write_qc2"
        (updateReg hvdcpPulseCountMax qc2VoltageMask voltage.raw request)
  | none => pure ()

/-- Computes and applies the input current policy for the identified adapter. -/
def apply (adapter : AdapterType) : ChargerM ChargePlan := do
  let charger ← Proc.get
  if charger.state = .closed then Proc.fail .notOpen
  else
    let request ← nextRequest
    let policy := policyFor adapter charger.config.qc35
    -- the configured maximum caps the limit of the policy
    let bounded :=
      if charger.config.maxIclUa < policy.iclUa then charger.config.maxIclUa else policy.iclUa
    let targetUa := charger.config.icl.quantizeDown bounded
    let iclRaw ← orFail request "apply.encode_icl"
      (Proc.ofExcept (charger.config.icl.encode targetUa))
    applyRegisters request policy iclRaw
    -- the adapter is recorded after the last register write
    Proc.modify fun charger => { charger with adapter := some adapter }
    transition .ready
    log request .info
      (.policy adapter.label targetUa iclRaw (policy.qc2Voltage.map Qc2Voltage.label)
        policy.pumpEligible)
    pure { adapter, policy, iclRaw, appliedIclUa := targetUa }

/-- Records the adapter a poll identified, and says whether it is another one. -/
def compareAdapter (request : Nat) (status result : Byte) (adapter : AdapterType) :
    ChargerM Monitor := do
  let charger ← Proc.get
  Proc.modify fun charger => { charger with adapter := some adapter }
  if charger.adapter = some adapter then pure (.unchanged adapter)
  else
    log request .warn (.detect adapter.label status result 0)
    pure (.changed adapter)

/-- The adapter is gone. -/
def detach : ChargerM Monitor := do
  Proc.modify fun charger => { charger with adapter := none }
  pure .detached

/-- Polls the state: whether the adapter changed and whether power was lost. -/
def monitor : ChargerM Monitor := do
  let charger ← Proc.get
  if charger.state = .closed then Proc.fail .notOpen
  else
    let request ← nextRequest
    let status ← orFail request "monitor.read_status" (readReg apsdStatus request)
    -- the port has no adapter any more
    if status &&& apsdDtcStatusDone = 0 then detach
    else
      let result ← orFail request "monitor.read_result" (readReg apsdResultStatus request)
      match AdapterType.decode status result charger.config.qc35 with
      | .ok adapter => compareAdapter request status result adapter
      -- not reached: the status was done
      | .error .detectionNotComplete => detach
      | .error err => fail request "monitor.decode" err

/-- Reopens the link after a failure and resets the detection state. -/
def reinit : ChargerM Unit := do
  let charger ← Proc.get
  if charger.state = .closed then Proc.fail .notOpen
  else
    let request ← nextRequest
    let answer : Except TransportError Unit ← Proc.perform (E := ChargerEffect) .reset
    count Stats.addReset
    log request .info (.reset answer.isOk)
    match answer with
    -- the link stays down, and the charger is faulted
    | .error _ =>
        fail request "reinit.reset" (.transport (.disconnected "link not recovered"))
    | .ok () =>
        Proc.modify fun charger =>
          { charger with detectStartedMs := none, reruns := 0, attempts := 0, adapter := none }
        transition .idle
        -- idle already, whatever the probe finds
        probe

/-- Closes the session, restoring the safe current limit. -/
def close : ChargerM Unit := do
  let charger ← Proc.get
  if charger.state = .closed then pure ()
  else
    let request ← nextRequest
    let safe := charger.config.icl.quantizeDown charger.config.safeIclUa
    -- the safe limit goes out if the link lets it; the session closes in any case
    let written : Except ChargerError Unit ← Proc.attempt (do
      let raw ← Proc.ofExcept (charger.config.icl.encode safe)
      writeReg usbinCurrentLimitCfg raw request)
    transition .closed
    log request .info (.close written.isOk)

end Charger

/-- An operation on an open session, with its arguments. -/
inductive Call
  | detectStep
  | apply (adapter : AdapterType)
  | monitor
  | reinit
  | close
  deriving DecidableEq, Repr

/-- What an operation returns. -/
inductive Answer
  | detection (detection : Detection)
  | plan (plan : ChargePlan)
  | monitor (monitor : Monitor)
  | done
  deriving DecidableEq, Repr

/-- The program of a call. -/
def Call.run [LoopFuel] : Call → ChargerM Answer
  | .detectStep => do
      let detection ← Charger.detectStep
      pure (.detection detection)
  | .apply adapter => do
      let plan ← Charger.apply adapter
      pure (.plan plan)
  | .monitor => do
      let monitor ← Charger.monitor
      pure (.monitor monitor)
  | .reinit => do
      Charger.reinit
      pure .done
  | .close => do
      Charger.close
      pure .done

end ChargerCore
