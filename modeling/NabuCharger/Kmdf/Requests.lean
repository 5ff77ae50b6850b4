import NabuCharger.Kmdf.Handlers
import NabuCharger.Kmdf.Ioctl
import NabuCharger.Kmdf.Samples
import NabuCharger.Wdf.Buffered

/-!
# `Kmdf.Requests`: control requests, from buffer to buffer

`evtIoDeviceControl` takes a control code and the length of the input, finds the handler, and the
handler completes the request. What the handlers of `Kmdf.Handlers` do for the decoded fields is
here wrapped in what they do with the buffers: a structure is read, the driver acts, and the same
structure goes back with the answer filled in. A field that the handler has nothing to say about
goes back as the client sent it, `errorCode` included: it is written on a failure only, except by
`SET_CHARGE` and `RUN_HVDCP`.
-/

set_option autoImplicit false

namespace Kmdf

open Effectful Ln8000 Wdf Ioctl

/-- Programs of a handler. -/
abbrev RequestM (α : Type) : Type := IoM DevEffect DriverState α

/-- `STATUS_INVALID_PARAMETER`. -/
def statusInvalidParameter : Int := -1073741811

/-- `STATUS_INVALID_DEVICE_REQUEST`. -/
def statusInvalidDeviceRequest : Int := -1073741808

/-- Runs a program of the driver. -/
def device {α : Type} (x : DriverM α) : RequestM α := x.inl

/-! ### Buffers -/

section
variable {α : Type}

/-- The input as a structure, `none` if it was not retrieved or is too short. -/
def inputOf (L : Layout α) (answer : Int × Option (List Byte)) : Option α :=
  if ntOk answer.1 = false then none
  else
    match answer.2 with
    | none => none
    | some bytes =>
        if bytes.length < L.size then none else some (L.decode (bytes.take L.size))

/-- Copies the input into a structure. -/
def readInput (L : Layout α) : RequestM (Option α) := do
  let answer : Int × Option (List Byte) ← request (.retrieveInput L.size)
  pure (inputOf L answer)

/-- The length of the output buffer, or the status with which it cannot be retrieved. -/
def outputBuffer (minLength : Nat) : RequestM (Except Int Nat) := do
  let answer : Int × Nat ← request (.retrieveOutput minLength)
  if ntOk answer.1 = false then pure (.error answer.1) else pure (.ok answer.2)

/-- Stores a structure in the output buffer and completes the request. -/
def writeOutput (L : Layout α) (value : α) : RequestM Unit := do
  match ← outputBuffer L.size with
  | .error status => complete status 0
  | .ok _ =>
      store 0 (L.encode value)
      complete 0 L.size

/-- What the handlers with an input start with. -/
def withInput (inputLength : Nat) (L : Layout α) (body : α → RequestM Unit) : RequestM Unit := do
  if inputLength < L.size then complete statusBufferTooSmall 0
  else
    match ← readInput L with
    | none => complete statusInvalidParameter 0
    | some value => body value

end

/-! ### Answers -/

/-- An error code as it goes back: a zero leaves what the client sent. -/
def echoError (sent : BitVec 32) (errorCode : Int) : BitVec 32 :=
  if errorCode = 0 then sent else BitVec.ofInt 32 errorCode

/-- A flag as a byte. -/
def flagByte (flag : Bool) : Byte := if flag then 1 else 0

/-- `GET_STATUS`. -/
def StatusAnswer.cells (answer : StatusAnswer) : Ln8000Status where
  magic := ln8000StatusMagic
  version := ln8000StatusVersion
  opMode := answer.opMode
  state := BitVec.ofNat 8 answer.state
  sysSts := answer.sysSts
  fault1Sts := answer.fault1Sts
  fault2Sts := answer.fault2Sts
  safetySts := answer.safetySts
  criticalFault := flagByte answer.criticalFault
  reserved := 0
  iinUa := BitVec.ofNat 32 answer.iinUa
  vbatUv := BitVec.ofNat 32 answer.vbatUv
  vbusUv := BitVec.ofNat 32 answer.vbusUv
  dieTempDc := BitVec.ofInt 32 answer.dieTempDc
  sessions := BitVec.ofNat 64 answer.sessions
  samples := BitVec.ofNat 64 answer.samples
  writes := BitVec.ofNat 32 answer.writes
  reads := BitVec.ofNat 32 answer.reads
  lastError := BitVec.ofInt 32 answer.lastError

namespace Ioctl

/-- `READ_REG`: the value of a read that succeeded. -/
def Ln8000RegRequest.read (req : Ln8000RegRequest) (answer : RegAnswer) : Ln8000RegRequest :=
  { req with
    value := if answer.errorCode = 0 then answer.value else req.value
    errorCode := echoError req.errorCode answer.errorCode }

/-- `WRITE_REG`. -/
def Ln8000RegRequest.written (req : Ln8000RegRequest) (answer : RegAnswer) : Ln8000RegRequest :=
  { req with errorCode := echoError req.errorCode answer.errorCode }

/-- `SET_LIMITS`: a current that was applied is never zero. -/
def Ln8000LimitsRequest.applied (req : Ln8000LimitsRequest) (answer : LimitsAnswer) :
    Ln8000LimitsRequest :=
  { req with
    appliedIinUa :=
      if answer.appliedIinUa = 0 then req.appliedIinUa else BitVec.ofNat 32 answer.appliedIinUa
    errorCode := echoError req.errorCode answer.errorCode }

/-- `SET_MODE`. -/
def Ln8000ModeRequest.applied (req : Ln8000ModeRequest) (answer : ModeAnswer) :
    Ln8000ModeRequest :=
  { req with
    appliedMode := if answer.errorCode = 0 then answer.appliedMode else req.appliedMode
    errorCode := echoError req.errorCode answer.errorCode }

/-- `SET_CHARGE`: a success clears the error code. -/
def Ln8000ChargeRequest.applied (req : Ln8000ChargeRequest) (answer : ModeAnswer) :
    Ln8000ChargeRequest :=
  { req with
    appliedMode := if answer.errorCode = 0 then answer.appliedMode else req.appliedMode
    sysSts := if answer.errorCode = 0 then answer.sysSts else req.sysSts
    errorCode := BitVec.ofInt 32 answer.errorCode }

end Ioctl

/-- `RUN_HVDCP`: nothing of the request but its command. -/
def HvdcpAnswer.cells (answer : HvdcpAnswer) (command : Byte) : Ln8000HvdcpRequest where
  command := command
  apsdStatus := answer.apsdStatus
  apsdResult := answer.apsdResult
  pulseCnt := BitVec.ofNat 8 answer.pulseCnt
  phase := BitVec.ofNat 32 answer.phase
  targetVbusUv := BitVec.ofNat 32 answer.targetVbusUv
  estimatedVbusUv := BitVec.ofNat 32 answer.estimatedVbusUv
  errorCode := BitVec.ofInt 32 answer.errorCode

/-- Duration of a session, of a running one up to now. -/
def sessionMs (session : ChargeSession) (nowMs : Nat) : Nat :=
  session.endedMs.getD nowMs - session.startedMs

/-- `GET_SESSIONS`. -/
def sessionsOf (store : Telemetry) (nowMs : Nat) : Ln8000Sessions where
  total := BitVec.ofNat 64 store.sessionTotal
  currentMs := BitVec.ofNat 64 ((store.current.map fun s => sessionMs s nowMs).getD 0)
  currentPeakIinUa := BitVec.ofNat 32 ((store.current.map ChargeSession.peakIinUa).getD 0)
  currentFast := flagByte ((store.current.map ChargeSession.sawSwitching).getD false)
  reserved := 0
  lastMs := BitVec.ofNat 64 ((store.lastCompleted.map fun s => sessionMs s nowMs).getD 0)
  lastPeakIinUa := BitVec.ofNat 32 ((store.lastCompleted.map ChargeSession.peakIinUa).getD 0)
  lastPeakTempDc := BitVec.ofInt 32 ((store.lastCompleted.map ChargeSession.peakDieTempDc).getD 0)
  lastFast := flagByte ((store.lastCompleted.map ChargeSession.sawSwitching).getD false)
  reserved2 := 0

/-- One sample of `GET_SAMPLES`. -/
def Ln8000Sample.cells (sample : Ln8000Sample) : Ioctl.Ln8000Sample where
  tsMs := BitVec.ofNat 64 sample.tsMs
  vbatUv := BitVec.ofNat 32 sample.vbatUv
  vbusUv := BitVec.ofNat 32 sample.vbusUv
  iinUa := BitVec.ofNat 32 sample.iinUa
  dieTempDc := BitVec.ofInt 32 sample.dieTempDc
  opMode := sample.opMode
  inputPresent := flagByte sample.inputPresent
  reserved := 0

/-- The header of `GET_SAMPLES`. -/
def SamplesAnswer.header (answer : SamplesAnswer) : Ln8000SamplesRequest where
  count := BitVec.ofNat 32 answer.count
  available := BitVec.ofNat 32 answer.available
  first := answer.first.cells

/-! ### Handlers -/

/-- Stores the samples behind the header, from number `written` on. -/
def storeSamples : List Ln8000Sample → Nat → RequestM Unit
  | [], _ => pure ()
  | sample :: rest, written => do
      store (samplesHeaderSize + written * sampleSize) (sampleLayout.encode sample.cells)
      storeSamples rest (written + 1)

/-- The samples that were chosen, then the header. -/
def completeSamples : Except Int SamplesAnswer → RequestM Unit
  | .error status => complete status 0
  | .ok answer => do
      storeSamples answer.samples 0
      store 0 (samplesRequestLayout.encode answer.header)
      complete 0 answer.information

/-- `GET_SAMPLES`. -/
def requestGetSamples (inputLength : Nat) : RequestM Unit := do
  if inputLength < samplesHeaderSize then complete statusBufferTooSmall 0
  else
    let requested ← readInput samplesRequestLayout
    let s : DriverState ← Proc.get
    let output ← outputBuffer samplesHeaderSize
    completeSamples (handleGetSamples s.telemetry inputLength
      (requested.map fun req => req.count.toNat) output)

/-- `GET_SESSIONS`. -/
def handleGetSessions : DriverM Ln8000Sessions := do
  let s ← Proc.get
  let now ← monotonicMs
  pure (sessionsOf s.telemetry now)

/-- `GET_SESSIONS`. -/
def requestGetSessions : RequestM Unit := do
  let answer ← device handleGetSessions
  writeOutput sessionsLayout answer

section
variable [LoopFuel]

/-- `GET_STATUS`. -/
def requestGetStatus : RequestM Unit := do
  let answer ← device handleGetStatus
  writeOutput statusLayout answer.cells

/-- `READ_REG`. -/
def requestReadReg (inputLength : Nat) : RequestM Unit :=
  withInput inputLength regRequestLayout fun req => do
    let answer ← device (handleReadReg req.addr)
    writeOutput regRequestLayout (req.read answer)

/-- `WRITE_REG`. -/
def requestWriteReg (inputLength : Nat) : RequestM Unit :=
  withInput inputLength regRequestLayout fun req => do
    let answer ← device (handleWriteReg req.addr req.value)
    writeOutput regRequestLayout (req.written answer)

/-- `SET_LIMITS`. -/
def requestSetLimits (inputLength : Nat) : RequestM Unit :=
  withInput inputLength limitsRequestLayout fun req => do
    let answer ← device (handleSetLimits req.iinUa.toNat req.vbatUv.toNat)
    writeOutput limitsRequestLayout (req.applied answer)

/-- `SET_MODE`. A mode that does not exist is not taken to the pump. -/
def requestSetMode (inputLength : Nat) : RequestM Unit :=
  withInput inputLength modeRequestLayout fun req => do
    match ← device (handleSetMode req.mode.toNat) with
    | none => complete statusInvalidParameter 0
    | some answer => writeOutput modeRequestLayout (req.applied answer)

/-- `SET_CHARGE`. -/
def requestSetCharge (inputLength : Nat) : RequestM Unit :=
  withInput inputLength chargeRequestLayout fun req => do
    getIoQueue
    let answer ← device (handleSetCharge (decide (req.on ≠ 0)))
    writeOutput chargeRequestLayout (req.applied answer)

/-- `RUN_HVDCP` with its command. -/
def requestHvdcpCommand (command : Byte) : RequestM Unit := do
  getIoQueue
  let answer ← device (handleRunHvdcp command.toNat)
  writeOutput hvdcpRequestLayout (answer.cells command)

/-- `RUN_HVDCP`. Without an input it negotiates; an input that cannot be retrieved asks for
nothing. -/
def requestRunHvdcp (inputLength : Nat) : RequestM Unit := do
  if hvdcpRequestLayout.size ≤ inputLength then
    let req ← readInput hvdcpRequestLayout
    requestHvdcpCommand ((req.map Ln8000HvdcpRequest.command).getD 0)
  else if 0 < inputLength then complete statusBufferTooSmall 0
  else requestHvdcpCommand 1

/-- `evt_io_device_control`. -/
def evtIoDeviceControl (inputLength ioControlCode : Nat) : RequestM Unit :=
  if ioControlCode = ioctlGetStatus then requestGetStatus
  else if ioControlCode = ioctlReadReg then requestReadReg inputLength
  else if ioControlCode = ioctlWriteReg then requestWriteReg inputLength
  else if ioControlCode = ioctlSetLimits then requestSetLimits inputLength
  else if ioControlCode = ioctlSetMode then requestSetMode inputLength
  else if ioControlCode = ioctlSetCharge then requestSetCharge inputLength
  else if ioControlCode = ioctlRunHvdcp then requestRunHvdcp inputLength
  else if ioControlCode = ioctlGetSessions then requestGetSessions
  else if ioControlCode = ioctlGetSamples then requestGetSamples inputLength
  else complete statusInvalidDeviceRequest 0

/-! ### The driver with its requests -/

/-- The entry points of the driver, with the requests as the client sent them. -/
inductive EntryPoint
  | tick
  | deviceAdd
  | prepare (key : Option Registry) (usbinId : Option Nat)
  | release
  /-- A control request: its code, its input and the length of its output buffer. -/
  | control (code : Nat) (input : List Byte) (room : Nat)

/-- The program of an entry point. -/
def EntryPoint.run : EntryPoint → RequestM Unit
  | .tick => device DriverOp.tick.run
  | .deviceAdd => device DriverOp.deviceAdd.run
  | .prepare key usbinId => device (DriverOp.prepare key usbinId).run
  | .release => device DriverOp.release.run
  | .control code input _ => evtIoDeviceControl input.length code

end

end Kmdf
