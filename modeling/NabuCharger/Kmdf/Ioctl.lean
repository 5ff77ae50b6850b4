import NabuCharger.Logic.Layout

/-!
# `Kmdf.Ioctl`: the contract with user mode

The control codes, and the structures of the requests as they lie in the buffers. All requests are
buffered. The fields are in the order of the declaration, each at a multiple of its size, so
between and behind them there may be padding (`Layout.padding`).
-/

set_option autoImplicit false

namespace Kmdf.Ioctl

open Effectful

/-! ### Control codes -/

/-- Device type of the driver. -/
def fileDeviceLn8000 : Nat := 0x22

/-- A control code, by the rules of `CTL_CODE`. -/
def ctlCode (function method access : Nat) : Nat :=
  (fileDeviceLn8000 <<< 16) ||| (access <<< 14) ||| (function <<< 2) ||| method

/-- Asks for the status. -/
def ioctlGetStatus : Nat := ctlCode 0x810 0 0
/-- Reads a register of the pump. -/
def ioctlReadReg : Nat := ctlCode 0x811 0 0
/-- Writes a register of the pump. -/
def ioctlWriteReg : Nat := ctlCode 0x812 0 0
/-- Sets the input current and the float voltage. -/
def ioctlSetLimits : Nat := ctlCode 0x813 0 0
/-- Requests a mode. -/
def ioctlSetMode : Nat := ctlCode 0x814 0 0
/-- Asks for the charge sessions. -/
def ioctlGetSessions : Nat := ctlCode 0x815 0 0
/-- Asks for stored samples. -/
def ioctlGetSamples : Nat := ctlCode 0x816 0 0
/-- Starts or stops a charge. -/
def ioctlSetCharge : Nat := ctlCode 0x817 0 0
/-- Runs a negotiation. -/
def ioctlRunHvdcp : Nat := ctlCode 0x818 0 0

/-- `"LN80"`. -/
def ln8000StatusMagic : BitVec 32 := 0x4C4E3830

/-- Contract version. -/
def ln8000StatusVersion : BitVec 16 := 1

/-! ### Structures -/

/-- Answer of `GET_STATUS`. -/
structure Ln8000Status where
  magic : BitVec 32
  version : BitVec 16
  opMode : Byte
  state : Byte
  sysSts : Byte
  fault1Sts : Byte
  fault2Sts : Byte
  safetySts : Byte
  criticalFault : Byte
  reserved : BitVec 16
  iinUa : BitVec 32
  vbatUv : BitVec 32
  vbusUv : BitVec 32
  dieTempDc : BitVec 32
  sessions : BitVec 64
  samples : BitVec 64
  writes : BitVec 32
  reads : BitVec 32
  lastError : BitVec 32
  deriving DecidableEq, Repr

/-- Request of `READ_REG` and `WRITE_REG`. -/
structure Ln8000RegRequest where
  addr : Byte
  /-- Input of a write, output of a read. -/
  value : Byte
  reserved : BitVec 16
  errorCode : BitVec 32
  deriving DecidableEq, Repr

/-- Request of `SET_LIMITS`. A zero leaves its half alone. -/
structure Ln8000LimitsRequest where
  iinUa : BitVec 32
  vbatUv : BitVec 32
  appliedIinUa : BitVec 32
  errorCode : BitVec 32
  deriving DecidableEq, Repr

/-- Request of `SET_MODE`. -/
structure Ln8000ModeRequest where
  mode : Byte
  appliedMode : Byte
  reserved : BitVec 16
  errorCode : BitVec 32
  deriving DecidableEq, Repr

/-- Request of `SET_CHARGE`. -/
structure Ln8000ChargeRequest where
  on : Byte
  appliedMode : Byte
  sysSts : Byte
  reserved : Byte
  errorCode : BitVec 32
  deriving DecidableEq, Repr

/-- Answer of `GET_SESSIONS`. -/
structure Ln8000Sessions where
  total : BitVec 64
  currentMs : BitVec 64
  currentPeakIinUa : BitVec 32
  currentFast : Byte
  reserved : BitVec 24
  lastMs : BitVec 64
  lastPeakIinUa : BitVec 32
  lastPeakTempDc : BitVec 32
  lastFast : Byte
  reserved2 : BitVec 24
  deriving DecidableEq, Repr

/-- One sample in the buffer of `GET_SAMPLES`. -/
structure Ln8000Sample where
  tsMs : BitVec 64
  vbatUv : BitVec 32
  vbusUv : BitVec 32
  iinUa : BitVec 32
  dieTempDc : BitVec 32
  opMode : Byte
  inputPresent : Byte
  reserved : BitVec 16
  deriving DecidableEq, Repr

/-- Request of `GET_SAMPLES`, and the header of its answer. -/
structure Ln8000SamplesRequest where
  count : BitVec 32
  available : BitVec 32
  /-- The other samples follow it. -/
  first : Ln8000Sample
  deriving DecidableEq, Repr

/-- Request of `RUN_HVDCP`. -/
structure Ln8000HvdcpRequest where
  command : Byte
  apsdStatus : Byte
  apsdResult : Byte
  pulseCnt : Byte
  phase : BitVec 32
  targetVbusUv : BitVec 32
  estimatedVbusUv : BitVec 32
  errorCode : BitVec 32
  deriving DecidableEq, Repr

/-! ### Layouts -/

/-- A byte. -/
def u8 : Layout Byte := Layout.word 1
/-- Two bytes, the least significant first. -/
def u16 : Layout (BitVec 16) := Layout.word 2
/-- Three bytes, the least significant first. -/
def u24 : Layout (BitVec 24) := Layout.word 3
/-- Four bytes, the least significant first. -/
def u32 : Layout (BitVec 32) := Layout.word 4
/-- Eight bytes, the least significant first. -/
def u64 : Layout (BitVec 64) := Layout.word 8

/-- The status in memory, with the padding of the compiler. -/
def statusLayout : Layout Ln8000Status :=
  (u32.pair <| u16.pair <| u8.pair <| u8.pair <| u8.pair <| u8.pair <| u8.pair <| u8.pair <|
    u8.pair <| u16.pair <| (Layout.padding 1).pair <| u32.pair <| u32.pair <| u32.pair <|
    u32.pair <| u64.pair <| u64.pair <| u32.pair <| u32.pair <| u32.pair (Layout.padding 4)).map
    { toFun := fun (magic, version, opMode, state, sysSts, fault1Sts, fault2Sts, safetySts,
          criticalFault, reserved, _, iinUa, vbatUv, vbusUv, dieTempDc, sessions, samples,
          writes, reads, lastError, _) =>
        { magic, version, opMode, state, sysSts, fault1Sts, fault2Sts, safetySts,
          criticalFault, reserved, iinUa, vbatUv, vbusUv, dieTempDc, sessions, samples,
          writes, reads, lastError }
      invFun := fun s => (s.magic, s.version, s.opMode, s.state, s.sysSts, s.fault1Sts,
        s.fault2Sts, s.safetySts, s.criticalFault, s.reserved, (), s.iinUa, s.vbatUv, s.vbusUv,
        s.dieTempDc, s.sessions, s.samples, s.writes, s.reads, s.lastError, ())
      left_inv := fun _ => rfl
      right_inv := fun _ => rfl }

/-- A register request in memory. -/
def regRequestLayout : Layout Ln8000RegRequest :=
  (u8.pair <| u8.pair <| u16.pair u32).map
    { toFun := fun (addr, value, reserved, errorCode) => { addr, value, reserved, errorCode }
      invFun := fun r => (r.addr, r.value, r.reserved, r.errorCode)
      left_inv := fun _ => rfl
      right_inv := fun _ => rfl }

/-- A limits request in memory. -/
def limitsRequestLayout : Layout Ln8000LimitsRequest :=
  (u32.pair <| u32.pair <| u32.pair u32).map
    { toFun := fun (iinUa, vbatUv, appliedIinUa, errorCode) =>
        { iinUa, vbatUv, appliedIinUa, errorCode }
      invFun := fun r => (r.iinUa, r.vbatUv, r.appliedIinUa, r.errorCode)
      left_inv := fun _ => rfl
      right_inv := fun _ => rfl }

/-- A mode request in memory. -/
def modeRequestLayout : Layout Ln8000ModeRequest :=
  (u8.pair <| u8.pair <| u16.pair u32).map
    { toFun := fun (mode, appliedMode, reserved, errorCode) =>
        { mode, appliedMode, reserved, errorCode }
      invFun := fun r => (r.mode, r.appliedMode, r.reserved, r.errorCode)
      left_inv := fun _ => rfl
      right_inv := fun _ => rfl }

/-- A charge request in memory. -/
def chargeRequestLayout : Layout Ln8000ChargeRequest :=
  (u8.pair <| u8.pair <| u8.pair <| u8.pair u32).map
    { toFun := fun (on, appliedMode, sysSts, reserved, errorCode) =>
        { on, appliedMode, sysSts, reserved, errorCode }
      invFun := fun r => (r.on, r.appliedMode, r.sysSts, r.reserved, r.errorCode)
      left_inv := fun _ => rfl
      right_inv := fun _ => rfl }

/-- The sessions in memory, with the padding of the compiler. -/
def sessionsLayout : Layout Ln8000Sessions :=
  (u64.pair <| u64.pair <| u32.pair <| u8.pair <| u24.pair <| u64.pair <| u32.pair <|
    u32.pair <| u8.pair <| u24.pair (Layout.padding 4)).map
    { toFun := fun (total, currentMs, currentPeakIinUa, currentFast, reserved, lastMs,
          lastPeakIinUa, lastPeakTempDc, lastFast, reserved2, _) =>
        { total, currentMs, currentPeakIinUa, currentFast, reserved, lastMs, lastPeakIinUa,
          lastPeakTempDc, lastFast, reserved2 }
      invFun := fun s => (s.total, s.currentMs, s.currentPeakIinUa, s.currentFast, s.reserved,
        s.lastMs, s.lastPeakIinUa, s.lastPeakTempDc, s.lastFast, s.reserved2, ())
      left_inv := fun _ => rfl
      right_inv := fun _ => rfl }

/-- A sample in memory, with the padding of the compiler. -/
def sampleLayout : Layout Ln8000Sample :=
  (u64.pair <| u32.pair <| u32.pair <| u32.pair <| u32.pair <| u8.pair <| u8.pair <|
    u16.pair (Layout.padding 4)).map
    { toFun := fun (tsMs, vbatUv, vbusUv, iinUa, dieTempDc, opMode, inputPresent, reserved, _) =>
        { tsMs, vbatUv, vbusUv, iinUa, dieTempDc, opMode, inputPresent, reserved }
      invFun := fun s => (s.tsMs, s.vbatUv, s.vbusUv, s.iinUa, s.dieTempDc, s.opMode,
        s.inputPresent, s.reserved, ())
      left_inv := fun _ => rfl
      right_inv := fun _ => rfl }

/-- The header of the samples, and the first of them. -/
def samplesRequestLayout : Layout Ln8000SamplesRequest :=
  (u32.pair <| u32.pair sampleLayout).map
    { toFun := fun (count, available, first) => { count, available, first }
      invFun := fun r => (r.count, r.available, r.first)
      left_inv := fun _ => rfl
      right_inv := fun _ => rfl }

/-- A negotiation request in memory. -/
def hvdcpRequestLayout : Layout Ln8000HvdcpRequest :=
  (u8.pair <| u8.pair <| u8.pair <| u8.pair <| u32.pair <| u32.pair <| u32.pair u32).map
    { toFun := fun (command, apsdStatus, apsdResult, pulseCnt, phase, targetVbusUv,
          estimatedVbusUv, errorCode) =>
        { command, apsdStatus, apsdResult, pulseCnt, phase, targetVbusUv, estimatedVbusUv,
          errorCode }
      invFun := fun r => (r.command, r.apsdStatus, r.apsdResult, r.pulseCnt, r.phase,
        r.targetVbusUv, r.estimatedVbusUv, r.errorCode)
      left_inv := fun _ => rfl
      right_inv := fun _ => rfl }

example : (statusLayout.size, sessionsLayout.size, samplesRequestLayout.size, sampleLayout.size) =
    (64, 48, 40, 32) := rfl

end Kmdf.Ioctl
