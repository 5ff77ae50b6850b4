import NabuCharger.Kmdf.Requests

/-!
# `Kmdf.Client`: the diagnostics client

`nabu-ln8000.ps1` sends a control code and a buffer, gets an array of bytes back, and reads a
structure of its own out of it. Its structures repeat those of the driver field by field, with the
padding of the status as one more reserved byte. `read` looks at the error code of the answer,
`write` does not.
-/

set_option autoImplicit false

namespace Kmdf.Client

open Effectful Wdf Ioctl

/-- Commands of the client that talk to the driver. -/
inductive Command
  | status
  | sessions
  | read (address : Byte)
  | write (address value : Byte)
  deriving DecidableEq, Repr

/-- `Get-CtlCode`. -/
def getCtlCode (function : Nat) : Nat := (0x22 <<< 16) ||| (0 <<< 14) ||| (function <<< 2) ||| 0

namespace Command

/-- Control code of a command. -/
def code : Command → Nat
  | .status => getCtlCode 0x810
  | .sessions => getCtlCode 0x815
  | .read _ => getCtlCode 0x811
  | .write _ _ => getCtlCode 0x812

/-- Input of a command. -/
def buffer : Command → List Byte
  | .status => []
  | .sessions => []
  | .read address => [address, 0, 0, 0, 0, 0, 0, 0]
  | .write address value => [address, value, 0, 0, 0, 0, 0, 0]

/-- Length of the output buffer that the client provides. -/
def outputSize : Command → Nat
  | .status => 64
  | .sessions => 48
  | .read _ => 8
  | .write _ _ => 8

/-- The request as it arrives at the driver. -/
def request (command : Command) : EntryPoint :=
  .control command.code command.buffer command.outputSize

end Command

/-! ### Structures -/

/-- `Ln8000Status` of the client. -/
structure ClientStatus where
  status : Ln8000Status
  /-- Third reserved byte. -/
  reserved2 : Byte

/-- Three reserved bytes, and everything else as in the driver. -/
def statusLayout : Layout ClientStatus :=
  (u32.pair <| u16.pair <| u8.pair <| u8.pair <| u8.pair <| u8.pair <| u8.pair <| u8.pair <|
    u8.pair <| u16.pair <| u8.pair <| u32.pair <| u32.pair <| u32.pair <|
    u32.pair <| u64.pair <| u64.pair <| u32.pair <| u32.pair <| u32.pair (Layout.padding 4)).map
    { toFun := fun (magic, version, opMode, state, sysSts, fault1Sts, fault2Sts, safetySts,
          criticalFault, reserved, reserved2, iinUa, vbatUv, vbusUv, dieTempDc, sessions, samples,
          writes, reads, lastError, _) =>
        { status :=
            { magic, version, opMode, state, sysSts, fault1Sts, fault2Sts, safetySts,
              criticalFault, reserved, iinUa, vbatUv, vbusUv, dieTempDc, sessions, samples,
              writes, reads, lastError }
          reserved2 }
      invFun := fun c => (c.status.magic, c.status.version, c.status.opMode, c.status.state,
        c.status.sysSts, c.status.fault1Sts, c.status.fault2Sts, c.status.safetySts,
        c.status.criticalFault, c.status.reserved, c.reserved2, c.status.iinUa, c.status.vbatUv,
        c.status.vbusUv, c.status.dieTempDc, c.status.sessions, c.status.samples,
        c.status.writes, c.status.reads, c.status.lastError, ())
      left_inv := fun _ => rfl
      right_inv := fun _ => rfl }

/-- `Read-Struct`: a structure out of an array, which is padded with zeros if it is too short. -/
def readStruct {α : Type} (L : Layout α) (bytes : List Byte) : α :=
  L.decode ((bytes ++ List.replicate L.size 0).take L.size)

/-! ### Results -/

/-- Why a command ended with an error. -/
inductive Failure
  /-- `DeviceIoControl` failed. -/
  | deviceIoControl
  /-- The driver returned an error code. -/
  | driver (errorCode : BitVec 32)
  deriving DecidableEq, Repr

/-- What a command shows. -/
inductive Shown
  | status (status : Ln8000Status)
  | sessions (sessions : Ln8000Sessions)
  | register (value : Byte)
  | wrote
  deriving DecidableEq, Repr

/-- What the client makes of the result of `DeviceIoControl`. -/
def Command.finish (command : Command) (ok : Bool) (bytes : List Byte) : Except Failure Shown :=
  if ok = false then .error .deviceIoControl
  else
    match command with
    | .status => .ok (.status (readStruct statusLayout bytes).status)
    | .sessions => .ok (.sessions (readStruct sessionsLayout bytes))
    | .read _ =>
        let reg := readStruct regRequestLayout bytes
        if reg.errorCode ≠ 0 then .error (.driver reg.errorCode) else .ok (.register reg.value)
    -- The error code of the answer is not looked at.
    | .write _ _ => .ok .wrote

/-- What `DeviceIoControl` gives back for a request: the bytes the driver returned, at the start of
an array of zeros. -/
def GivenBack (m : IoRequest) (outputSize : Nat) (ok : Bool) (bytes : List Byte) : Prop :=
  match m.returned with
  | some cells => ok = true ∧ ∃ filled, Fills filled cells ∧
      bytes = filled ++ List.replicate (outputSize - cells.length) 0
  | none => ok = false ∧ bytes = List.replicate outputSize 0

end Kmdf.Client
