import NabuCharger.Wdf.Request
import NabuCharger.Ln8000.Error

/-!
# `Wdf.SpmiTransport`: the transport of the charger driver over SPMI

The sibling of the I²C transport, in the driver of the PMIC charger: one cached request, formatted
and sent for every register access (`send`). It differs in two places. The send has no
`SYNCHRONOUS` flag, only the timeout. And when a send fails the request is reused at once and the
call returns an error, so the next call formats and sends it again.

The payload of a list stands in the slot behind two entries (`payloadOffset`). The second entry
of a read is written one entry behind the header, which is that slot.
-/

set_option autoImplicit false

namespace Wdf

open Effectful Ln8000

/-- Transport-level failure: the categories of a bus failure, a platform code and a text. -/
abbrev TransportError : Type := BusError

/-- Bus access settings. -/
structure SpmiConfig where
  timeout100ns : Int
  /-- Most significant address byte first. -/
  addressBigEndian : Bool
  deriving DecidableEq, Repr

/-- Default configuration for the tablet. -/
def SpmiConfig.nabu : SpmiConfig := { timeout100ns := -10000000, addressBigEndian := true }

/-- Register address bytes in the order set by the configuration. -/
def SpmiConfig.addressBytes (config : SpmiConfig) (addr : BitVec 16) : Byte × Byte :=
  let high := addr.extractLsb' 8 8
  let low := addr.extractLsb' 0 8
  if config.addressBigEndian then (high, low) else (low, high)

/-- The transport. A buffer that was not created is `none`. -/
structure SpmiTransport where
  area : Option TransferList
  data : Option (List Byte)
  config : SpmiConfig
  deriving DecidableEq, Repr

/-- Programs of the transport. -/
abbrev SpmiM : Type → Type := Proc WdfEffect TransportError SpmiTransport

namespace SpmiTransport

/-- The transfers a list has room for. -/
def maxTransfers : Nat := 2
/-- Where the payload starts behind the list. -/
def payloadOffset : Nat := 80

/-- The state `open` returns. -/
def opened (config : SpmiConfig) : SpmiTransport where
  area := some ⟨0, 0, 0, List.replicate 7 .blank⟩
  data := some (List.replicate 8 0)
  config := config

/-- The transfer list for `count` transfers, with its header filled in. -/
def begin (list : TransferList) (count : Nat) : SpmiM TransferList :=
  if count = 0 ∨ maxTransfers < count then Proc.fail (.unsupported "invalid transfer count")
  else pure (list.withHeader count)

/-- Sends the prepared sequence to the bus. -/
def send : SpmiM Unit := do
  let status ← Proc.perform (E := WdfEffect)
    (.formatForIoctl ioctlSpbExecuteSequence (some .transferArea) (some .data))
  if ntOk status = false then Proc.fail (.protocol "the bus rejected the SPB sequence")
  else
    let transport ← Proc.get
    let sent : Sent ← Proc.perform (E := WdfEffect)
      (.send { synchronous := false, timeout100ns := transport.config.timeout100ns })
    if sent = Sent.failed then
      Proc.perform (E := WdfEffect) .reuse
      Proc.fail (.timeout "the SPMI bus did not respond")
    else
      let status ← Proc.perform (E := WdfEffect) .getStatus
      Proc.perform (E := WdfEffect) .reuse
      if ntOk status = false then Proc.fail (.io "the SPMI bus returned a failure")
      else pure ()

/-- Writes a register byte: one transfer of the address and the value. -/
def writeReg (addr : BitVec 16) (value : Byte) : SpmiM Unit := do
  let transport ← Proc.get
  match transport.area, transport.data with
  | some list, some _ =>
      let bytes := transport.config.addressBytes addr
      let list ← begin list 1
      let list := list.put (TransferList.slotAt payloadOffset) (.bytes [bytes.1, bytes.2, value])
      let list := list.put 0
        (.entry (entryInit spbDirectionToDevice (some (.transferArea, payloadOffset)) 3))
      Proc.modify fun transport => { transport with area := some list }
      send
  | _, _ => Proc.fail (.unsupported "SPB buffers were not created")

/-- Reads a register byte: a transfer of the address, then a byte read. -/
def readReg (addr : BitVec 16) : SpmiM Byte := do
  let transport ← Proc.get
  match transport.area, transport.data with
  | some list, some _ =>
      let bytes := transport.config.addressBytes addr
      let list ← begin list maxTransfers
      let list := list.put (TransferList.slotAt payloadOffset) (.bytes [bytes.1, bytes.2])
      let list := list.put 0
        (.entry (entryInit spbDirectionToDevice (some (.transferArea, payloadOffset)) 2))
      let list := list.put
        (TransferList.slotAt (TransferList.headerSize + TransferList.entrySize))
        (.entry (entryInit spbDirectionFromDevice (some (.data, 0)) 1))
      Proc.modify fun transport => { transport with area := some list }
      send
      Proc.perform (E := WdfEffect) (.readByte .data 0)
  | _, _ => Proc.fail (.unsupported "SPB buffers were not created")

/-- An operation on the transport, with its arguments. -/
inductive Call
  | readReg (addr : BitVec 16)
  | writeReg (addr : BitVec 16) (value : Byte)
  deriving DecidableEq, Repr

/-- A call of the transport, its answer dropped. -/
def Call.run : Call → SpmiM Unit
  | .readReg addr => Proc.discard (SpmiTransport.readReg addr)
  | .writeReg addr value => SpmiTransport.writeReg addr value

end SpmiTransport

end Wdf
