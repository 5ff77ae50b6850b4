import NabuCharger.Wdf.Request
import NabuCharger.Ln8000.Error
import NabuCharger.Ln8000.Regs

/-!
# `Kmdf.Spb`: the I²C transport over SPB

`SpbBus` keeps one cached request for the life of the device. Its operations share one
sequence on it (`exchange`): format, send, read the status, collect the reply, reuse. They
differ in the control code, the buffers and what they do with the status.

A send that fails leaves the request with the I/O target. The bus then marks it lost
(`sendFailed`), and from there on `cachedRequest` turns every transaction away, and `attach`
and the two control requests answer `-1`.
-/

set_option autoImplicit false

namespace Kmdf

open Effectful Ln8000 Wdf

/-- Timeout of a transaction in 100 ns units. -/
def spbTimeout100ns : Int := -10000 * 1000

/-- Buffer format: one buffer that is not paged. -/
def spbFormatSimpleNonPaged : Nat := 3
/-- The sequence with a simple buffer. -/
def variantOutputSimple : Byte := 0
/-- The sequence with a buffer that is not paged. -/
def variantOutputNonPaged : Byte := 1
/-- The sequence closed by an empty entry. -/
def variantTerminated : Byte := 3
/-- The sequence in a memory object. -/
def variantOutputMemory : Byte := 4
/-- The sequence in a memory object, not paged. -/
def variantOutputMemoryNonPaged : Byte := 5
/-- Marks the words of an attachment. -/
def attachMagic : BitVec 32 := 0x42696541

/-- The transport. A buffer that was not created is `none`. -/
structure SpbBus where
  area : Option TransferList
  data : Option (List Byte)
  /-- Status of the last exchange. -/
  lastStatus : Int
  /-- The framework still owns the request: no exchange until the device is restarted. -/
  requestLost : Bool
  /-- How the request is formatted. -/
  variant : Byte
  attachIn : Option (BitVec 32 × BitVec 32)
  attachOut : Bool
  /-- First words of the reply to a connection request. -/
  attachWords : List (BitVec 32)
  /-- How many transfers the last list declared. -/
  lastCount : Nat
  deriving DecidableEq, Repr

/-- Programs of the transport. -/
abbrev SpbM : Type → Type := Proc WdfEffect BusError SpbBus

/-- The state `open` returns. -/
def SpbBus.opened : SpbBus where
  area := some ⟨0, 0, 0, [.blank, .blank, .blank]⟩
  data := some (List.replicate 8 0)
  lastStatus := 0
  requestLost := false
  variant := variantOutputSimple
  attachIn := some (0, 0)
  attachOut := true
  attachWords := [0, 0, 0, 0]
  lastCount := 0

namespace Spb

/-- Chooses how transfers are sent from now on. -/
def setVariant (variant : Byte) : SpbM Unit :=
  Proc.modify fun bus => { bus with variant }

/-- The cached request can be sent again. -/
def cachedRequest : SpbM Unit := do
  let bus ← Proc.get
  if bus.requestLost then
    Proc.fail (.timeout "cached request lost: a device restart is required")
  else pure ()

/-- Marks the cached request as lost after a failed send. -/
def sendFailed (reason : String) : SpbM BusError := do
  Proc.modify fun bus => { bus with requestLost := true, lastStatus := -1 }
  pure (.timeout reason)

/-- Buffer format of the entries. -/
def entryFormat (variant : Byte) : Nat :=
  if variant = variantOutputNonPaged ∨ variant = variantOutputMemoryNonPaged then
    spbFormatSimpleNonPaged
  else spbFormatSimple

/-- A list entry with the given buffer format. -/
def entryWithFormat (format direction : Nat) (buffer : Option (Memory × Nat)) (bufferCb : Nat) :
    TransferEntry :=
  { entryInit direction buffer bufferCb with format }

/-- Transfers a register access declares. -/
def transferCount (isWrite terminated : Bool) : Nat :=
  match isWrite, terminated with
  | true, false => 1
  | false, false => 2
  | true, true => 2
  | false, true => 3

/-- Fills the transfer area for a register read or write. The reply byte of a read follows the
address in the data buffer. -/
def prepare (addr : RegAddr) (value : Option Byte) : SpbM Unit := do
  let bus ← Proc.get
  match bus.area, bus.data with
  | some list, some data =>
      let terminated := bus.variant == variantTerminated
      let count := transferCount value.isSome terminated
      let format := entryFormat bus.variant
      -- the header is written anew for every transfer
      -- a variant with a terminator gets an empty entry behind the last
      let list := list.withHeader count
      let (list, data) := match value with
        | some byte =>
            (list.put 0 (.entry (entryWithFormat format spbDirectionToDevice (some (.data, 0)) 2)),
              (data.set 0 addr).set 1 byte)
        | none =>
            ((list.put 0
                (.entry (entryWithFormat format spbDirectionToDevice (some (.data, 0)) 1))).put
              (TransferList.slotAt TransferList.headerSize)
              (.entry (entryWithFormat format spbDirectionFromDevice (some (.data, 1)) 1)),
              data.set 0 addr)
      let list :=
        if terminated then
          list.put
            (TransferList.slotAt (TransferList.headerSize + (count - 2) * TransferList.entrySize))
            (.entry (entryWithFormat format spbDirectionNone none 0))
        else list
      Proc.modify fun bus => { bus with area := some list, data := some data, lastCount := count }
  | _, _ => Proc.fail (.unsupported "SPB buffers not created")

/-- Address bytes of an SPMI register. -/
def addressBytes (addr : BitVec 16) (bigEndian : Bool) : Byte × Byte :=
  let high := addr.extractLsb' 8 8
  let low := addr.extractLsb' 0 8
  if bigEndian then (high, low) else (low, high)

/-- Fills the transfer area for an SPMI register with a 16-bit address. -/
def prepareSpmi16 (addr : BitVec 16) (value : Option Byte) (bigEndian : Bool) : SpbM Unit := do
  let bus ← Proc.get
  match bus.area, bus.data with
  | some list, some data =>
      let count := if value.isSome then 1 else 2
      let format := entryFormat bus.variant
      let list := list.withHeader count
      let bytes := addressBytes addr bigEndian
      let data := (data.set 0 bytes.1).set 1 bytes.2
      let (list, data) := match value with
        | some byte =>
            (list.put 0 (.entry (entryWithFormat format spbDirectionToDevice (some (.data, 0)) 3)),
              data.set 2 byte)
        | none =>
            ((list.put 0
                (.entry (entryWithFormat format spbDirectionToDevice (some (.data, 0)) 2))).put
              (TransferList.slotAt TransferList.headerSize)
              (.entry (entryWithFormat format spbDirectionFromDevice (some (.data, 2)) 1)),
              data)
      Proc.modify fun bus => { bus with area := some list, data := some data, lastCount := count }
  | _, _ => Proc.fail (.unsupported "SPB buffers not created")

/-- How a sequence on the cached request ended. -/
inductive Exchange (γ : Type)
  /-- The target rejected the format, the request was not sent. -/
  | rejected (status : Int)
  | lost (err : BusError)
  | done (status : Int) (reply : γ)

/-- Options of every send. -/
def sendOptions : SendOptions := { synchronous := true, timeout100ns := spbTimeout100ns }

/-- The sequence of every operation. `collect` reads the reply buffers before the request is
reused. -/
def exchange {γ : Type} (ioctl : Nat) (input output : Option Memory) (reason : String)
    (collect : Int → SpbM γ) : SpbM (Exchange γ) := do
  let status ← Proc.perform (E := WdfEffect) (.formatForIoctl ioctl input output)
  -- nothing was sent, so the request stays the driver's
  if ntOk status = false then pure (.rejected status)
  else
    let sent : Sent ← Proc.perform (E := WdfEffect) (.send sendOptions)
    if sent = Sent.failed then
      -- the target may still have the request, which is not used again
      let err ← sendFailed reason
      pure (.lost err)
    else
      let status ← Proc.perform (E := WdfEffect) .getStatus
      Proc.modify fun bus => { bus with lastStatus := status }
      let reply ← collect status
      -- after the reply was collected, also when its status is a failure
      Proc.perform (E := WdfEffect) .reuse
      pure (.done status reply)

/-- View of the transfer area for the last list. -/
def inputView (count : Nat) : Memory :=
  match count with
  | 1 => .transferView 1
  | 2 => .transferView 2
  | _ => .transferView 3

/-- The output buffer, in the variants that check for it. -/
def outputFor (variant : Byte) : Option Memory :=
  if variantOutputMemory ≤ variant then some .data else none

/-- A prepared transfer list is executed. `offset` is the place of the reply byte. -/
def executeSequence (value : Option Byte) (offset : Nat) (rejected unanswered failed : String) :
    SpbM Byte := do
  let bus ← Proc.get
  match ← exchange ioctlSpbExecuteSequence (some (inputView bus.lastCount))
      (outputFor bus.variant) unanswered
      fun _ => Proc.perform (E := WdfEffect) (.readByte .data offset) with
  | .rejected _ => Proc.fail (.protocol rejected)
  | .lost err => Proc.fail err
  | .done status byte =>
      if ntOk status = false then Proc.fail (.io failed)
      -- a write answers nothing
      else pure (if value.isNone then byte else 0)

/-- One transaction: a register read or write. -/
def transact (addr : RegAddr) (value : Option Byte) : SpbM Byte := do
  cachedRequest
  prepare addr value
  executeSequence value 1 "SPB rejected the sequence" "I²C bus did not answer"
    "SPB returned a failure for the transaction"

/-- One transaction with a 16-bit register address. -/
def transactSpmi16 (addr : BitVec 16) (value : Option Byte) (bigEndian : Bool) : SpbM Byte := do
  cachedRequest
  prepareSpmi16 addr value bigEndian
  executeSequence value 2 "SPB rejected the SPMI sequence" "SPMI bus did not answer"
    "SPB returned a failure for the SPMI transaction"

/-- A control request that answers with a status, unless the request is lost. -/
def controlRequest {γ : Type} (ioctl : Nat) (input output : Option Memory)
    (collect : Int → SpbM γ) : SpbM Int := do
  match ← exchange ioctl input output "the I/O target did not complete the request" collect with
  | .rejected status =>
      Proc.modify fun bus => { bus with lastStatus := status }
      pure status
  | .lost _ => pure (-1)
  | .done status _ => pure status

/-- The first words of the reply to a connection request, when it succeeded. -/
def readAttachWords (status : Int) : SpbM Unit := do
  if ntOk status then
    let word0 ← Proc.perform (E := WdfEffect) (.readWord .attachOut 0)
    let word1 ← Proc.perform (E := WdfEffect) (.readWord .attachOut 4)
    let word2 ← Proc.perform (E := WdfEffect) (.readWord .attachOut 8)
    let word3 ← Proc.perform (E := WdfEffect) (.readWord .attachOut 12)
    Proc.modify fun bus => { bus with attachWords := [word0, word1, word2, word3] }
  else pure ()

/-- Tries to perform the peripheral connection. -/
def attach : SpbM Int := do
  let bus ← Proc.get
  if bus.requestLost then pure (-1)
  else if bus.attachIn.isNone ∨ bus.attachOut = false then pure (-1)
  else
    Proc.modify fun bus => { bus with attachIn := some (attachMagic, 1) }
    controlRequest ioctlAttach (some .attachIn) (some .attachOut) readAttachWords

/-- Sends a control request without buffers. -/
def probeIoctl (code : Nat) : SpbM Int := do
  let bus ← Proc.get
  if bus.requestLost then pure (-1)
  else controlRequest code none none fun _ => pure ()

/-- Tries to lock the connection. -/
def lockConnection : SpbM Int :=
  probeIoctl ioctlSpbLockConnection

/-- An operation on the transport, with its arguments. -/
inductive Call
  | setVariant (variant : Byte)
  | transact (addr : RegAddr) (value : Option Byte)
  | transactSpmi16 (addr : BitVec 16) (value : Option Byte) (bigEndian : Bool)
  | attach
  | probeIoctl (code : Nat)
  | lockConnection
  deriving DecidableEq, Repr

/-- The program of a call. -/
def Call.run : Call → SpbM Unit
  | .setVariant variant => Spb.setVariant variant
  | .transact addr value => Proc.discard (Spb.transact addr value)
  | .transactSpmi16 addr value bigEndian =>
      Proc.discard (Spb.transactSpmi16 addr value bigEndian)
  | .attach => Proc.discard Spb.attach
  | .probeIoctl code => Proc.discard (Spb.probeIoctl code)
  | .lockConnection => Proc.discard Spb.lockConnection

end Spb

end Kmdf
