import NabuCharger.Logic.Verdict
import NabuCharger.Logic.Word

/-!
# `Wdf.Request`: one request object and who has it

A transport creates one `WDFREQUEST` and uses it for every exchange: it formats the request,
sends it to the I/O target, reads the completion status, and reuses it. `WdfEffect` has these
calls, and the volatile reads of the reply buffers. Nothing is assumed about the answers.

The framework's rule is about ownership. A sent request belongs to the target until the target
completes it, and a send that answered `false` leaves it there. `requestWatch` keeps where the
request is and whether a send ever failed, and asks for the rule: a reuse finds the request
completed, and a request whose send failed is never formatted, sent or reused again.

`SynchronousCompletes` is what the framework promises of a send with the `SYNCHRONOUS` flag: it
does not return `true` before the request is completed. Without the flag it may
(`Sent.pending`).

The transfer list (`TransferList`) is the data the request carries, laid out in slots of the
size of one entry.
-/

set_option autoImplicit false

namespace Wdf

open Effectful

/-- A memory object of a transport. `transferView n` is the transfer area at the exact length
of `n` transfers. -/
inductive Memory
  | transferArea
  | transferView (count : Nat)
  | data
  | attachIn
  | attachOut
  deriving DecidableEq, Repr

/-- `WDF_REQUEST_SEND_OPTIONS`: whether the `SYNCHRONOUS` flag is set, and the timeout in
100 ns units that the `TIMEOUT` flag announces. -/
structure SendOptions where
  synchronous : Bool
  timeout100ns : Int
  deriving DecidableEq, Repr

/-- How a send returned: with zero, or with the request still at the target, or completed. -/
inductive Sent
  | failed
  | pending
  | completed
  deriving DecidableEq, Repr

/-- Calls on the request, and the reads of the buffers it fills. -/
inductive WdfOp
  | formatForIoctl (ioctl : Nat) (input output : Option Memory)
  | send (options : SendOptions)
  | getStatus
  | reuse
  | readByte (buffer : Memory) (offset : Nat)
  | readWord (buffer : Memory) (offset : Nat)
  deriving DecidableEq, Repr

/-- The framework, as one request sees it. A status is an `NTSTATUS`. -/
def WdfEffect : Effect where
  Op := WdfOp
  Resp
    | .formatForIoctl .. => Int
    | .send _ => Sent
    | .getStatus => Int
    | .reuse => Unit
    | .readByte .. => Byte
    | .readWord .. => BitVec 32

/-- Whether an `NTSTATUS` is a success. -/
def ntOk (status : Int) : Bool := 0 ≤ status

/-- The control code of a sequence on a serial bus. -/
def ioctlSpbExecuteSequence : Nat := 0x00041808
/-- The control code that locks the connection. -/
def ioctlSpbLockConnection : Nat := 0x0004180C
/-- The control code of an attach. -/
def ioctlAttach : Nat := 0x0032C004

/-! ### Transfer lists -/

/-- A transfer without data. -/
def spbDirectionNone : Nat := 0
/-- A transfer that reads. -/
def spbDirectionFromDevice : Nat := 1
/-- A transfer that writes. -/
def spbDirectionToDevice : Nat := 2
/-- A transfer whose buffer is one block. -/
def spbFormatSimple : Nat := 1

/-- One transfer of a sequence. The buffer is a place in a memory object, or null. -/
structure TransferEntry where
  direction : Nat
  delayInUs : Nat
  format : Nat
  buffer : Option (Memory × Nat)
  bufferCb : Nat
  deriving DecidableEq, Repr

/-- A "simple buffer" entry. -/
def entryInit (direction : Nat) (buffer : Option (Memory × Nat)) (bufferCb : Nat) :
    TransferEntry :=
  { direction, delayInUs := 0, format := spbFormatSimple, buffer, bufferCb }

/-- What 32 bytes of a transfer area hold. -/
inductive Slot
  | blank
  | bytes (content : List Byte)
  | entry (transfer : TransferEntry)
  deriving DecidableEq, Repr

/-- A transfer area: the 16 bytes in front of the first entry, then slots of 32 bytes, the first
of them inside the list header. -/
structure TransferList where
  size : Nat
  reserved : Nat
  transferCount : Nat
  slots : List Slot
  deriving DecidableEq, Repr

namespace TransferList

/-- `sizeof(SPB_TRANSFER_LIST)`. -/
def headerSize : Nat := 48

/-- `sizeof(SPB_TRANSFER_LIST_ENTRY)`. -/
def entrySize : Nat := 32

/-- The slot at a byte offset behind the fixed fields. -/
def slotAt (offset : Nat) : Nat := (offset - 16) / entrySize

/-- The header fields of a list of `count` transfers. -/
def withHeader (list : TransferList) (count : Nat) : TransferList :=
  { list with size := headerSize, reserved := 0, transferCount := count }

/-- Write a slot. -/
def put (list : TransferList) (index : Nat) (slot : Slot) : TransferList :=
  { list with slots := list.slots.set index slot }

end TransferList

/-! ### Ownership -/

/-- Where the request is. -/
inductive Place
  | driver
  | target
  | completed
  deriving DecidableEq, Repr

/-- Where the request is after a send. -/
def Sent.place : Sent → Place
  | .failed => .target
  | .pending => .target
  | .completed => .completed

/-- History of the request: its place, and whether a send failed. -/
structure Custody where
  place : Place
  lost : Bool
  deriving DecidableEq, Repr

/-- A request just created. -/
def Custody.fresh : Custody := ⟨.driver, false⟩

/-- The rule of the framework. A reuse gives the request back to the driver. -/
def requestWatch : Machine WdfEffect where
  State := Custody
  allow _ _ _ := True
  require c
    | .formatForIoctl .. => c.lost = false
    | .send _ => c.lost = false
    | .reuse => c.lost = false ∧ c.place = .completed
    | .getStatus => True
    | .readByte .. => True
    | .readWord .. => True
  next c
    | .formatForIoctl .. => fun _ => c
    | .send _ => fun (sent : Sent) => ⟨sent.place, c.lost || sent == .failed⟩
    | .reuse => fun _ => ⟨.driver, c.lost⟩
    | .getStatus => fun _ => c
    | .readByte .. => fun _ => c
    | .readWord .. => fun _ => c

instance requestWatch.decidableRequire (c : Custody) :
    (o : WdfOp) → Decidable (requestWatch.require c o)
  | .formatForIoctl .. => inferInstanceAs (Decidable (c.lost = false))
  | .send _ => inferInstanceAs (Decidable (c.lost = false))
  | .reuse => inferInstanceAs (Decidable (c.lost = false ∧ c.place = .completed))
  | .getStatus => isTrue trivial
  | .readByte .. => isTrue trivial
  | .readWord .. => isTrue trivial

instance requestWatch.decidableMeets (c : Custody) (t : List (Event WdfEffect)) :
    Decidable (requestWatch.Meets c t) :=
  @Machine.decidableMeets _ requestWatch requestWatch.decidableRequire
    (fun _ _ _ => isTrue trivial) c t

/-- The framework's promise about a synchronous send. -/
def SynchronousCompletes : (o : WdfOp) → WdfEffect.Resp o → Prop
  | .send options => fun (sent : Sent) => options.synchronous = true → sent ≠ .pending
  | .formatForIoctl .. => fun _ => True
  | .getStatus => fun _ => True
  | .reuse => fun _ => True
  | .readByte .. => fun _ => True
  | .readWord .. => fun _ => True

instance SynchronousCompletes.decidable :
    (o : WdfOp) → (r : WdfEffect.Resp o) → Decidable (SynchronousCompletes o r)
  | .send options, (sent : Sent) =>
      inferInstanceAs (Decidable (options.synchronous = true → sent ≠ .pending))
  | .formatForIoctl .., _ => isTrue trivial
  | .getStatus, _ => isTrue trivial
  | .reuse, _ => isTrue trivial
  | .readByte .., _ => isTrue trivial
  | .readWord .., _ => isTrue trivial

instance (e : Event WdfEffect) : Decidable (SynchronousCompletes e.op e.resp) :=
  SynchronousCompletes.decidable e.op e.resp

/-- A send comes back with the request completed. -/
def SendCompletes : (o : WdfOp) → WdfEffect.Resp o → Prop
  | .send _ => fun (sent : Sent) => sent = .completed
  | .formatForIoctl .. => fun _ => True
  | .getStatus => fun _ => True
  | .reuse => fun _ => True
  | .readByte .. => fun _ => True
  | .readWord .. => fun _ => True

instance SendCompletes.decidable :
    (o : WdfOp) → (r : WdfEffect.Resp o) → Decidable (SendCompletes o r)
  | .send _, (sent : Sent) => inferInstanceAs (Decidable (sent = .completed))
  | .formatForIoctl .., _ => isTrue trivial
  | .getStatus, _ => isTrue trivial
  | .reuse, _ => isTrue trivial
  | .readByte .., _ => isTrue trivial
  | .readWord .., _ => isTrue trivial

instance (e : Event WdfEffect) : Decidable (SendCompletes e.op e.resp) :=
  SendCompletes.decidable e.op e.resp

/-! ### A target to run against -/

/-- A target that takes every format and every status for a success, and returns from the sends
as the list says, then with the request completed. -/
def scripted (sents : List Sent) : (o : WdfOp) → WdfEffect.Resp o × List Sent
  | .send _ => (sents.headD Sent.completed, sents.tail)
  | .formatForIoctl .. => ((0 : Int), sents)
  | .getStatus => ((0 : Int), sents)
  | .reuse => ((), sents)
  | .readByte .. => ((0 : Byte), sents)
  | .readWord .. => ((0 : BitVec 32), sents)

end Wdf
