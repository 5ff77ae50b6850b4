import NabuCharger.Logic.Beside
import NabuCharger.Logic.Layout
import NabuCharger.Wdf.Request

/-!
# `Wdf.Buffered`: a buffered control request

The handler of a control request is given the lengths of its buffers. It asks the framework for the
input and for the output buffer, stores its answer there, and completes the request with a status
and the number of bytes for the client.

`ioManager input room` is the framework with the client behind it: `input` is what the client sent,
`room` the length of its output buffer. A handler may store only into a buffer it was given, and
within its length. It completes the request once, does not touch it again, and gives the client
only bytes it has stored. What lies in the buffer otherwise is not the client's.
-/

set_option autoImplicit false

namespace Wdf

open Effectful

/-- Calls on a request. -/
inductive RequestOp
  /-- The answer is a status and the buffer, `none` for a null pointer. -/
  | retrieveInput (minLength : Nat)
  /-- The answer is a status and the length of the buffer. -/
  | retrieveOutput (minLength : Nat)
  /-- Stores cells into the output buffer. -/
  | store (offset : Nat) (cells : List Cell)
  | complete (status : Int) (information : Nat)
  /-- `WdfRequestGetIoQueue`. The answer names the device of the request. Nothing here reads it. -/
  | getIoQueue
  deriving DecidableEq

/-- The calls on a request, and what the framework answers. -/
def RequestEffect : Effect where
  Op := RequestOp
  Resp
    | .retrieveInput _ => Int × Option (List Byte)
    | .retrieveOutput _ => Int × Nat
    | .store _ _ => Unit
    | .complete _ _ => Unit
    | .getIoQueue => Unit

/-- A request on its way. -/
structure IoRequest where
  /-- Length of the output buffer, if it was given out. -/
  output : Option Nat
  /-- What was stored, by offset. -/
  held : Nat → Option Cell
  reply : Option (Int × Nat)

namespace IoRequest

/-- A request that has just arrived. -/
def arrived : IoRequest where
  output := none
  held := fun _ => none
  reply := none

/-- The buffer after a store. -/
def storeAt (held : Nat → Option Cell) (offset : Nat) (cells : List Cell) : Nat → Option Cell :=
  fun i => if offset ≤ i ∧ i < offset + cells.length then cells[i - offset]? else held i

/-- What the client got, unless the request failed. -/
def returned (m : IoRequest) : Option (List Cell) :=
  m.reply.bind fun reply =>
    if ntOk reply.1 = true then
      some ((List.range reply.2).map fun i => (m.held i).getD none)
    else none

end IoRequest

/-- The framework, and the client behind it. -/
def ioManager (input : List Byte) (room : Nat) : Machine RequestEffect where
  State := IoRequest
  allow _
    | .retrieveInput minLength => fun (answer : Int × Option (List Byte)) =>
        ntOk answer.1 = true → answer.2 = some input ∧ minLength ≤ input.length
    | .retrieveOutput minLength => fun (answer : Int × Nat) =>
        ntOk answer.1 = true → answer.2 = room ∧ minLength ≤ room
    | .store _ _ => fun _ => True
    | .complete _ _ => fun _ => True
    | .getIoQueue => fun _ => True
  require m
    | .retrieveInput _ => m.reply = none
    | .retrieveOutput _ => m.reply = none
    | .store offset cells =>
        m.reply = none ∧ ∃ length, m.output = some length ∧ offset + cells.length ≤ length
    | .complete _ information => m.reply = none ∧ ∀ i < information, (m.held i).isSome = true
    | .getIoQueue => m.reply = none
  next m
    | .retrieveInput _ => fun _ => m
    | .retrieveOutput _ => fun (answer : Int × Nat) =>
        if ntOk answer.1 = true then { m with output := some answer.2 } else m
    | .store offset cells => fun _ => { m with held := IoRequest.storeAt m.held offset cells }
    | .complete status information => fun _ => { m with reply := some (status, information) }
    | .getIoQueue => fun _ => m

/-- The framework hands a buffer over if it is long enough. -/
def HandedOver (input : List Byte) (room : Nat) :
    (o : RequestOp) → RequestEffect.Resp o → Prop
  | .retrieveInput minLength => fun (answer : Int × Option (List Byte)) =>
      minLength ≤ input.length → ntOk answer.1 = true ∧ answer.2 = some input
  | .retrieveOutput minLength => fun (answer : Int × Nat) =>
      minLength ≤ room → ntOk answer.1 = true ∧ answer.2 = room
  | .store _ _ => fun _ => True
  | .complete _ _ => fun _ => True
  | .getIoQueue => fun _ => True

/-! ### Programs -/

/-- Programs of a handler that also talks to `E`. -/
abbrev IoM (E : Effect) (σ α : Type) : Type := Proc (E.sum RequestEffect) Empty σ α

section
variable {E : Effect} {σ : Type}

/-- Issues one call on the request. -/
def request (o : RequestOp) : IoM E σ (RequestEffect.Resp o) :=
  Proc.perform (E := E.sum RequestEffect) (Sum.inr o)

/-- Stores cells in the output buffer. -/
def store (offset : Nat) (cells : List Cell) : IoM E σ Unit :=
  request (.store offset cells)

/-- Completes the request. -/
def complete (status : Int) (information : Nat) : IoM E σ Unit :=
  request (.complete status information)

/-- Asks for the queue the request came from. -/
def getIoQueue : IoM E σ Unit :=
  request .getIoQueue

/-! ### What a call did -/

variable {β : Type} {s s' : σ} {t : List (Event (E.sum RequestEffect))} {o : RequestOp}

/-- A call on the request is its one exchange, and leaves the state. -/
theorem request_cases {r : Except Empty (RequestEffect.Resp o)}
    (h : Proc.Yields (request o : IoM E σ (RequestEffect.Resp o)) s t r s') :
    ∃ answer, leftEvents t = [] ∧ rightEvents t = [⟨o, answer⟩] ∧ r = .ok answer ∧ s' = s :=
  Proc.Yields.perform_inr (E := E) (F := RequestEffect) h

/-- A call on the request comes first, and the rest follows. -/
theorem request_bind {f : RequestEffect.Resp o → IoM E σ β} {r : Except Empty β}
    (h : Proc.Yields (request o >>= f) s t r s') :
    ∃ answer rest, leftEvents t = leftEvents rest ∧
      rightEvents t = ⟨o, answer⟩ :: rightEvents rest ∧ (f answer).Yields s rest r s' :=
  Proc.Yields.inr_bind (E := E) (F := RequestEffect) h

end

end Wdf
