import NabuCharger.Kmdf.Bench
import NabuCharger.Kmdf.RequestTrace

/-!
# `Kmdf.RequestBench`: an executable surrounding with clients

The bench of the driver, and a queue of requests in front of it. The framework hands out the buffers
of the first request, and takes the next when it is completed. It is there for the concrete runs.
-/

set_option autoImplicit false

namespace Kmdf

open Effectful Wdf

/-- What the driver and its requests run against. -/
structure RequestBench where
  bench : Bench
  /-- The input of each request, and the length of its output buffer. -/
  waiting : List (List Byte × Nat)

namespace RequestBench

/-- A buffer is handed out if it is long enough. -/
def answerRequest (waiting : List (List Byte × Nat)) :
    (o : RequestOp) → RequestEffect.Resp o × List (List Byte × Nat)
  | .retrieveInput minLength =>
      match waiting with
      | [] => ((statusInvalidParameter, none), waiting)
      | (input, _) :: _ =>
          if minLength ≤ input.length then ((0, some input), waiting)
          else ((statusBufferTooSmall, none), waiting)
  | .retrieveOutput minLength =>
      match waiting with
      | [] => ((statusInvalidParameter, 0), waiting)
      | (_, room) :: _ =>
          if minLength ≤ room then ((0, room), waiting) else ((statusBufferTooSmall, 0), waiting)
  | .store _ _ => ((), waiting)
  | .complete _ _ => ((), waiting.tail)
  | .getIoQueue => ((), waiting)

/-- Answers of the bench and of the queue. -/
def answer (b : RequestBench) :
    (o : (DevEffect.sum RequestEffect).Op) → (DevEffect.sum RequestEffect).Resp o × RequestBench
  | .inl o =>
      let answered := b.bench.answer o
      (answered.1, { b with bench := answered.2 })
  | .inr o =>
      let answered := answerRequest b.waiting o
      (answered.1, { b with waiting := answered.2 })

end RequestBench

/-- The buffers of a control request. -/
def EntryPoint.waiting : EntryPoint → Option (List Byte × Nat)
  | .control _ input room => some (input, room)
  | .tick | .deviceAdd | .prepare _ _ | .release => none

/-- The turns of these entry points from the loaded driver, if all of them return. -/
def requestTurns (bench : Bench) (ops : List EntryPoint) :
    Option (List (Turn (DevEffect.sum RequestEffect) Empty DriverState Unit EntryPoint) ×
      DriverState) :=
  History.execute RequestBench.answer (@EntryPoint.run ⟨0⟩)
    { bench := bench, waiting := ops.filterMap EntryPoint.waiting } DriverState.new ops

/-- What the bench ran is a history of the entry points. -/
theorem history_requestTurns {bench : Bench} {ops : List EntryPoint}
    {turns : List (Turn (DevEffect.sum RequestEffect) Empty DriverState Unit EntryPoint)}
    {s : DriverState} (h : requestTurns bench ops = some (turns, s)) :
    History (@EntryPoint.run ⟨0⟩) DriverState.new turns s :=
  History.of_execute _ _ _ _ _ _ _ h

instance decidableHandedOver (input : List Byte) (room : Nat) (o : RequestOp)
    (r : RequestEffect.Resp o) : Decidable (Wdf.HandedOver input room o r) :=
  match o, r with
  | .retrieveInput minLength, (answer : Int × Option (List Byte)) =>
      inferInstanceAs (Decidable
        (minLength ≤ input.length → ntOk answer.1 = true ∧ answer.2 = some input))
  | .retrieveOutput minLength, (answer : Int × Nat) =>
      inferInstanceAs (Decidable (minLength ≤ room → ntOk answer.1 = true ∧ answer.2 = room))
  | .store _ _, _ => isTrue trivial
  | .complete _ _, _ => isTrue trivial
  | .getIoQueue, _ => isTrue trivial

/-- Whether the framework may answer so can be computed. It does not depend on the request. -/
def decidableAnswer (input : List Byte) (room : Nat) (m : IoRequest) (o : RequestOp)
    (r : RequestEffect.Resp o) : Decidable ((ioManager input room).allow m o r) :=
  match o, r with
  | .retrieveInput minLength, (answer : Int × Option (List Byte)) =>
      inferInstanceAs (Decidable
        (ntOk answer.1 = true → answer.2 = some input ∧ minLength ≤ input.length))
  | .retrieveOutput minLength, (answer : Int × Nat) =>
      inferInstanceAs (Decidable (ntOk answer.1 = true → answer.2 = room ∧ minLength ≤ room))
  | .store _ _, _ => isTrue trivial
  | .complete _ _, _ => isTrue trivial
  | .getIoQueue, _ => isTrue trivial

instance (input : List Byte) (room : Nat) (m : IoRequest) (t : List (Event RequestEffect)) :
    Decidable ((ioManager input room).Allowed m t) :=
  @Machine.decidableAllowed _ (ioManager input room) (decidableAnswer input room) m t

instance (op : EntryPoint) (t : List (Event (DevEffect.sum RequestEffect))) :
    Decidable (op.HandedOver t) :=
  match op with
  | .control _ input room =>
      haveI : DecidablePred fun e : Event RequestEffect =>
        Wdf.HandedOver input room e.op e.resp :=
        fun e => decidableHandedOver input room e.op e.resp
      List.decidableBAll _ (rightEvents t)
  | .tick | .deviceAdd | .prepare _ _ | .release => isTrue trivial

end Kmdf
