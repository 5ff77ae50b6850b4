import NabuCharger.Kmdf.RequestBench
import NabuCharger.Kmdf.RequestRules

/-!
# `Proofs.RequestProtocol`: a control request from arrival to completion

Two views of a run of the driver with its requests as bytes. The framework sees each request: it is
completed once, its buffers are used within their lengths, and the client gets nothing that was not
stored for it (`request_protocol`). The device sees the operations the bytes stand for: a request
that is rejected is not there at all (`requests_refine`).
-/

set_option autoImplicit false

namespace Kmdf

open Effectful Ln8000 Wdf Ioctl

/-! ### The framework's view -/

/-- What has been given out and stored fits the client's buffer, and so does the reply. -/
structure WithinRoom (room : Nat) (m : IoRequest) : Prop where
  output : ∀ length, m.output = some length → length = room
  held : ∀ i, (m.held i).isSome = true → i < room
  reply : ∀ status information, m.reply = some (status, information) → information ≤ room

/-- A request that has just arrived has no information in it yet. -/
theorem withinRoom_arrived (room : Nat) : WithinRoom room .arrived where
  output _ h := nomatch h
  held _ h := nomatch h
  reply _ _ h := nomatch h

/-- The step lemma. -/
theorem WithinRoom.next {input : List Byte} {room : Nat} {m : IoRequest} (hm : WithinRoom room m)
    {o : RequestOp} {r : RequestEffect.Resp o} (hrequire : (ioManager input room).require m o)
    (hallow : (ioManager input room).allow m o r) :
    WithinRoom room ((ioManager input room).next m o r) := by
  cases o with
  | retrieveInput minLength => exact hm
  | retrieveOutput minLength =>
      show WithinRoom room (if ntOk r.1 = true then { m with output := some r.2 } else m)
      split
      · next hok =>
          refine ⟨fun length hlength => ?_, hm.held, hm.reply⟩
          rw [← Option.some.inj hlength]
          exact (hallow hok).1
      · exact hm
  | store offset cells =>
      obtain ⟨_, length, houtput, hfits⟩ := hrequire
      have hroom := hm.output length houtput
      refine ⟨hm.output, fun i hi => ?_, hm.reply⟩
      have hheld : (IoRequest.storeAt m.held offset cells i).isSome = true := hi
      rw [IoRequest.storeAt] at hheld
      split at hheld
      · omega
      · exact hm.held i hheld
  | getIoQueue => exact hm
  | complete status information =>
      refine ⟨hm.output, hm.held, fun status' information' hreply => ?_⟩
      cases hreply
      -- The last byte of the reply is held, and a held byte is within the room.
      cases information with
      | zero => exact Nat.zero_le room
      | succ last => exact hm.held last (hrequire.2 last (Nat.lt_succ_self last))

section
variable [LoopFuel] {code room : Nat} {input : List Byte}

/-- Every control call completes its request. The split is on the code, one handler each. -/
theorem control_wp (s : DriverState) : ((EntryPoint.control code input room).run).wp
    (manager input room) Completed s .arrived :=
  evtIoDeviceControl_answers input.length code s .arrived rfl

/-- At any point of any run, a control request has been used by the rules of the framework: within
its buffers, and not after its completion. When its handler has returned, it is completed, and what
the client gets fits its buffer. -/
theorem request_protocol :
    (∀ s (log : List (Entry _ _ _)), Session EntryPoint.run s log → ∀ entry ∈ log,
      entry.op = .control code input room →
        (ioManager input room).Meets .arrived (rightEvents entry.trace)) ∧
    ∀ s turns s', History EntryPoint.run s turns s' → ∀ turn ∈ turns,
      turn.op = .control code input room →
        (ioManager input room).Allowed .arrived (rightEvents turn.trace) →
        ∃ status information, ((ioManager input room).after .arrived
          (rightEvents turn.trace)).reply = some (status, information) ∧ information ≤ room := by
  -- every run cut anywhere meets the manager's rules, since `control_wp` holds at each step
  have hmeets : ∀ (s : DriverState) t q,
      Prog.Steps ((EntryPoint.control code input room).run s) t q →
        (ioManager input room).Meets .arrived (rightEvents t) := by
    intro s t q hsteps
    exact Machine.Meets.of_beside (Prog.Steps.meets hsteps (control_wp s).prog)
  constructor
  · intro s log h entry hmem hop
    have hall := h.forall_mem (P := fun _ op t => op = .control code input room →
      (ioManager input room).Meets .arrived (rightEvents t)) fun op s t q hsteps hop => by
        subst hop
        exact hmeets s t q hsteps
    exact hall entry hmem hop
  · intro s turns s' h turn hmem hop hallow
    have hrun := h.yields_of_mem turn hmem
    rw [hop] at hrun
    have hdone : Completed turn.result turn.finish
        ((manager input room).after .arrived turn.trace) :=
      Prog.Yields.post hrun (control_wp turn.start).prog (Machine.allowed_beside.2 hallow)
    have hwithin : WithinRoom room ((ioManager input room).after .arrived
        (rightEvents turn.trace)) :=
      (hmeets _ _ _ hrun).keeps (fun _ _ _ hm hrequire hallow => hm.next hrequire hallow) hallow
        (withinRoom_arrived room)
    have hafter := Machine.after_beside (E := DevEffect) (M := ioManager input room)
      (t := turn.trace) .arrived
    have hreplied := (congrArg (fun m : IoRequest => m.reply.isSome = true) hafter).mp hdone
    obtain ⟨⟨status, information⟩, hreply⟩ := Option.isSome_iff_exists.1 hreplied
    exact ⟨status, information, hreply, hwithin.reply status information hreply⟩

end

/-- A client that reads the register 0. -/
def readRequest : EntryPoint := .control ioctlReadReg (List.replicate 8 0) 8

/-- The hardware is there, a register is read, and a second request is too short. -/
def readTwice : List EntryPoint :=
  [.prepare none none, readRequest, .control ioctlReadReg (List.replicate 4 0) 8]

/-- What the request makes of a driver that was only loaded. -/
def earlyRead : List (Event (DevEffect.sum RequestEffect)) :=
  ((@EntryPoint.run ⟨0⟩ readRequest DriverState.new).runWith RequestBench.answer
    ⟨.around Chip.fiveVolt, [(List.replicate 8 0, 8)]⟩).1

/-- A client that is too early is served by the rules, with four calls to the framework. After the
hardware is there, the request is completed, and its reply fits the eight bytes of its buffer. -/
theorem request_protocol_on_bench :
    ((rightEvents earlyRead).length = 4 ∧
      (ioManager (List.replicate 8 0) 8).Meets .arrived (rightEvents earlyRead)) ∧
    ∃ turns s', History (@EntryPoint.run ⟨0⟩) DriverState.new turns s' ∧ turns.length = 3 ∧
      ∃ turn ∈ turns, turn.op = readRequest ∧
        ∃ status information, ((ioManager (List.replicate 8 0) 8).after .arrived
          (rightEvents turn.trace)).reply = some (status, information) ∧ information ≤ 8 := by
  constructor
  · refine ⟨by decide +kernel, ?_⟩
    obtain ⟨q, hsteps, -⟩ := Prog.steps_runWith RequestBench.answer
      (@EntryPoint.run ⟨0⟩ readRequest DriverState.new)
      ⟨.around Chip.fiveVolt, [(List.replicate 8 0, 8)]⟩
    exact (@request_protocol ⟨0⟩ ioctlReadReg 8 (List.replicate 8 0)).1 _ _ (.cut hsteps) _
      (List.mem_singleton_self _) rfl
  · -- the second read comes after the first was completed, on the state the first left
    have hrun : (requestTurns (.around Chip.fiveVolt) readTwice).map (fun ran =>
        ran.1[1]?.any fun turn => decide
          ((ioManager (List.replicate 8 0) 8).Allowed .arrived (rightEvents turn.trace))) =
        some true := by decide +kernel
    obtain ⟨⟨turns, s'⟩, hturns, hany⟩ := Option.map_eq_some_iff.1 hrun
    obtain ⟨turn, hturn, hallow⟩ := (Option.any_eq_true _ _).1 hany
    have hhistory := history_requestTurns hturns
    have hops : turns.map Turn.op = readTwice := History.op_execute hturns
    have hop : turn.op = readRequest := by
      have hsecond : (turns.map Turn.op)[1]? = some readRequest := by
        rw [hops]
        rfl
      rw [List.getElem?_map, hturn] at hsecond
      exact Option.some.inj hsecond
    refine ⟨turns, s', hhistory, ?_, turn, List.mem_of_getElem? hturn, hop, ?_⟩
    · rw [← List.length_map Turn.op, hops]
      rfl
    · exact (@request_protocol ⟨0⟩ ioctlReadReg 8 (List.replicate 8 0)).2 _ turns s' hhistory turn
        (List.mem_of_getElem? hturn) hop (of_decide_eq_true hallow)

/-! ### The device's view -/

section
variable [LoopFuel] {s s' : DriverState}

/-- The turn of the driver behind a turn of its entry points. -/
def driverTurn (turn : Turn (DevEffect.sum RequestEffect) Empty DriverState Unit EntryPoint) :
    Option (Turn DevEffect Empty DriverState Unit DriverOp) :=
  turn.op.driverOp.map fun op =>
    ⟨op, turn.start, leftEvents turn.trace, turn.result, turn.finish⟩

omit [LoopFuel] in
/-- An entry point does not fail. -/
theorem eq_ok_of_never (r : Except Empty Unit) : r = .ok () := by
  cases r with
  | ok a => rfl
  | error e => exact e.elim

/-- An entry point did what it stands for. -/
theorem entryPoint_did {op : EntryPoint} {t : List (Event (DevEffect.sum RequestEffect))}
    {r : Except Empty Unit} (h : op.run.Yields s t r s')
    (hgiven : op.HandedOver t) : Did s (leftEvents t) s' op.driverOp := by
  obtain rfl := eq_ok_of_never r
  cases op with
  | tick => exact Proc.Yields.inl_cases h
  | deviceAdd => exact Proc.Yields.inl_cases h
  | prepare key usbinId => exact Proc.Yields.inl_cases h
  | release => exact Proc.Yields.inl_cases h
  | control code input room => exact evtIoDeviceControl_did h hgiven

/-- A run of the driver with its requests as bytes is a run of its operations: those the bytes stand
for, with the same exchanges, from the same states. The other requests do not change the state, and
do nothing but read the clock. -/
theorem requests_refine
    {turns : List (Turn (DevEffect.sum RequestEffect) Empty DriverState Unit EntryPoint)}
    (h : History EntryPoint.run s turns s')
    (hgiven : ∀ turn ∈ turns, turn.op.HandedOver turn.trace) :
    History DriverOp.run s (turns.filterMap driverTurn) s' ∧
      ∀ turn ∈ turns, turn.op.driverOp = none →
        turn.finish = turn.start ∧ ∀ e ∈ leftEvents turn.trace, e.op = .inr .now := by
  induction h with
  | done s => exact ⟨.done s, fun _ hmem => nomatch hmem⟩
  | @step op s middle s' t r turns hrun hrest ih =>
      obtain ⟨hlater, hothers⟩ := ih fun turn hmem => hgiven turn (List.mem_cons_of_mem _ hmem)
      have hdid := entryPoint_did hrun (hgiven _ (List.mem_cons_self ..))
      obtain rfl := eq_ok_of_never r
      cases hop : op.driverOp with
      -- The bytes stand for an operation: its turn is the next one of the driver.
      | some driverOp =>
          rw [hop] at hdid
          have hturn : driverTurn ⟨op, s, t, .ok (), middle⟩ =
              some ⟨driverOp, s, leftEvents t, .ok (), middle⟩ := by
            rw [driverTurn, hop, Option.map_some]
          rw [List.filterMap_cons_some hturn]
          refine ⟨.step hdid hlater, fun turn hmem hnone => ?_⟩
          rcases List.mem_cons.1 hmem with rfl | hlate
          · rw [hop] at hnone
            cases hnone
          · exact hothers turn hlate hnone
      -- They do not: the turn drops out, and the next one starts from the same state.
      | none =>
          rw [hop] at hdid
          obtain ⟨rfl, hclock⟩ := hdid
          have hturn : driverTurn ⟨op, middle, t, .ok (), middle⟩ = none := by
            rw [driverTurn, hop, Option.map_none]
          rw [List.filterMap_cons_none hturn]
          refine ⟨hlater, fun turn hmem hnone => ?_⟩
          rcases List.mem_cons.1 hmem with rfl | hlate
          · exact ⟨rfl, hclock⟩
          · exact hothers turn hlate hnone

end

/-- The second request is not there for the device. -/
theorem requests_refine_on_bench : ∃ turns s',
    History (@EntryPoint.run ⟨0⟩) DriverState.new turns s' ∧ turns.length = 3 ∧
      History (@DriverOp.run ⟨0⟩) DriverState.new (turns.filterMap driverTurn) s' ∧
        (turns.filterMap driverTurn).length = 2 := by
  have hrun : (requestTurns (.around Chip.fiveVolt) readTwice).map (fun ran =>
      decide (∀ turn ∈ ran.1, turn.op.HandedOver turn.trace) && decide (ran.1.length = 3) &&
        decide ((ran.1.filterMap driverTurn).length = 2)) = some true := by decide +kernel
  obtain ⟨⟨turns, s'⟩, hturns, hall⟩ := Option.map_eq_some_iff.1 hrun
  simp only [Bool.and_eq_true, decide_eq_true_eq] at hall
  obtain ⟨⟨hgiven, hthree⟩, htwo⟩ := hall
  have hhistory := history_requestTurns hturns
  exact ⟨turns, s', hhistory, hthree, (@requests_refine ⟨0⟩ _ _ turns hhistory hgiven).1, htwo⟩

end Kmdf
