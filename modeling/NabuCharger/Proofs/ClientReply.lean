import NabuCharger.Kmdf.Client
import NabuCharger.Kmdf.RequestTrace
import NabuCharger.Proofs.RequestProtocol

/-!
# `Proofs.ClientReply`: from the client to the pump and back

A command of the client is a request to the driver, and what the client shows is read out of the
bytes that come back. Between the two there are two declarations of every structure, in two
languages, and a buffer. `client_sees` goes through all of it: what the client shows is what the
driver's handler answered, in the run it made.
-/

set_option autoImplicit false

namespace Kmdf.Client

open Effectful Ln8000 Wdf Ioctl

variable {α : Type} {s s' : DriverState} {t : List (Event (DevEffect.sum RequestEffect))}
  {r : Except Empty Unit} {input : List Byte} {room : Nat} {m : IoRequest}

/-! ### What was returned -/

/-- What was stored at the start of an untouched buffer. -/
theorem storeAt_zero (held : Nat → Option Cell) (cells : List Cell) :
    ((List.range cells.length).map fun i => (IoRequest.storeAt held 0 cells i).getD none) =
      cells := by
  apply List.ext_getElem
  · rw [List.length_map, List.length_range]
  · intro i hi hcell
    rw [List.getElem_map, List.getElem_range, IoRequest.storeAt,
      if_pos ⟨Nat.zero_le i, by omega⟩, Nat.sub_zero, List.getElem?_eq_getElem hcell,
      Option.getD_some]

/-- The output buffer is one call to the framework, and what follows is given its length. -/
theorem outputBuffer_bind {minLength : Nat} {f : Except Int Nat → RequestM Unit}
    (h : (outputBuffer minLength >>= f).Yields s t r s') :
    ∃ (answer : Int × Nat) (rest : List (Event (DevEffect.sum RequestEffect))),
      rightEvents t = (⟨.retrieveOutput minLength, answer⟩ : Event RequestEffect) ::
        rightEvents rest ∧
      (f (if ntOk answer.1 = false then .error answer.1 else .ok answer.2)).Yields s rest r s' := by
  obtain ⟨t₁, t₂, value, s₁, rfl, hread, hrest⟩ | ⟨e, _, _⟩ := h.bind_cases
  · obtain ⟨answer, rest, _, hright, hvalue⟩ := request_bind hread
    refine ⟨answer, t₂, ?_, ?_⟩
    · -- the check of the buffer makes no exchange with the device
      have hquiet : rightEvents rest = [] := by
        split at hvalue <;> (obtain ⟨rfl, _, _⟩ := hvalue.pure_cases; rfl)
      rw [rightEvents_append, hright, hquiet, List.singleton_append]
    · split at hvalue
      · next hbad =>
          obtain ⟨_, hsame, rfl⟩ := hvalue.pure_cases
          cases hsame
          rw [if_pos hbad]
          exact hrest
      · next hgood =>
          obtain ⟨_, hsame, rfl⟩ := hvalue.pure_cases
          cases hsame
          rw [if_neg hgood]
          exact hrest
  · exact e.elim

/-- A structure that is written into a buffer that is long enough is returned. -/
theorem writeOutput_returned {L : Layout α} {value : α}
    (h : (writeOutput L value).Yields s t r s')
    (hgiven : ∀ e ∈ rightEvents t, HandedOver input room e.op e.resp) (hroom : L.size ≤ room) :
    ((ioManager input room).after m (rightEvents t)).returned = some (L.encode value) := by
  obtain ⟨answer, rest, hright, hrest⟩ := outputBuffer_bind h
  rw [hright] at hgiven
  obtain ⟨hok, _⟩ := hgiven _ (List.mem_cons_self ..) hroom
  rw [hok, if_neg (by decide)] at hrest
  obtain ⟨_, last, _, hstored, hend⟩ := request_bind hrest
  obtain ⟨_, _, hdone, _, _⟩ := request_cases hend
  rw [hright, hstored, hdone]
  -- the buffer before the store does not matter
  have hcells := fun held => storeAt_zero held (L.encode value)
  simp only [L.length_encode] at hcells
  exact congrArg some (hcells _)

/-- The driver's work, and its answer in the buffer. -/
theorem device_returned {β : Type} {x : DriverM α} {L : Layout β} {g : α → β}
    (h : (device x >>= fun a => writeOutput L (g a)).Yields s t r s')
    (hgiven : ∀ e ∈ rightEvents t, HandedOver input room e.op e.resp) (hroom : L.size ≤ room) :
    ∃ a, x.Yields s (leftEvents t) (.ok a) s' ∧
      ((ioManager input room).after m (rightEvents t)).returned = some (L.encode (g a)) := by
  obtain ⟨t₁, rest, a, s₁, hleft, hright, hx, hrest⟩ := Proc.Yields.inl_bind h
  obtain ⟨hquiet, rfl⟩ := framed_writeOutput L (g a) _ _ _ _ hrest
  rw [hquiet, List.append_nil] at hleft
  rw [hright] at hgiven ⊢
  rw [hleft]
  exact ⟨a, hx, writeOutput_returned hrest hgiven hroom⟩

/-- A structure in, the driver's work, the structure out. -/
theorem withInput_returned {β γ : Type} {L : Layout α} {R : Layout γ} {x : α → DriverM β}
    {g : α → β → γ}
    (h : (withInput input.length L fun req => do
      let answer ← device (x req)
      writeOutput R (g req answer)).Yields s t r s')
    (hgiven : ∀ e ∈ rightEvents t, HandedOver input room e.op e.resp)
    (hlong : L.size ≤ input.length) (hroom : R.size ≤ room) :
    ∃ answer, (x (L.decode (input.take L.size))).Yields s (leftEvents t) (.ok answer) s' ∧
      ((ioManager input room).after m (rightEvents t)).returned =
        some (R.encode (g (L.decode (input.take L.size)) answer)) := by
  rw [withInput, if_neg (Nat.not_lt.2 hlong)] at h
  obtain ⟨answer, rest, hleft, hright, hrest⟩ := readInput_bind h
  rw [hright] at hgiven
  -- the input is long enough, so its bytes are decoded
  have hread := inputOf_handedOver (hgiven _ (List.mem_cons_self ..)) hlong
  rw [hread] at hrest
  rw [hleft, hright]
  exact device_returned hrest (fun e hmem => hgiven e (List.mem_cons_of_mem _ hmem)) hroom

/-! ### What the client reads -/

/-- The client's structure is the driver's, whatever stands in the padding. -/
theorem statusLayout_decode (bytes : List Byte) :
    (statusLayout.decode bytes).status = Ioctl.statusLayout.decode bytes := rfl

/-- What was returned whole is read back. -/
theorem readStruct_givenBack {L : Layout α} {value : α} {ok : Bool} {bytes : List Byte}
    (hreturned : m.returned = some (L.encode value)) (h : GivenBack m L.size ok bytes) :
    ok = true ∧ L.decode ((bytes ++ List.replicate L.size 0).take L.size) = value := by
  rw [GivenBack, hreturned] at h
  obtain ⟨hok, filled, hfilled, rfl⟩ := h
  have hlength : filled.length = L.size := hfilled.length_eq.trans (L.length_encode value)
  refine ⟨hok, L.decode_of_fills value _ ?_⟩
  rw [L.length_encode, Nat.sub_self, List.replicate_zero, List.append_nil,
    List.take_append_of_le_length (by omega), List.take_of_length_le (by omega)]
  exact hfilled

/-- An answer without padding that fills the array. -/
theorem givenBack_whole {bytes : List Byte} (h : m.returned = some (bytes.map some)) :
    GivenBack m bytes.length true bytes := by
  rw [GivenBack, h]
  refine ⟨rfl, bytes, Fills.map_some_iff.2 rfl, ?_⟩
  rw [List.length_map, Nat.sub_self, List.replicate_zero, List.append_nil]

/-! ### The commands -/

/-- The code of an outcome of the pump. -/
theorem outcomeCode_bounds {β : Type} (out : Except PumpError β) :
    -20 ≤ outcomeCode out ∧ outcomeCode out ≤ 0 := by
  cases out with
  | ok a => simp [outcomeCode]
  | error err => cases err <;> simp [outcomeCode, pumpErrorCode]

/-- An error code that fits its field is zero there only if it is zero. -/
theorem ofInt_eq_zero {code : Int} (hlow : -20 ≤ code) (hhigh : code ≤ 0) :
    BitVec.ofInt 32 code = 0 ↔ code = 0 := by
  constructor
  · intro h
    have hcode : (BitVec.ofInt 32 code).toInt = code :=
      BitVec.toInt_ofInt_eq_self (by decide) (by omega) (by omega)
    rw [h] at hcode
    exact hcode.symm
  · rintro rfl
    rfl

/-- Without a pump nothing is done; with one, the program ran on it. -/
theorem withPump_cases {β : Type} {x : HeldM β} {t : List (Event DevEffect)} {out : Option β}
    (h : (withPump x).Yields s t (.ok out) s') :
    out = none ∨ ∃ held b held', x.Yields held t (.ok b) held' ∧ out = some b := by
  rw [Proc.Yields, withPump] at h
  -- without a pump the body does not run
  cases hpump : s.pump with
  | none =>
      rw [hpump] at h
      cases h with
      | refl => exact .inl rfl
  | some p =>
      rw [hpump] at h
      obtain ⟨⟨r, held'⟩, heq, hx⟩ := Prog.Yields.map_cases h
      cases r with
      | ok b =>
          cases heq
          exact .inr ⟨_, b, held', hx, rfl⟩
      | error e => exact e.elim

/-- The error code of a register read. -/
theorem handleReadReg_bounds [LoopFuel] {address : Byte} {t : List (Event DevEffect)}
    {answer : RegAnswer} (h : (handleReadReg address).Yields s t (.ok answer) s') :
    -20 ≤ answer.errorCode ∧ answer.errorCode ≤ 0 := by
  obtain ⟨t₁, t₂, out, s₁, rfl, hpump, hrest⟩ | ⟨e, _, _⟩ := h.bind_cases
  · obtain ⟨_, hanswer, _⟩ := hrest.pure_cases
    cases hanswer
    obtain rfl | ⟨held, b, held', hx, rfl⟩ := withPump_cases hpump
    · exact ⟨by decide, by decide⟩
    · obtain ⟨_, _, result, _, _, _, hend⟩ | ⟨e, _, _⟩ := hx.bind_cases
      · obtain ⟨_, hb, _⟩ := hend.modify_bind.pure_cases
        cases hb
        exact outcomeCode_bounds result
      · exact e.elim
  · exact e.elim

/-- What the client shows after the driver went from `s` to `s'` by the exchanges `t`. -/
def Command.Sees [LoopFuel] (command : Command) (s : DriverState) (t : List (Event DevEffect))
    (s' : DriverState) (shown : Except Failure Shown) : Prop :=
  match command with
  | .status => ∃ answer, handleGetStatus.Yields s t (.ok answer) s' ∧
      shown = .ok (.status answer.cells)
  | .sessions => s' = s ∧ ∃ now, t = [⟨.inr .now, now⟩] ∧
      shown = .ok (.sessions (sessionsOf s.telemetry now))
  | .read address => ∃ answer, (handleReadReg address).Yields s t (.ok answer) s' ∧
      shown = if answer.errorCode = 0 then .ok (.register answer.value)
        else .error (.driver (BitVec.ofInt 32 answer.errorCode))
  | .write address value => ∃ answer, (handleWriteReg address value).Yields s t (.ok answer) s' ∧
      shown = .ok .wrote

/-- The client's register request. -/
theorem regRequest_decode (address value : Byte) :
    regRequestLayout.decode ([address, value, 0, 0, 0, 0, 0, 0].take regRequestLayout.size) =
      { addr := address, value := value, reserved := 0, errorCode := 0 } := by
  have hbyte : ∀ b : Byte, BitVec.ofNat 8 (loadLe [b]) = b := by
    intro b
    rw [loadLe, loadLe, Nat.mul_zero, Nat.add_zero, BitVec.ofNat_toNat, BitVec.setWidth_eq]
  show (⟨BitVec.ofNat 8 (loadLe [address]), BitVec.ofNat 8 (loadLe [value]), _, _⟩ :
    Ln8000RegRequest) = _
  rw [hbyte, hbyte]
  rfl

/-- The answer of a read, as the client takes it. -/
theorem read_finish {address : Byte} {answer : RegAnswer} {bytes : List Byte}
    (hbounds : -20 ≤ answer.errorCode ∧ answer.errorCode ≤ 0)
    (hread : readStruct regRequestLayout bytes =
      Ln8000RegRequest.read { addr := address, value := 0, reserved := 0, errorCode := 0 }
        answer) :
    (Command.read address).finish true bytes =
      if answer.errorCode = 0 then .ok (.register answer.value)
      else .error (.driver (BitVec.ofInt 32 answer.errorCode)) := by
  simp only [Command.finish, hread, Ln8000RegRequest.read, echoError]
  by_cases hzero : answer.errorCode = 0
  · simp [hzero]
  · have hcode : BitVec.ofInt 32 answer.errorCode ≠ 0 := fun h =>
      hzero ((ofInt_eq_zero hbounds.1 hbounds.2).1 h)
    rw [if_neg (by decide), if_neg hzero, if_neg hzero, if_neg hzero, if_pos hcode]

/-- A command of the client from any state of the driver: the request goes through, and the client
shows what the driver's handler made of it. -/
theorem client_sees [LoopFuel] {command : Command}
    (h : command.request.run.Yields s t r s') (hgiven : command.request.HandedOver t)
    {ok : Bool} {bytes : List Byte}
    (hback : GivenBack ((ioManager command.buffer command.outputSize).after .arrived
      (rightEvents t)) command.outputSize ok bytes) :
    command.Sees s (leftEvents t) s' (command.finish ok bytes) := by
  -- one case per command: what the device ran, and what its reply decodes to
  cases command with
  | status =>
      have hrun : requestGetStatus.Yields s t r s' := h
      obtain ⟨answer, hx, hreturned⟩ := device_returned hrun hgiven (Nat.le_refl 64)
      obtain ⟨rfl, hread⟩ := readStruct_givenBack hreturned hback
      refine ⟨answer, hx, ?_⟩
      show Except.ok (Shown.status (statusLayout.decode _).status) = _
      rw [statusLayout_decode]
      exact congrArg (Except.ok ∘ Shown.status) hread
  | sessions =>
      have hrun : requestGetSessions.Yields s t r s' := h
      obtain ⟨answer, hx, hreturned⟩ := device_returned hrun hgiven (Nat.le_refl 48)
      obtain ⟨rfl, hread⟩ := readStruct_givenBack hreturned hback
      obtain ⟨now, rest, hleft, hrest⟩ := (hx.get_bind).perform_bind
      obtain ⟨rfl, hanswer, rfl⟩ := hrest.pure_cases
      cases hanswer
      exact ⟨rfl, now, hleft, congrArg (Except.ok ∘ Shown.sessions) hread⟩
  | read address =>
      have hrun : (requestReadReg (Command.read address).buffer.length).Yields s t r s' := h
      obtain ⟨answer, hx, hreturned⟩ :=
        withInput_returned hrun hgiven (Nat.le_refl 8) (Nat.le_refl 8)
      obtain ⟨rfl, hread⟩ := readStruct_givenBack hreturned hback
      have hdecode : regRequestLayout.decode
          ((Command.read address).buffer.take regRequestLayout.size) = _ :=
        regRequest_decode address 0
      rw [hdecode] at hx hread
      refine ⟨answer, hx, ?_⟩
      exact read_finish (handleReadReg_bounds hx) hread
  | write address value =>
      have hrun : (requestWriteReg (Command.write address value).buffer.length).Yields s t r s' := h
      obtain ⟨answer, hx, hreturned⟩ :=
        withInput_returned hrun hgiven (Nat.le_refl 8) (Nat.le_refl 8)
      obtain ⟨rfl, _⟩ := readStruct_givenBack hreturned hback
      have hdecode : regRequestLayout.decode
          ((Command.write address value).buffer.take regRequestLayout.size) = _ :=
        regRequest_decode address value
      rw [hdecode] at hx
      exact ⟨answer, hx, rfl⟩

/-! ### A read on the bench -/

/-- The command, after the hardware was prepared: the state it finds, its exchanges, and the state
it leaves. -/
def runPrepared (chip : Chip) (command : Command) :
    Option (DriverState × List (Event (DevEffect.sum RequestEffect)) × DriverState) :=
  let prepared := (@EntryPoint.run ⟨0⟩ (.prepare none none) DriverState.new).runWith
    RequestBench.answer
    { bench := .around chip, waiting := [(command.buffer, command.outputSize)] }
  prepared.2.2.bind fun out =>
    let ran := (@EntryPoint.run ⟨0⟩ command.request out.2).runWith RequestBench.answer prepared.2.1
    ran.2.2.map fun ended => (out.2, ran.1, ended.2)

/-- What the bench answered is a run of the entry point. -/
theorem yields_runPrepared {chip : Chip} {command : Command}
    (h : runPrepared chip command = some (s, t, s')) :
    ∃ r, (@EntryPoint.run ⟨0⟩ command.request).Yields s t r s' := by
  obtain ⟨out, _, hran⟩ := Option.bind_eq_some_iff.1 h
  obtain ⟨⟨r, last⟩, hended, heq⟩ := Option.map_eq_some_iff.1 hran
  cases heq
  exact ⟨r, Prog.yields_runWith (E := DevEffect.sum RequestEffect) RequestBench.answer _ _ _ hended⟩

/-- The bytes of the answer: the address, the device id, and no error. -/
def deviceIdReply : List Byte := [Regs.deviceId, Regs.deviceIdValue, 0, 0, 0, 0, 0, 0]

/-- The device id is read from the chip and shown. -/
theorem client_sees_deviceId : ∃ s t s',
    @Command.Sees ⟨0⟩ (.read Regs.deviceId) s t s' (.ok (.register Regs.deviceIdValue)) := by
  have hrun : (runPrepared .fiveVolt (.read Regs.deviceId)).map (fun ran =>
      decide ((Command.read Regs.deviceId).request.HandedOver ran.2.1) &&
        decide (((ioManager (Command.read Regs.deviceId).buffer 8).after .arrived
          (rightEvents ran.2.1)).returned = some (deviceIdReply.map some))) = some true := by
    decide +kernel
  obtain ⟨⟨s, t, s'⟩, hran, hall⟩ := Option.map_eq_some_iff.1 hrun
  simp only [Bool.and_eq_true, decide_eq_true_eq] at hall
  obtain ⟨hgiven, hreturned⟩ := hall
  obtain ⟨r, hyields⟩ := yields_runPrepared hran
  exact ⟨s, leftEvents t, s', @client_sees _ _ _ _ ⟨0⟩ (.read Regs.deviceId) hyields hgiven true
    deviceIdReply (givenBack_whole hreturned)⟩

end Kmdf.Client
