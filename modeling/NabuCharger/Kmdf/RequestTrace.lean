import NabuCharger.Kmdf.Requests

/-!
# `Kmdf.RequestTrace`: what a request did

A request is bytes. `EntryPoint.driverOp` says which operation of the driver they stand for, if
any, and `Did` that a handler did just that: the driver's side of its trace is a run of the
operation, between the same states. A request that stands for none does nothing but read the
clock.

The handlers are taken apart along their traces: `device` made the exchanges of the driver's
program, and what surrounds it made none (`Framed`).
-/

set_option autoImplicit false

namespace Kmdf

open Effectful Ln8000 Wdf Ioctl

/-! ### Requests as operations -/

/-- The input as a structure, if it is long enough. -/
def inputAs {α : Type} (L : Layout α) (input : List Byte) : Option α :=
  if input.length < L.size then none else some (L.decode (input.take L.size))

/-- The operation a control request stands for. -/
def controlOp (code : Nat) (input : List Byte) : Option DriverOp :=
  if code = ioctlGetStatus then some .getStatus
  else if code = ioctlReadReg then
    (inputAs regRequestLayout input).map fun req => .readReg req.addr
  else if code = ioctlWriteReg then
    (inputAs regRequestLayout input).map fun req => .writeReg req.addr req.value
  else if code = ioctlSetLimits then
    (inputAs limitsRequestLayout input).map fun req =>
      .setLimits req.iinUa.toNat req.vbatUv.toNat
  else if code = ioctlSetMode then
    (inputAs modeRequestLayout input).map fun req => .setMode req.mode.toNat
  else if code = ioctlSetCharge then
    (inputAs chargeRequestLayout input).map fun req => .setCharge (decide (req.on ≠ 0))
  else if code = ioctlRunHvdcp then
    if input = [] then some (.runHvdcp 1)
    else (inputAs hvdcpRequestLayout input).map fun req => .runHvdcp req.command.toNat
  else none

/-- The operation an entry point stands for. -/
def EntryPoint.driverOp : EntryPoint → Option DriverOp
  | .tick => some .tick
  | .deviceAdd => some .deviceAdd
  | .prepare key usbinId => some (.prepare key usbinId)
  | .release => some .release
  | .control code input _ => controlOp code input

/-- The framework handed the buffers of the request over. -/
def EntryPoint.HandedOver (op : EntryPoint) (t : List (Event (DevEffect.sum RequestEffect))) :
    Prop :=
  match op with
  | .control _ input room => ∀ e ∈ rightEvents t, Wdf.HandedOver input room e.op e.resp
  | .tick | .deviceAdd | .prepare _ _ | .release => True

section
variable [LoopFuel]

/-- From `s` to `s'`, the driver did the operation, or it did nothing but read the clock. -/
def Did (s : DriverState) (t : List (Event DevEffect)) (s' : DriverState) :
    Option DriverOp → Prop
  | some op => op.run.Yields s t (.ok ()) s'
  | none => s' = s ∧ ∀ e ∈ t, e.op = .inr .now

end

/-! ### The pieces of a handler -/

/-- What surrounds the driver's work: it makes no exchange with the device and leaves the state. -/
def Framed {α : Type} (x : RequestM α) : Prop :=
  ∀ s t r s', x.Yields s t r s' → leftEvents t = [] ∧ s' = s

variable {α β : Type} {s s' : DriverState} {t : List (Event (DevEffect.sum RequestEffect))}

/-- A sequence of two framed programs. -/
theorem Framed.bind {x : RequestM α} {f : α → RequestM β} (hx : Framed x)
    (hf : ∀ a, Framed (f a)) : Framed (x >>= f) := by
  intro s t r s' h
  obtain ⟨t₁, t₂, a, s₁, rfl, hfirst, hrest⟩ | ⟨e, _, _⟩ := h.bind_cases
  · obtain ⟨hleft, hs⟩ := hx _ _ _ _ hfirst
    obtain ⟨hleft', hs'⟩ := hf a _ _ _ _ hrest
    exact ⟨by rw [leftEvents_append, hleft, hleft', List.nil_append], hs'.trans hs⟩
  · exact e.elim

/-- A value does nothing to the device. -/
theorem framed_pure (a : α) : Framed (pure a : RequestM α) := by
  intro s t r s' h
  obtain ⟨rfl, _, hs⟩ := h.pure_cases
  exact ⟨rfl, hs⟩

/-- A call to the framework does nothing to the device. -/
theorem framed_request (o : RequestOp) : Framed (request o : RequestM (RequestEffect.Resp o)) := by
  intro s t r s' h
  obtain ⟨_, hleft, _, _, hs⟩ := request_cases h
  exact ⟨hleft, hs⟩

/-- So does the completion. -/
theorem framed_complete (status : Int) (information : Nat) :
    Framed (complete status information : RequestM Unit) :=
  framed_request _

/-- So does a store into the output buffer. -/
theorem framed_store (offset : Nat) (cells : List Cell) :
    Framed (store offset cells : RequestM Unit) :=
  framed_request _

/-- A choice between two framed programs. -/
theorem framed_ite {c : Prop} [Decidable c] {x y : RequestM α} (hx : Framed x) (hy : Framed y) :
    Framed (if c then x else y) := by
  by_cases h : c
  · rw [if_pos h]
    exact hx
  · rw [if_neg h]
    exact hy

/-- The output buffer is asked for and looked at. -/
theorem framed_outputBuffer (minLength : Nat) : Framed (outputBuffer minLength) :=
  (framed_request _).bind fun _ => framed_ite (framed_pure _) (framed_pure _)

/-- A structure is stored and the request completed. -/
theorem framed_writeOutput (L : Layout α) (value : α) : Framed (writeOutput L value) := by
  refine (framed_outputBuffer _).bind fun output => ?_
  cases output with
  | error status => exact framed_complete _ _
  | ok _ => exact (framed_store _ _).bind fun _ => framed_complete _ _

/-- The input is asked for and decoded. -/
theorem framed_readInput (L : Layout α) : Framed (readInput L) :=
  (framed_request _).bind fun _ => framed_pure _

/-- Samples are stored one behind the other. -/
theorem framed_storeSamples (samples : List Ln8000Sample) :
    ∀ written, Framed (storeSamples samples written) := by
  induction samples with
  | nil => exact fun _ => framed_pure ()
  | cons sample rest ih => exact fun written => (framed_store _ _).bind fun _ => ih (written + 1)

/-- The samples come from the driver's state, which is only read. -/
theorem framed_requestGetSamples (inputLength : Nat) : Framed (requestGetSamples inputLength) := by
  refine framed_ite (framed_complete _ _) ((framed_readInput _).bind fun requested => ?_)
  intro s t r s' h
  have hrest := h.get_bind
  refine (framed_outputBuffer _).bind (fun output => ?_) _ _ _ _ hrest
  cases handleGetSamples s.telemetry inputLength (requested.map fun req => req.count.toNat)
    output with
  | error status => exact framed_complete _ _
  | ok answer =>
      exact (framed_storeSamples _ _).bind fun _ => (framed_store _ _).bind fun _ =>
        framed_complete _ _

/-- The driver's work, and a silent end. -/
theorem device_did {x : DriverM α} {f : α → RequestM Unit} (hf : ∀ a, Framed (f a))
    {r : Except Empty Unit} (h : (device x >>= f).Yields s t r s') :
    ∃ a, x.Yields s (leftEvents t) (.ok a) s' := by
  obtain ⟨t₁, rest, a, s₁, hleft, _, hx, hrest⟩ := Proc.Yields.inl_bind h
  obtain ⟨hquiet, rfl⟩ := hf a _ _ _ _ hrest
  rw [hquiet, List.append_nil] at hleft
  rw [hleft]
  exact ⟨a, hx⟩

/-- An operation that is the driver's work. -/
theorem device_runs [LoopFuel] {x : DriverM α} {f : α → RequestM Unit} {op : DriverOp}
    (hop : op.run = Proc.discard x) (hf : ∀ a, Framed (f a)) {r : Except Empty Unit}
    (h : (device x >>= f).Yields s t r s') : Did s (leftEvents t) s' (some op) := by
  obtain ⟨a, hx⟩ := device_did hf h
  show op.run.Yields s (leftEvents t) (.ok ()) s'
  rw [hop]
  exact hx.discard

/-- The same, behind a look at the queue. -/
theorem queried_runs [LoopFuel] {x : DriverM α} {f : α → RequestM Unit} {op : DriverOp}
    (hop : op.run = Proc.discard x) (hf : ∀ a, Framed (f a)) {r : Except Empty Unit}
    (h : (getIoQueue >>= fun _ => device x >>= f).Yields s t r s') :
    Did s (leftEvents t) s' (some op) := by
  obtain ⟨_, rest, hleft, _, hrest⟩ := request_bind h
  rw [hleft]
  exact device_runs hop hf hrest

/-- What was read is what the client sent. -/
theorem inputOf_handedOver {L : Layout α} {input : List Byte} {room : Nat}
    {answer : Int × Option (List Byte)}
    (hgiven : HandedOver input room (.retrieveInput L.size) answer)
    (hlong : L.size ≤ input.length) : inputOf L answer = some (L.decode (input.take L.size)) := by
  obtain ⟨hok, hbuffer⟩ := hgiven hlong
  rw [inputOf, hok, if_neg (by decide), hbuffer]
  exact if_neg (by omega)

/-- An input is one call to the framework, and what follows is given what it decodes to. -/
theorem readInput_bind {L : Layout α} {f : Option α → RequestM β} {r : Except Empty β}
    (h : (readInput L >>= f).Yields s t r s') :
    ∃ answer rest, leftEvents t = leftEvents rest ∧
      rightEvents t = (⟨.retrieveInput L.size, answer⟩ : Event RequestEffect) ::
        rightEvents rest ∧
      (f (inputOf L answer)).Yields s rest r s' := by
  obtain ⟨t₁, t₂, value, s₁, rfl, hread, hrest⟩ | ⟨e, _, _⟩ := h.bind_cases
  · obtain ⟨answer, rest, hleft, hright, hvalue⟩ := request_bind hread
    obtain ⟨rfl, hsame, rfl⟩ := hvalue.pure_cases
    cases hsame
    refine ⟨answer, t₂, ?_, ?_, hrest⟩
    · rw [leftEvents_append, hleft, leftEvents_nil, List.nil_append]
    · rw [rightEvents_append, hright, rightEvents_nil, List.singleton_append]
  · exact e.elim

/-- A handler got the structure the client sent, or it rejected the request. -/
theorem withInput_did [LoopFuel] {L : Layout α} {input : List Byte} {room : Nat}
    {body : α → RequestM Unit} {op : α → DriverOp} {r : Except Empty Unit}
    (h : (withInput input.length L body).Yields s t r s')
    (hgiven : ∀ e ∈ rightEvents t, HandedOver input room e.op e.resp)
    (hbody : ∀ value t, (body value).Yields s t r s' → Did s (leftEvents t) s' (some (op value))) :
    Did s (leftEvents t) s' ((inputAs L input).map op) := by
  rw [inputAs]
  -- a short input is answered without the driver being called
  by_cases hshort : input.length < L.size
  · rw [withInput, if_pos hshort] at h
    rw [if_pos hshort]
    obtain ⟨hleft, hs⟩ := framed_complete _ _ _ _ _ _ h
    rw [hleft]
    exact ⟨hs, fun _ hmem => nomatch hmem⟩
  · rw [withInput, if_neg hshort] at h
    rw [if_neg hshort]
    obtain ⟨answer, rest, hleft, hright, hrest⟩ := readInput_bind h
    rw [hright] at hgiven
    -- the bytes read are the ones the caller handed over
    have hread := inputOf_handedOver (hgiven _ (List.mem_cons_self ..)) (Nat.not_lt.1 hshort)
    rw [hread] at hrest
    rw [hleft]
    exact hbody _ _ hrest

/-! ### The handlers -/

section
variable [LoopFuel] {input : List Byte} {room : Nat} {r : Except Empty Unit}

/-- The status request is the operation of that name. -/
theorem requestGetStatus_did (h : requestGetStatus.Yields s t r s') :
    Did s (leftEvents t) s' (some .getStatus) :=
  device_runs rfl (fun _ => framed_writeOutput _ _) h

/-- The sessions are read from the state, so the device sees nothing. -/
theorem requestGetSessions_did (h : requestGetSessions.Yields s t r s') :
    Did s (leftEvents t) s' none := by
  obtain ⟨_, hx⟩ := device_did (fun _ => framed_writeOutput _ _) h
  obtain ⟨now, rest, ht, hrest⟩ := (hx.get_bind).perform_bind
  obtain ⟨rfl, _, rfl⟩ := hrest.pure_cases
  rw [ht]
  refine ⟨rfl, fun e hmem => ?_⟩
  rw [List.mem_singleton.1 hmem]

/-- A negotiation is the one its command byte asks for, or the first one without an input. -/
theorem requestRunHvdcp_did (h : (requestRunHvdcp input.length).Yields s t r s')
    (hgiven : ∀ e ∈ rightEvents t, HandedOver input room e.op e.resp) :
    Did s (leftEvents t) s' (if input = [] then some (.runHvdcp 1)
      else (inputAs hvdcpRequestLayout input).map fun req => .runHvdcp req.command.toNat) := by
  have hcommand : ∀ (command : Byte) (t : List (Event (DevEffect.sum RequestEffect))),
      (requestHvdcpCommand command).Yields s t r s' →
      Did s (leftEvents t) s' (some (.runHvdcp command.toNat)) :=
    fun command t h => queried_runs rfl (fun _ => framed_writeOutput _ _) h
  rw [requestRunHvdcp] at h
  by_cases hlong : hvdcpRequestLayout.size ≤ input.length
  · rw [if_pos hlong] at h
    have hsome : input ≠ [] := by
      intro hnil
      rw [hnil] at hlong
      exact absurd hlong (by decide)
    rw [if_neg hsome, inputAs, if_neg (Nat.not_lt.2 hlong)]
    obtain ⟨answer, rest, hleft, hright, hrest⟩ := readInput_bind h
    rw [hright] at hgiven
    have hread := inputOf_handedOver (hgiven _ (List.mem_cons_self ..)) hlong
    rw [hread] at hrest
    rw [hleft]
    exact hcommand _ _ hrest
  · rw [if_neg hlong] at h
    -- An input that is too short is rejected, and one that is missing means the first command.
    by_cases hsome : 0 < input.length
    · rw [if_pos hsome] at h
      rw [if_neg (List.length_pos_iff.1 hsome), inputAs, if_pos (Nat.not_le.1 hlong)]
      obtain ⟨hleft, hs⟩ := framed_complete _ _ _ _ _ _ h
      rw [hleft]
      exact ⟨hs, fun _ hmem => nomatch hmem⟩
    · rw [if_neg hsome] at h
      rw [if_pos (List.length_eq_zero_iff.1 (by omega))]
      exact hcommand 1 t h

/-- A framed program is nothing to the device. -/
theorem Framed.did {x : RequestM Unit} (hx : Framed x) (h : x.Yields s t r s') :
    Did s (leftEvents t) s' none := by
  obtain ⟨hleft, hs⟩ := hx _ _ _ _ h
  rw [hleft]
  exact ⟨hs, fun _ hmem => nomatch hmem⟩

/-- A control request did what its bytes stand for. -/
theorem evtIoDeviceControl_did {code : Nat}
    (h : (evtIoDeviceControl input.length code).Yields s t r s')
    (hgiven : ∀ e ∈ rightEvents t, HandedOver input room e.op e.resp) :
    Did s (leftEvents t) s' (controlOp code input) := by
  rw [evtIoDeviceControl] at h
  rw [controlOp]
  by_cases hcode : code = ioctlGetStatus
  · rw [if_pos hcode] at h ⊢
    exact requestGetStatus_did h
  rw [if_neg hcode] at h ⊢
  by_cases hcode : code = ioctlReadReg
  · rw [if_pos hcode] at h ⊢
    refine withInput_did h hgiven fun req t hbody => ?_
    exact device_runs rfl (fun _ => framed_writeOutput _ _) hbody
  rw [if_neg hcode] at h ⊢
  by_cases hcode : code = ioctlWriteReg
  · rw [if_pos hcode] at h ⊢
    refine withInput_did h hgiven fun req t hbody => ?_
    exact device_runs rfl (fun _ => framed_writeOutput _ _) hbody
  rw [if_neg hcode] at h ⊢
  by_cases hcode : code = ioctlSetLimits
  · rw [if_pos hcode] at h ⊢
    refine withInput_did h hgiven fun req t hbody => ?_
    exact device_runs rfl (fun _ => framed_writeOutput _ _) hbody
  rw [if_neg hcode] at h ⊢
  by_cases hcode : code = ioctlSetMode
  · rw [if_pos hcode] at h ⊢
    refine withInput_did h hgiven fun req t hbody => ?_
    refine device_runs rfl (fun answer => ?_) hbody
    cases answer with
    | none => exact framed_complete _ _
    | some answer => exact framed_writeOutput _ _
  rw [if_neg hcode] at h ⊢
  by_cases hcode : code = ioctlSetCharge
  · rw [if_pos hcode] at h ⊢
    refine withInput_did h hgiven fun req t hbody => ?_
    exact queried_runs rfl (fun _ => framed_writeOutput _ _) hbody
  rw [if_neg hcode] at h ⊢
  by_cases hcode : code = ioctlRunHvdcp
  · rw [if_pos hcode] at h ⊢
    exact requestRunHvdcp_did h hgiven
  rw [if_neg hcode] at h ⊢
  -- The last two read out what the ticks have stored: no operation of the driver.
  by_cases hcode : code = ioctlGetSessions
  · rw [if_pos hcode] at h
    exact requestGetSessions_did h
  rw [if_neg hcode] at h
  by_cases hcode : code = ioctlGetSamples
  · rw [if_pos hcode] at h
    exact (framed_requestGetSamples _).did h
  · rw [if_neg hcode] at h
    exact (framed_complete _ _).did h

end

end Kmdf
