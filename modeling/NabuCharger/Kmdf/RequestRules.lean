import NabuCharger.Kmdf.Requests

/-!
# `Kmdf.RequestRules`: every handler answers its request

`Answers input room x` says that from any state and a request that is not completed, `x` keeps to
the rules of the framework and completes the request. The driver's own work does not touch the
request, so the rule for `device` asks nothing of it; the other rules are one for each piece the
handlers are made of. `evtIoDeviceControl_answers` puts them together.
-/

set_option autoImplicit false

namespace Kmdf

open Effectful Ln8000 Wdf Ioctl

/-- The framework beside the driver. -/
abbrev manager (input : List Byte) (room : Nat) : Machine (DevEffect.sum RequestEffect) :=
  (ioManager input room).beside DevEffect

/-- The request was completed. -/
def Completed (_ : Except Empty Unit) (_ : DriverState) (m : IoRequest) : Prop :=
  m.reply.isSome = true

/-- From any state, `x` completes a request that is not completed, by the rules. -/
def Answers (input : List Byte) (room : Nat) (x : RequestM Unit) : Prop :=
  ∀ (s : DriverState) (m : IoRequest), m.reply = none →
    x.wp (manager input room) Completed s m

variable {input : List Byte} {room : Nat} {α : Type} {s : DriverState} {m : IoRequest}

/-! ### The pieces of a handler -/

/-- A status without information. -/
theorem complete_answers (status : Int) : Answers input room (complete status 0) := by
  intro s m hopen
  refine (Proc.wp_perform (M := manager input room) s m _ _).2
    ⟨⟨hopen, fun i hi => absurd hi (Nat.not_lt_zero i)⟩, fun _ _ => rfl⟩

/-- The driver's work leaves the request alone. -/
theorem device_answers {x : DriverM α} {f : α → RequestM Unit}
    (hf : ∀ a, Answers input room (f a)) : Answers input room (device x >>= f) := by
  intro s m hopen
  refine (Proc.wp_bind (M := manager input room) s m _ _ _).2 (Proc.wp_inl_beside fun r s' => ?_)
  cases r with
  | ok a => exact hf a s' m hopen
  | error e => exact e.elim

/-- A request can be asked for its queue until it is completed. -/
theorem getIoQueue_answers {f : Unit → RequestM Unit} (hf : Answers input room (f ())) :
    Answers input room (getIoQueue >>= f) := by
  intro s m hopen
  exact (Proc.wp_perform_bind (M := manager input room) s m _ _ _).2
    ⟨hopen, fun _ _ => hf s m hopen⟩

/-- Whatever the input is, what follows answers the request. -/
theorem readInput_answers {L : Layout α} {f : Option α → RequestM Unit}
    (hf : ∀ value, Answers input room (f value)) : Answers input room (readInput L >>= f) := by
  intro s m hopen
  refine (Proc.wp_bind (M := manager input room) s m _ _ _).2 ?_
  refine (Proc.wp_perform_bind (M := manager input room) s m _ _ _).2
    ⟨hopen, fun answer _ => ?_⟩
  exact (Proc.wp_pure (M := manager input room) _ s m _).2 (hf _ s m hopen)

/-- The buffer that is given out is as long as was asked for. -/
theorem outputBuffer_wp {minLength : Nat} {f : Except Int Nat → RequestM Unit}
    {Q : Except Empty Unit → DriverState → IoRequest → Prop} (hopen : m.reply = none)
    (hfail : ∀ status, (f (.error status)).wp (manager input room) Q s m)
    (hgiven : minLength ≤ room →
      (f (.ok room)).wp (manager input room) Q s { m with output := some room }) :
    (outputBuffer minLength >>= f).wp (manager input room) Q s m := by
  refine (Proc.wp_bind (M := manager input room) s m _ _ _).2 ?_
  refine (Proc.wp_perform_bind (M := manager input room) s m _ _ _).2
    ⟨hopen, fun (answer : Int × Nat) hallow => ?_⟩
  have hnext : (manager input room).next m (.inr (.retrieveOutput minLength)) answer =
      if ntOk answer.1 = true then { m with output := some answer.2 } else m := rfl
  rw [hnext]
  cases hok : ntOk answer.1 with
  | false =>
      rw [if_pos rfl]
      exact (Proc.wp_pure (M := manager input room) _ s m _).2 (hfail answer.1)
  | true =>
      -- The framework answers with the whole buffer, which is no shorter than what was asked for.
      obtain ⟨hroom, hmin⟩ := hallow hok
      rw [if_neg (by decide), hroom]
      exact (Proc.wp_pure (M := manager input room) _ s _ _).2 (hgiven hmin)

/-- A store within the buffer. -/
theorem store_wp {offset : Nat} {cells : List Cell} {f : Unit → RequestM Unit}
    {Q : Except Empty Unit → DriverState → IoRequest → Prop} (hopen : m.reply = none)
    (houtput : m.output = some room) (hfits : offset + cells.length ≤ room)
    (hf : (f ()).wp (manager input room) Q s
      { m with held := IoRequest.storeAt m.held offset cells }) :
    (store offset cells >>= f).wp (manager input room) Q s m :=
  (Proc.wp_perform_bind (M := manager input room) s m _ _ _).2
    ⟨⟨hopen, room, houtput, hfits⟩, fun _ _ => hf⟩

/-- What was stored is held. -/
theorem storeAt_isSome {held : Nat → Option Cell} {offset : Nat} {cells : List Cell} {i : Nat}
    (h : (held i).isSome = true ∨ offset ≤ i ∧ i < offset + cells.length) :
    (IoRequest.storeAt held offset cells i).isSome = true := by
  rw [IoRequest.storeAt]
  split
  · next hin => rw [List.getElem?_eq_getElem (by omega), Option.isSome_some]
  · next hout =>
      obtain hheld | hin := h
      · exact hheld
      · exact absurd hin hout

/-- A structure goes out into the buffer, or the request fails. -/
theorem writeOutput_answers (L : Layout α) (value : α) :
    Answers input room (writeOutput L value) := by
  intro s m hopen
  refine outputBuffer_wp hopen (fun status => complete_answers status s m hopen) fun hmin => ?_
  have hlength : (L.encode value).length = L.size := L.length_encode value
  refine store_wp hopen rfl (by omega) ?_
  refine (Proc.wp_perform (M := manager input room) s _ _ _).2 ⟨⟨hopen, fun i hi => ?_⟩,
    fun _ _ => rfl⟩
  exact storeAt_isSome (.inr (by omega))

/-- Without its input, a request fails. Otherwise its body answers. -/
theorem withInput_answers {inputLength : Nat} {L : Layout α} {body : α → RequestM Unit}
    (hbody : ∀ value, Answers input room (body value)) :
    Answers input room (withInput inputLength L body) := by
  intro s m hopen
  refine Proc.wp_ite (fun _ => complete_answers _ s m hopen) fun _ => ?_
  refine readInput_answers (fun value => ?_) s m hopen
  cases value with
  | none => exact complete_answers _
  | some value => exact hbody value

/-! ### Samples -/

/-- The bytes from `low` up to `high` are held, and what was held before still is. -/
structure HeldUpTo (before after : Nat → Option Cell) (low high : Nat) : Prop where
  kept : ∀ i, (before i).isSome = true → (after i).isSome = true
  held : ∀ i, low ≤ i → i < high → (after i).isSome = true

/-- The samples fill the buffer behind the header, one behind the other. -/
theorem storeSamples_wp (samples : List Ln8000Sample) : ∀ (written : Nat) (m : IoRequest),
    m.reply = none → m.output = some room →
    samplesHeaderSize + (written + samples.length) * sampleSize ≤ room →
    (storeSamples samples written).wp (manager input room)
      (fun _ _ m' => m'.reply = none ∧ m'.output = some room ∧
        HeldUpTo m.held m'.held (samplesHeaderSize + written * sampleSize)
          (samplesHeaderSize + (written + samples.length) * sampleSize)) s m := by
  -- induction on the samples, for every number already written
  induction samples with
  | nil =>
      intro written m hopen houtput _
      refine (Proc.wp_pure (M := manager input room) _ s m _).2 ⟨hopen, houtput, ?_⟩
      refine ⟨fun _ h => h, fun i hlow hhigh => ?_⟩
      rw [List.length_nil, Nat.add_zero] at hhigh
      omega
  | cons sample rest ih =>
      intro written m hopen houtput hroom
      have hlength : (sampleLayout.encode sample.cells).length = sampleSize :=
        sampleLayout.length_encode _
      have hend : (written + (sample :: rest).length) * sampleSize =
          (written + 1 + rest.length) * sampleSize := by
        rw [List.length_cons]
        congr 1
        omega
      have hone : (written + 1) * sampleSize = written * sampleSize + sampleSize :=
        Nat.succ_mul ..
      have hgrow : (written + 1) * sampleSize ≤ (written + 1 + rest.length) * sampleSize :=
        Nat.mul_le_mul_right _ (Nat.le_add_right ..)
      rw [hend] at hroom ⊢
      refine store_wp hopen houtput (by omega) ?_
      refine Proc.wp_mono (ih (written + 1) _ hopen houtput hroom) fun _ _ m' hrest => ?_
      obtain ⟨hopen', houtput', hheld⟩ := hrest
      refine ⟨hopen', houtput', fun i hi => ?_, fun i hlow hhigh => ?_⟩
      · exact hheld.kept i (storeAt_isSome (.inl hi))
      · -- The sample just stored, or one of the rest.
        by_cases hthis : i < samplesHeaderSize + (written + 1) * sampleSize
        · exact hheld.kept i (storeAt_isSome (.inr (by omega)))
        · exact hheld.held i (by omega) hhigh

/-- No more samples are chosen than fit behind the header. -/
theorem samples_fit (requested : Option Nat) {length : Nat} (hlength : samplesHeaderSize ≤ length)
    (stored : List TelemetrySample) :
    samplesHeaderSize +
        (writeSamples (samplesLimit requested length) stored 0).length * sampleSize ≤ length := by
  have hcount : (writeSamples (samplesLimit requested length) stored 0).length ≤
      samplesCapacity length := by
    rw [writeSamples_eq, List.length_map, List.length_take, Nat.sub_zero]
    have hlimit : samplesLimit requested length ≤ samplesCapacity length :=
      (Nat.min_le_left ..).trans (Nat.min_le_left ..)
    omega
  have hbytes : samplesCapacity length * sampleSize ≤ length - samplesHeaderSize :=
    Nat.div_mul_le_self ..
  have hmul := Nat.mul_le_mul_right sampleSize hcount
  omega

/-- The answer of `GET_SAMPLES` for the samples that are chosen. -/
def samplesAnswer (store : Telemetry) (requested : Option Nat) (length : Nat) : SamplesAnswer where
  count := samplesLimit requested length
  available := (writeSamples (samplesLimit requested length) store.forEachSample 0).length
  first := (writeSamples (samplesLimit requested length) store.forEachSample 0).head?.getD .default
  samples := writeSamples (samplesLimit requested length) store.forEachSample 0
  information := samplesHeaderSize +
    (writeSamples (samplesLimit requested length) store.forEachSample 0).length * sampleSize

/-- Without an output buffer the request fails with its status. -/
theorem handleGetSamples_error {inputLength : Nat} (h : ¬inputLength < samplesHeaderSize)
    (store : Telemetry) (requested : Option Nat) (status : Int) :
    handleGetSamples store inputLength requested (.error status) = .error status :=
  if_neg h

/-- With one, the samples fill it. -/
theorem handleGetSamples_ok {inputLength : Nat} (h : ¬inputLength < samplesHeaderSize)
    (store : Telemetry) (requested : Option Nat) (length : Nat) :
    handleGetSamples store inputLength requested (.ok length) =
      .ok (samplesAnswer store requested length) :=
  if_neg h

/-- The samples are stored behind their header, as many as fit. -/
theorem requestGetSamples_answers (inputLength : Nat) :
    Answers input room (requestGetSamples inputLength) := by
  intro s m hopen
  refine Proc.wp_ite (fun _ => complete_answers _ s m hopen) fun hinput => ?_
  refine readInput_answers (fun requested s m hopen => ?_) s m hopen
  refine (Proc.wp_get_bind (M := manager input room) s m _ _).2 ?_
  refine outputBuffer_wp hopen (fun status => ?_) fun hmin => ?_
  · rw [handleGetSamples_error hinput]
    exact complete_answers status s m hopen
  · rw [handleGetSamples_ok hinput]
    have hfit := samples_fit (requested.map fun req => req.count.toNat) hmin
      s.telemetry.forEachSample
    refine (Proc.wp_bind (M := manager input room) s _ _ _ _).2 ?_
    refine Proc.wp_mono (storeSamples_wp _ 0 _ hopen rfl (by rw [Nat.zero_add]; exact hfit)) ?_
    intro r s' m' hsamples
    obtain ⟨hopen', houtput', hheld⟩ := hsamples
    cases r with
    | error e => exact e.elim
    | ok _ =>
        have hlength : (samplesRequestLayout.encode (samplesAnswer s.telemetry
            (requested.map fun req => req.count.toNat) room).header).length = samplesHeaderSize :=
          samplesRequestLayout.length_encode _
        refine store_wp hopen' houtput' (by omega) ?_
        refine (Proc.wp_perform (M := manager input room) s' _ _ _).2
          ⟨⟨hopen', fun i hi => ?_⟩, fun _ _ => rfl⟩
        -- The header, or the samples behind it.
        by_cases hheader : i < samplesHeaderSize
        · exact storeAt_isSome (.inr (by omega))
        · exact storeAt_isSome (.inl (hheld.held i (by omega) (by rw [Nat.zero_add]; exact hi)))

/-! ### The handlers -/

section
variable [LoopFuel]

/-- The mode request is answered on each of its paths. -/
theorem requestSetMode_answers (inputLength : Nat) :
    Answers input room (requestSetMode inputLength) := by
  refine withInput_answers fun req => device_answers fun answer => ?_
  cases answer with
  | none => exact complete_answers _
  | some answer => exact writeOutput_answers _ _

/-- So is a negotiation, with what came of it. -/
theorem requestHvdcpCommand_answers (command : Byte) :
    Answers input room (requestHvdcpCommand command) :=
  getIoQueue_answers (device_answers fun _ => writeOutput_answers _ _)

/-- So is the request for it, with an input or without. -/
theorem requestRunHvdcp_answers (inputLength : Nat) :
    Answers input room (requestRunHvdcp inputLength) := by
  intro s m hopen
  refine Proc.wp_ite (fun _ => ?_) fun _ => Proc.wp_ite (fun _ => ?_) fun _ => ?_
  · exact readInput_answers (fun _ => requestHvdcpCommand_answers _) s m hopen
  · exact complete_answers _ s m hopen
  · exact requestHvdcpCommand_answers 1 s m hopen

/-- So is every control code, known or not. -/
theorem evtIoDeviceControl_answers (inputLength ioControlCode : Nat) :
    Answers input room (evtIoDeviceControl inputLength ioControlCode) := by
  intro s m hopen
  refine Proc.wp_ite (fun _ => ?_) fun _ => Proc.wp_ite (fun _ => ?_) fun _ =>
    Proc.wp_ite (fun _ => ?_) fun _ => Proc.wp_ite (fun _ => ?_) fun _ =>
    Proc.wp_ite (fun _ => ?_) fun _ => Proc.wp_ite (fun _ => ?_) fun _ =>
    Proc.wp_ite (fun _ => ?_) fun _ => Proc.wp_ite (fun _ => ?_) fun _ =>
    Proc.wp_ite (fun _ => ?_) fun _ => ?_
  · -- one case a control code, in the order of the dispatch
    exact device_answers (fun _ => writeOutput_answers _ _) s m hopen
  · exact withInput_answers (fun _ => device_answers fun _ => writeOutput_answers _ _) s m hopen
  · exact withInput_answers (fun _ => device_answers fun _ => writeOutput_answers _ _) s m hopen
  · exact withInput_answers (fun _ => device_answers fun _ => writeOutput_answers _ _) s m hopen
  · exact requestSetMode_answers inputLength s m hopen
  · exact withInput_answers
      (fun _ => getIoQueue_answers (device_answers fun _ => writeOutput_answers _ _)) s m hopen
  · exact requestRunHvdcp_answers inputLength s m hopen
  · exact device_answers (fun _ => writeOutput_answers _ _) s m hopen
  · exact requestGetSamples_answers inputLength s m hopen
  · exact complete_answers _ s m hopen

end

end Kmdf
