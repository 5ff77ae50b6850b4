import NabuCharger.Kmdf.Superuser

/-!
# `Kmdf.SuperuserRules`: what a call to the PMIC leaves behind

`InCall` is the picture of one transfer: the request and its memories, which did not exist before,
over everything that did. Each step of the transfer changes one of them, and the end of it deletes
all three. So a transfer keeps the rules of the framework, and leaves what it found
(`ioctlInOut_wp`). The device has seen the frame and has answered it, or has seen nothing.

A session is the same picture one level up: its target is there, and then it is gone
(`session_wp`).
-/

set_option autoImplicit false

namespace Kmdf.Superuser

open Effectful Wdf

variable {D : Type} {dev : Device D} {m m' m'' : Framework D}

/-! ### One transfer -/

/-- The objects of a transfer, over what was there before it. -/
structure InCall (m : Framework D) (request : Handle) (stage : Stage) (input : Handle)
    (bytes : List Byte) (output : Option Handle) (room : List Byte) (m' : Framework D) :
    Prop where
  request_at : m'.objects request = some (.request stage)
  input_at : m'.objects input = some (.memory bytes.length (some bytes))
  output_at : ∀ h, output = some h → m'.objects h = some (.memory room.length (some room))
  no_room : output = none → room = []
  others : ∀ h, h ≠ request → h ≠ input → output ≠ some h → m'.objects h = m.objects h
  fresh_request : m.objects request = none
  fresh_input : m.objects input = none
  fresh_output : ∀ h, output = some h → m.objects h = none
  apart : request ≠ input
  apart_request : output ≠ some request
  apart_input : output ≠ some input

namespace InCall

variable {request input : Handle} {stage next : Stage} {bytes room room' : List Byte}
  {output : Option Handle}

/-- What was there before is still there. -/
theorem kept (h : InCall m request stage input bytes output room m') {handle : Handle}
    {object : Object} (hat : m.objects handle = some object) :
    m'.objects handle = some object := by
  rw [h.others handle ?_ ?_ ?_, hat]
  · rintro rfl
    rw [h.fresh_request] at hat
    cases hat
  · rintro rfl
    rw [h.fresh_input] at hat
    cases hat
  · intro hout
    rw [h.fresh_output handle hout] at hat
    cases hat

/-- The request is at another stage. -/
theorem request_put (h : InCall m request stage input bytes output room m')
    (hm : m''.objects = Function.update m'.objects request (some (.request next))) :
    InCall m request next input bytes output room m'' where
  request_at := by rw [hm, Function.update_self]
  input_at := by rw [hm, Function.update_of_ne h.apart.symm, h.input_at]
  output_at handle hout := by
    rw [hm, Function.update_of_ne, h.output_at handle hout]
    rintro rfl
    exact h.apart_request hout
  no_room := h.no_room
  others handle hrequest hinput hout := by
    rw [hm, Function.update_of_ne hrequest, h.others handle hrequest hinput hout]
  fresh_request := h.fresh_request
  fresh_input := h.fresh_input
  fresh_output := h.fresh_output
  apart := h.apart
  apart_request := h.apart_request
  apart_input := h.apart_input

/-- The reply was written, in the room there was for it. -/
theorem output_put {out : Handle} (h : InCall m request stage input bytes (some out) room m')
    (hlength : room'.length = room.length)
    (hm : m''.objects = Function.update m'.objects out (some (.memory room.length (some room')))) :
    InCall m request stage input bytes (some out) room' m'' where
  request_at := by
    rw [hm, Function.update_of_ne, h.request_at]
    rintro rfl
    exact h.apart_request rfl
  input_at := by
    rw [hm, Function.update_of_ne, h.input_at]
    rintro rfl
    exact h.apart_input rfl
  output_at handle hout := by
    cases hout
    rw [hm, hlength, Function.update_self]
  no_room := fun hnone => by cases hnone
  others handle hrequest hinput hout := by
    rw [hm, Function.update_of_ne, h.others handle hrequest hinput hout]
    rintro rfl
    exact hout rfl
  fresh_request := h.fresh_request
  fresh_input := h.fresh_input
  fresh_output := h.fresh_output
  apart := h.apart
  apart_request := h.apart_request
  apart_input := h.apart_input

/-- A memory for the reply is new. -/
theorem output_new {out : Handle} (h : InCall m request stage input bytes none [] m')
    (hfresh : m'.objects out = none)
    (hm : m''.objects = Function.update m'.objects out (some (.memory room.length (some room)))) :
    InCall m request stage input bytes (some out) room m'' := by
  -- a fresh handle is none of the objects of the call
  have hrequest : request ≠ out := by
    rintro rfl
    have hat := h.request_at
    rw [hfresh] at hat
    cases hat
  have hinput : input ≠ out := by
    rintro rfl
    have hat := h.input_at
    rw [hfresh] at hat
    cases hat
  have hbefore : m.objects out = none := by
    rw [← h.others out hrequest.symm hinput.symm (by simp), hfresh]
  constructor
  case request_at => rw [hm, Function.update_of_ne hrequest, h.request_at]
  case input_at => rw [hm, Function.update_of_ne hinput, h.input_at]
  case output_at =>
    intro handle hout
    cases hout
    rw [hm, Function.update_self]
  case no_room => exact fun hnone => by cases hnone
  case others =>
    intro handle hne hne' hout
    have hother : handle ≠ out := fun heq => hout (by rw [heq])
    rw [hm, Function.update_of_ne hother, h.others handle hne hne' (by simp)]
  case fresh_request => exact h.fresh_request
  case fresh_input => exact h.fresh_input
  case fresh_output =>
    intro handle hout
    cases hout
    exact hbefore
  case apart => exact h.apart
  case apart_request => exact fun hout => hrequest (Option.some.inj hout).symm
  case apart_input => exact fun hout => hinput (Option.some.inj hout).symm

/-- Once the three are deleted, everything is as it was. -/
theorem deleted (h : InCall m request stage input bytes output room m') :
    ∀ objects : Handle → Option Object,
      (∀ handle, objects handle = if handle = request ∨ handle = input ∨ output = some handle then
        none else m'.objects handle) → objects = m.objects := by
  intro objects hobjects
  funext handle
  rw [hobjects]
  by_cases hrequest : handle = request
  · rw [if_pos (.inl hrequest), hrequest, h.fresh_request]
  · by_cases hinput : handle = input
    · rw [if_pos (.inr (.inl hinput)), hinput, h.fresh_input]
    · by_cases hout : output = some handle
      · rw [if_pos (.inr (.inr hout)), h.fresh_output handle hout]
      · rw [if_neg (by simp [hrequest, hinput, hout]), h.others handle hrequest hinput hout]

end InCall

variable {request input : Handle} {stage : Stage} {bytes room : List Byte}
  {output : Option Handle}

/-- The request and its input are new. -/
theorem inCall_start (hrequest : m.objects request = none)
    (hinput : Function.update m.objects request (some (.request .created)) input = none) :
    InCall m request .created input bytes none []
      (Framework.put (Framework.put (m.put request (some (.request .created))) input
        (some (.memory bytes.length none))) input (some (.memory bytes.length (some bytes)))) := by
  have hapart : request ≠ input := by
    rintro rfl
    rw [Function.update_self] at hinput
    cases hinput
  rw [Function.update_of_ne hapart.symm] at hinput
  -- nothing but the two new objects has changed
  have hobjects : (Framework.put (Framework.put (m.put request (some (.request .created))) input
      (some (.memory bytes.length none))) input
      (some (.memory bytes.length (some bytes)))).objects =
      Function.update (Function.update m.objects request (some (.request .created))) input
        (some (.memory bytes.length (some bytes))) := Function.update_idem ..
  constructor
  case request_at => rw [hobjects, Function.update_of_ne hapart, Function.update_self]
  case input_at => rw [hobjects, Function.update_self]
  case output_at => exact fun handle hout => by cases hout
  case no_room => exact fun _ => rfl
  case others =>
    intro handle hne hne' _
    rw [hobjects, Function.update_of_ne hne', Function.update_of_ne hne]
  case fresh_request => exact hrequest
  case fresh_input => exact hinput
  case fresh_output => exact fun handle hout => by cases hout
  case apart => exact hapart
  case apart_request => exact fun hout => by cases hout
  case apart_input => exact fun hout => by cases hout

/-- The end of a transfer leaves what was there before it, and the device as it is. -/
theorem cleanUp_wp {Q : Except Int Unit → Unit → (framework dev).State → Prop}
    (h : InCall m request stage input bytes output room m')
    (hQ : Q (.ok ()) () { m with device := m'.device }) :
    (cleanUp request input output).wp (framework dev) Q () m' := by
  -- The request and the input, when the output is gone. The objects are then those of before.
  have hrest : ∀ m'' : Framework D, m''.device = m'.device →
      (∀ handle, m''.objects handle =
        if output = some handle then none else m'.objects handle) →
      (do Proc.perform (E := ObjectEffect) (.delete input)
          Proc.perform (E := ObjectEffect) (.delete request) : SuperuserM Unit).wp
        (framework dev) Q () m'' := by
    intro m'' hdevice hobjects
    refine (Proc.wp_perform_bind (M := framework dev) () m'' (.delete input) _ _).2
      ⟨⟨.memory bytes.length (some bytes), ?_, by simp⟩, fun _ _ => ?_⟩
    · rw [hobjects, if_neg h.apart_input, h.input_at]
    · refine (Proc.wp_perform (M := framework dev) () _ (.delete request) _).2
        ⟨⟨.request stage, ?_, by simp⟩, fun _ _ => ?_⟩
      · refine (Function.update_of_ne h.apart ..).trans ?_
        rw [hobjects, if_neg h.apart_request, h.request_at]
      · have hsame : Function.update (Function.update m''.objects input none) request none =
            m.objects := by
          refine h.deleted _ fun handle => ?_
          simp only [Function.update_apply, hobjects]
          split_ifs <;> simp_all
        have hend : Framework.put (Framework.put m'' input none) request none =
            { m with device := m'.device } := by
          simp only [Framework.put, hsame, hdevice]
        show Q (.ok ()) () (Framework.put (Framework.put m'' input none) request none)
        rw [hend]
        exact hQ
  cases output with
  | none => exact hrest m' rfl fun handle => by simp
  | some out =>
      refine (Proc.wp_perform_bind (M := framework dev) () m' (.delete out) _ _).2
        ⟨⟨.memory room.length (some room), h.output_at out rfl, by simp⟩, fun _ _ => ?_⟩
      refine hrest _ rfl fun handle => ?_
      show Function.update m'.objects out none handle = _
      rw [Function.update_apply]
      simp only [Option.some.injEq, eq_comm]

/-- What the driver makes of a completed request. -/
def reply (ran : (Int × List Byte) × D) (room : List Byte) : Except Int (List Byte) :=
  if ntOk ran.1.1 = true then .ok (Framework.overlay ran.1.2 room) else .error ran.1.1

/-- Both memory objects of the call hold what they were given. -/
theorem InCall.filled (h : InCall m request stage input bytes output room m') :
    m'.Filled input ∧ ∀ handle, output = some handle → m'.Filled handle :=
  ⟨⟨_, _, h.input_at⟩, fun handle hout => ⟨_, _, h.output_at handle hout⟩⟩

/-- The device writes into the output object, up to its size. -/
theorem InCall.outputOf (h : InCall m request stage input bytes output room m') :
    m'.outputOf output = room := by
  cases output with
  | none => exact (h.no_room rfl).symm
  | some out =>
      show m'.bytesOf out = room
      rw [Framework.bytesOf, h.output_at out rfl]

/-- An answer that is laid over a buffer does not change its length. -/
theorem overlay_length (new old : List Byte) :
    (Framework.overlay new old).length = old.length := by
  rw [Framework.overlay, List.length_append, List.length_take, List.length_drop]
  omega

/-- The device completes the request. -/
theorem InCall.complete {ioctl : Nat} {ran : (Int × List Byte) × D}
    (h : InCall m request stage input bytes output room m')
    (hran : dev m'.device ioctl bytes room.length = ran) :
    InCall m request (.completed ran.1.1) input bytes output (Framework.overlay ran.1.2 room)
        (Framework.complete dev m' request ioctl input output) ∧
      (Framework.complete dev m' request ioctl input output).device = ran.2 := by
  -- the device is given the bytes the call put into its input memory
  have hbytes : m'.bytesOf input = bytes := by rw [Framework.bytesOf, h.input_at]
  have hcall : InCall m request (.completed ran.1.1) input bytes output room
      { m'.put request (some (.request (.completed ran.1.1))) with device := ran.2 } :=
    h.request_put rfl
  cases output with
  -- a call without an output has no room, and the overlay is empty
  | none =>
      have hroom : room = [] := h.no_room rfl
      have hover : Framework.overlay ran.1.2 room = room := by simp [Framework.overlay, hroom]
      simp only [Framework.complete, h.outputOf, hbytes, hran, hover]
      exact ⟨hcall, trivial⟩
  | some out =>
      simp only [Framework.complete, h.outputOf, hbytes, hran]
      exact ⟨hcall.output_put (overlay_length ran.1.2 room) rfl, rfl⟩

/-- The reply of a completed request. -/
theorem collect_wp {ran : (Int × List Byte) × D}
    {Q : Except Int (List Byte) → Unit → (framework dev).State → Prop}
    (h : InCall m request (.completed ran.1.1) input bytes output
      (Framework.overlay ran.1.2 room) m')
    (hQ : Q (reply ran room) () m') :
    (collect request output room.length).wp (framework dev) Q () m' := by
  refine (Proc.wp_perform_bind (M := framework dev) () m' (.getStatus request) _ _).2
    ⟨⟨ran.1.1, h.request_at⟩, fun (status : Int) hstatus => ?_⟩
  have hsame : status = ran.1.1 := hstatus ran.1.1 h.request_at
  subst hsame
  -- the bytes are copied out only after a status that is a success
  cases hok : ntOk ran.1.1 with
  | false =>
      rw [if_pos rfl]
      rw [reply, if_neg (by rw [hok]; exact Bool.false_ne_true)] at hQ
      exact (Proc.wp_fail (M := framework dev) Q () m' ran.1.1).2 hQ
  | true =>
      rw [if_neg (by decide)]
      rw [reply, if_pos hok] at hQ
      cases output with
      | none =>
          rw [h.no_room rfl] at hQ
          exact (Proc.wp_pure (M := framework dev) Q () m' []).2 hQ
      | some out =>
          refine (Proc.wp_perform (M := framework dev) () m' (.copyOut out room.length) Q).2
            ⟨⟨Framework.overlay ran.1.2 room, ?_⟩, fun (answer : List Byte) hanswer => ?_⟩
          · rw [h.output_at out rfl, overlay_length]
          · have hout : answer = m'.bytesOf out := hanswer
            rw [Framework.bytesOf, h.output_at out rfl] at hout
            rw [hout]
            exact hQ

/-- The request is formatted and sent. The device has not seen it, or it has, and the reply is
the answer it gave. -/
theorem transact_wp {target : Handle} {ioctl : Nat} {ran : (Int × List Byte) × D}
    {Q : Except Int (List Byte) → Unit → (framework dev).State → Prop}
    (h : InCall m request stage input bytes output room m')
    (htarget : m.objects target = some (.target true))
    (hran : dev m'.device ioctl bytes room.length = ran)
    (hfail : ∀ status stage m'', InCall m request stage input bytes output room m'' →
      m''.device = m'.device → Q (.error status) () m'')
    (hdone : ∀ m'', InCall m request (.completed ran.1.1) input bytes output
        (Framework.overlay ran.1.2 room) m'' →
      m''.device = ran.2 → Q (reply ran room) () m'') :
    (transact target request ioctl input output room.length).wp (framework dev) Q () m' := by
  refine (Proc.wp_perform_bind (M := framework dev) () m'
    (.formatForIoctl target request ioctl input output) _ _).2
    ⟨⟨h.kept htarget, ⟨_, h.request_at⟩, h.filled⟩, fun (status : Int) _ => ?_⟩
  -- a request that cannot be formatted is not sent
  refine Proc.wp_ite (fun hbad => ?_) fun hgood => ?_
  · have hnext : (framework dev).next m' (.formatForIoctl target request ioctl input output)
        status = m' := if_neg (by rw [hbad]; decide)
    rw [hnext]
    exact (Proc.wp_fail (M := framework dev) Q () m' status).2 (hfail status stage m' h rfl)
  · have hnext : (framework dev).next m' (.formatForIoctl target request ioctl input output)
        status = m'.put request (some (.request (.formatted ioctl input output))) :=
      if_pos (Bool.eq_true_of_not_eq_false hgood)
    rw [hnext]
    have hcall : InCall m request (.formatted ioctl input output) input bytes output room
        (m'.put request (some (.request (.formatted ioctl input output)))) := h.request_put rfl
    refine (Proc.wp_perform_bind (M := framework dev) () _
      (.send request target Spb.sendOptions) _ _).2
      ⟨⟨hcall.kept htarget, _, _, _, hcall.request_at, hcall.filled⟩, fun (sent : Bool) _ => ?_⟩
    -- a send that fails reaches no device, one that succeeds has run it once
    cases sent with
    | false => exact (Proc.wp_fail (M := framework dev) Q () _ (-1)).2 (hfail _ _ _ hcall rfl)
    | true =>
        have hdevice := hcall.complete hran
        have hsent : (framework dev).next
            (m'.put request (some (.request (.formatted ioctl input output))))
            (.send request target Spb.sendOptions) true =
              Framework.complete dev
                (m'.put request (some (.request (.formatted ioctl input output)))) request ioctl
                input output := by
          simp only [Framework.next, hcall.request_at]
        rw [hsent]
        exact collect_wp hdevice.1 (hdone _ hdevice.1 hdevice.2)

/-- A call that makes an object: it was not made, or it is there. -/
theorem made_wp {α : Type} {object : Object} {created : Int × Handle} {x y : SuperuserM α}
    {Q : Except Int α → Unit → (framework dev).State → Prop}
    (hbad : x.wp (framework dev) Q () m)
    (hgood : y.wp (framework dev) Q () (m.put created.2 (some object))) :
    (if ntOk created.1 = false then x else y).wp (framework dev) Q ()
      (Framework.make m object created) := by
  refine Proc.wp_ite (fun h => ?_) fun h => ?_
  · rw [Framework.make, if_neg (by rw [h]; decide)]
    exact hbad
  · rw [Framework.make, if_pos (Bool.eq_true_of_not_eq_false h)]
    exact hgood

/-- The memory of the reply is there and filled, or could not be made. -/
theorem createOutput_wp {size : Nat}
    {Q : Except Int (Option Handle) → Unit → (framework dev).State → Prop}
    (h : InCall m request stage input bytes none [] m')
    (hfail : ∀ status, Q (.error status) () m')
    (hok : ∀ output m'', InCall m request stage input bytes output (List.replicate size 0xFF) m'' →
      m''.device = m'.device → Q (.ok output) () m'') :
    (createOutput size).wp (framework dev) Q () m' := by
  refine Proc.wp_ite (fun hzero => ?_) fun hsize => ?_
  · -- a transfer of no bytes allocates nothing
    subst hzero
    exact (Proc.wp_pure (M := framework dev) Q () m' none).2 (hok none m' h rfl)
  · refine (Proc.wp_perform_bind (M := framework dev) () m' (.createMemory size) _ _).2
      ⟨Nat.pos_of_ne_zero hsize, fun (created : Int × Handle) hfresh => made_wp ?_ ?_⟩
    · exact (Proc.wp_fail (M := framework dev) Q () m' created.1).2 (hfail created.1)
    · refine (Proc.wp_perform_bind (M := framework dev) () _ (.fill created.2 0xFF size) _ _).2
        ⟨⟨none, Function.update_self ..⟩, fun _ _ => ?_⟩
      refine (Proc.wp_pure (M := framework dev) Q () _ (some created.2)).2 (hok _ _ ?_ rfl)
      refine h.output_new hfresh ?_
      show Function.update (Function.update m'.objects created.2 _) created.2 _ = _
      rw [Function.update_idem, List.length_replicate]

/-- A transfer keeps the rules and leaves everything as it was. The device has not seen it, or it
has, and the reply is the answer it gave. -/
theorem ioctlInOut_wp {target : Handle} {ioctl : Nat} {bytes : List Byte} {size : Nat}
    {Q : Except Int (List Byte) → Unit → (framework dev).State → Prop}
    (htarget : m.objects target = some (.target true)) (hbytes : bytes ≠ [])
    (hfail : ∀ status, Q (.error status) () m)
    (hdone : ∀ ran, dev m.device ioctl bytes size = ran →
      Q (reply ran (List.replicate size 0xFF)) () { m with device := ran.2 }) :
    (ioctlInOut target ioctl bytes size).wp (framework dev) Q () m := by
  refine (Proc.wp_perform_bind (M := framework dev) () m (.createRequest target) _ _).2
    ⟨htarget, fun (request : Int × Handle) hrequest => made_wp ?_ ?_⟩
  · exact (Proc.wp_fail (M := framework dev) Q () m request.1).2 (hfail request.1)
  have hfresh : m.objects request.2 = none := hrequest
  refine (Proc.wp_perform_bind (M := framework dev) () _ (.createMemory bytes.length) _ _).2
    ⟨List.length_pos_iff.2 hbytes, fun (input : Int × Handle) hinput => made_wp ?_ ?_⟩
  · -- There is no input: the request goes again, and nothing was sent.
    refine (Proc.wp_perform_bind (M := framework dev) () _ (.delete request.2) _ _).2
      ⟨⟨_, Function.update_self .., by simp⟩, fun _ _ => ?_⟩
    have hgone : Framework.put (m.put request.2 (some (.request .created))) request.2 none = m := by
      simp only [Framework.put, Function.update_idem, ← hfresh, Function.update_eq_self]
    have hfailed := hfail input.1
    rw [← hgone] at hfailed
    exact (Proc.wp_fail (M := framework dev) Q () _ input.1).2 hfailed
  · refine (Proc.wp_perform_bind (M := framework dev) () _ (.copyIn input.2 bytes) _ _).2
      ⟨⟨none, Function.update_self ..⟩, fun _ _ => ?_⟩
    have hcall : InCall m request.2 .created input.2 bytes none []
        (Framework.put (Framework.put (m.put request.2 (some (.request .created))) input.2
          (some (.memory bytes.length none))) input.2
          (some (.memory bytes.length (some bytes)))) := inCall_start hfresh hinput
    rw [Proc.wp_attempt_bind]
    refine createOutput_wp hcall (fun status => ?_) fun output m' hcall hdevice => ?_
    -- There is no room for the reply: the same, with the input.
    · refine (Proc.wp_bind (M := framework dev) () _ _ _ _).2 (cleanUp_wp hcall ?_)
      exact (Proc.wp_fail (M := framework dev) Q () _ status).2 (hfail status)
    · have hseen : m'.device = m.device := hdevice
      rw [Proc.wp_attempt_bind]
      -- All three are there. Whatever becomes of the request, the same end deletes them.
      have hsent := transact_wp (Q := fun result s m'' =>
        (do cleanUp request.2 input.2 output; Proc.ofExcept result : SuperuserM (List Byte)).wp
          (framework dev) Q s m'') hcall htarget
        (show dev m'.device ioctl bytes (List.replicate size 0xFF).length = _ from rfl) ?_ ?_
      · rw [List.length_replicate] at hsent
        exact hsent
      · intro status stage m'' hcall hkept
        refine (Proc.wp_bind (M := framework dev) () _ _ _ _).2 (cleanUp_wp hcall ?_)
        refine (Proc.wp_ofExcept (M := framework dev) Q () _ (.error status)).2 ?_
        rw [hkept, hseen]
        exact hfail status
      · intro m'' hcall hdevice
        refine (Proc.wp_bind (M := framework dev) () _ _ _ _).2 (cleanUp_wp hcall ?_)
        refine (Proc.wp_ofExcept (M := framework dev) Q () _ _).2 ?_
        rw [hdevice]
        refine hdone _ ?_
        rw [hseen, List.length_replicate]

/-! ### Calls in a session -/

variable {su : SuperuserBus} {α β : Type}

/-- A transfer without a reply. -/
theorem ioctlIn_wp {target : Handle} {ioctl : Nat} {bytes : List Byte}
    {Q : Except Int Unit → Unit → (framework dev).State → Prop}
    (htarget : m.objects target = some (.target true)) (hbytes : bytes ≠ [])
    (hfail : ∀ status, Q (.error status) () m)
    (hdone : ∀ result ran, dev m.device ioctl bytes 0 = ran →
      Q result () { m with device := ran.2 }) :
    (ioctlIn target ioctl bytes).wp (framework dev) Q () m := by
  refine (Proc.wp_bind (M := framework dev) () m _ _ _).2 ?_
  refine ioctlInOut_wp htarget hbytes hfail fun ran hran => ?_
  rw [reply]
  split
  · exact (Proc.wp_pure (M := framework dev) Q () _ ()).2 (hdone (.ok ()) ran hran)
  · exact hdone _ ran hran

/-- A grant that fails or succeeds. -/
theorem grant_wp {peri : BitVec 16} {Q : Except Int Unit → Unit → (framework dev).State → Prop}
    (htarget : m.objects su.target = some (.target true))
    (hfail : ∀ status, Q (.error status) () m)
    (hdone : ∀ result ran, dev m.device ioctlGrant (grantFrame peri) 0 = ran →
      Q result () { m with device := ran.2 }) :
    (su.grant peri).wp (framework dev) Q () m :=
  ioctlIn_wp htarget (by simp [grantFrame]) hfail hdone

/-- A read answers what the device returned, over the ones that were there. -/
theorem readBytes_wp {sid : Byte} {reg : BitVec 16} {len : Nat}
    {Q : Except Int (List Byte) → Unit → (framework dev).State → Prop}
    (htarget : m.objects su.target = some (.target true))
    (hfail : ∀ status, Q (.error status) () m)
    (hdone : 0 < len → len ≤ 255 → ∀ ran, dev m.device ioctlRead (header sid reg len) len = ran →
      Q (reply ran (List.replicate len 0xFF)) () { m with device := ran.2 }) :
    (su.readBytes sid reg len).wp (framework dev) Q () m := by
  refine Proc.wp_ite (fun _ => ?_) fun hlen => ?_
  · exact (Proc.wp_fail (M := framework dev) Q () m _).2 (hfail _)
  · exact ioctlInOut_wp htarget (by simp [header]) hfail (hdone (by omega) (by omega))

/-- The specification of `writeBytes`: the device sees one frame, or the call fails before. -/
theorem writeBytes_wp {sid : Byte} {reg : BitVec 16} {data : List Byte}
    {Q : Except Int Unit → Unit → (framework dev).State → Prop}
    (htarget : m.objects su.target = some (.target true))
    (hfail : ∀ status, Q (.error status) () m)
    (hdone : 0 < data.length → data.length ≤ 255 → ∀ result ran,
      dev m.device ioctlWrite (header sid reg data.length ++ data) 0 = ran →
      Q result () { m with device := ran.2 }) :
    (su.writeBytes sid reg data).wp (framework dev) Q () m := by
  refine Proc.wp_ite (fun _ => ?_) fun hlen => ?_
  · exact (Proc.wp_fail (M := framework dev) Q () m _).2 (hfail _)
  · exact ioctlIn_wp htarget (by simp [header]) hfail (hdone (by omega) (by omega))

/-- A step goes on when it succeeded, and ends the body otherwise. -/
theorem orNone_bind {x : SuperuserM α} {f : α → CallM β}
    {Q : Except Unit β → Unit → (framework dev).State → Prop}
    (h : x.wp (framework dev) (fun result _ m' =>
      (∀ value, result = .ok value → (f value).wp (framework dev) Q () m') ∧
        ∀ status, result = .error status → Q (.error ()) () m') () m) :
    (orNone x >>= f).wp (framework dev) Q () m := by
  refine (Proc.wp_bind (M := framework dev) () m _ _ _).2 ?_
  refine (Proc.wp_attempt_bind (M := framework dev) () m _ _ _).2 (Proc.wp_mono h ?_)
  intro result s' m' hnext
  cases result with
  | ok value => exact (Proc.wp_pure (M := framework dev) _ () m' value).2 (hnext.1 value rfl)
  | error status => exact (Proc.wp_fail (M := framework dev) _ () m' _).2 (hnext.2 status rfl)

/-- A call whose status is dropped. -/
theorem orNone_wp {x : SuperuserM α} {Q : Except Unit α → Unit → (framework dev).State → Prop}
    (h : x.wp (framework dev) (fun result _ m' =>
      (∀ value, result = .ok value → Q (.ok value) () m') ∧
        ∀ status, result = .error status → Q (.error ()) () m') () m) :
    (orNone x).wp (framework dev) Q () m := by
  refine (Proc.wp_attempt_bind (M := framework dev) () m _ _ _).2 (Proc.wp_mono h ?_)
  intro result s' m' hnext
  cases result with
  | ok value => exact (Proc.wp_pure (M := framework dev) _ () m' value).2 (hnext.1 value rfl)
  | error status => exact (Proc.wp_fail (M := framework dev) _ () m' _).2 (hnext.2 status rfl)

/-! ### The session -/

/-- The target of a session is new, open, and over everything that was there. -/
structure InSession (m : Framework D) (su : SuperuserBus) (m' : Framework D) : Prop where
  fresh : m.objects su.target = none
  objects : m'.objects = Function.update m.objects su.target (some (.target true))

/-- The target of a session is open. -/
theorem InSession.isOpen (h : InSession m su m') : m'.objects su.target = some (.target true) := by
  rw [h.objects, Function.update_self]

/-- What a call does to the device alone leaves the session open. -/
theorem InSession.withDevice (h : InSession m su m') (d : D) :
    InSession m su { m' with device := d } :=
  ⟨h.fresh, h.objects⟩

/-- A session leaves what its body leaves, without the target. -/
theorem session_wp {body : SuperuserBus → CallM α}
    {Q : Except Unit α → Unit → (framework dev).State → Prop}
    (hfail : Q (.error ()) () m)
    (hbody : ∀ su m', InSession m su m' → m'.device = m.device →
      (body su).wp (framework dev) (fun result _ m'' =>
        InSession m su m'' ∧ Q result () { m with device := m''.device }) () m') :
    (session body).wp (framework dev) Q () m := by
  refine orNone_bind ?_
  refine (Proc.wp_perform_bind (M := framework dev) () m .createTarget _ _).2
    ⟨trivial, fun (created : Int × Handle) hcreated => made_wp ?_ ?_⟩
  · exact (Proc.wp_fail (M := framework dev) _ () m created.1).2
      ⟨fun _ hok => (by cases hok), fun _ _ => hfail⟩
  have hfresh : m.objects created.2 = none := hcreated
  refine (Proc.wp_perform_bind (M := framework dev) () _ (.openTarget created.2 openParams) _ _).2
    ⟨Function.update_self .., fun (status : Int) _ => ?_⟩
  refine Proc.wp_ite (fun hbad => ?_) fun hgood => ?_
  · -- It does not open: the target goes again.
    have hnext : (framework dev).next (m.put created.2 (some (.target false)))
        (.openTarget created.2 openParams) status = m.put created.2 (some (.target false)) :=
      if_neg (by rw [hbad]; decide)
    rw [hnext]
    refine (Proc.wp_perform_bind (M := framework dev) () _ (.delete created.2) _ _).2
      ⟨⟨_, Function.update_self .., by simp⟩, fun _ _ => ?_⟩
    have hgone : Framework.put (m.put created.2 (some (.target false))) created.2 none = m := by
      simp only [Framework.put, Function.update_idem, ← hfresh, Function.update_eq_self]
    refine (Proc.wp_fail (M := framework dev) _ () _ status).2
      ⟨fun _ hok => (by cases hok), fun _ _ => ?_⟩
    show Q (.error ()) () (Framework.put (m.put created.2 (some (.target false))) created.2 none)
    rw [hgone]
    exact hfail
  · have hnext : (framework dev).next (m.put created.2 (some (.target false)))
        (.openTarget created.2 openParams) status =
        Framework.put (m.put created.2 (some (.target false))) created.2 (some (.target true)) :=
      if_pos (Bool.eq_true_of_not_eq_false hgood)
    rw [hnext]
    refine (Proc.wp_pure (M := framework dev) _ () _ (⟨created.2⟩ : SuperuserBus)).2
      ⟨fun su hsu => ?_, fun _ herr => (by cases herr)⟩
    cases hsu
    have hopen : InSession m ⟨created.2⟩
        (Framework.put (m.put created.2 (some (.target false))) created.2 (some (.target true))) :=
      ⟨hfresh, Function.update_idem ..⟩
    rw [Proc.wp_attempt_bind]
    refine Proc.wp_mono (hbody ⟨created.2⟩ _ hopen rfl) ?_
    intro result s' m'' hend
    obtain ⟨hstill, hQ⟩ := hend
    -- Closed and deleted, whatever the body returned.
    refine (Proc.wp_bind (M := framework dev) () _ _ _ _).2 ?_
    refine (Proc.wp_perform_bind (M := framework dev) () m'' (.closeTarget created.2) _ _).2
      ⟨hstill.isOpen, fun _ _ => ?_⟩
    refine (Proc.wp_perform (M := framework dev) () _ (.delete created.2) _).2
      ⟨⟨_, Function.update_self .., by simp⟩, fun _ _ => ?_⟩
    refine (Proc.wp_ofExcept (M := framework dev) _ () _ result).2 ?_
    have hgone : Framework.put (m''.put created.2 (some (.target false))) created.2 none =
        { m with device := m''.device } := by
      simp only [Framework.put, hstill.objects, Function.update_idem, ← hfresh,
        Function.update_eq_self]
    show Q result () (Framework.put (m''.put created.2 (some (.target false))) created.2 none)
    rw [hgone]
    exact hQ

end Kmdf.Superuser
