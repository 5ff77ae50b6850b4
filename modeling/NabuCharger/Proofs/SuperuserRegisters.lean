import NabuCharger.Kmdf.FccRegister
import NabuCharger.Proofs.SuperuserObjects

/-!
# `Proofs.SuperuserRegisters`: what the calls to the PMIC read and write

The driver and the PMIC share a format: a frame of flags, address and length, with the payload of a
write behind it. `decodeRequest` is the other side of it. Whatever the driver sends decodes to what
it was asked for, so two requests never share a frame (`superuser_frames`).

A device that decodes its frames this way keeps a register file (`KeepsRegisters`). Over such a
device the calls are steps on the file alone (`Call.Spec`): a state of charge that was answered is
the one in the cell and its copy, a snapshot is the registers it names, with the pairs checked
against their copies, and of all registers only the limit of the buck is ever written. That is so
at every call of any sequence, whichever frames, objects or transfers fail (`superuser_registers`).

The session in which the policy writes the limit is a view of this one
(`writeFccRaw_refines`).
-/

set_option autoImplicit false

namespace Kmdf.Superuser

open Effectful Wdf

/-! ### The other side of the format -/

/-- What a frame asks for. -/
inductive SpmiRequest
  | grant (peris : List (BitVec 16))
  | read (sid : Byte) (reg : BitVec 16) (len : Nat)
  | write (sid : Byte) (reg : BitVec 16) (data : List Byte)
  deriving DecidableEq, Repr

/-- Half-words, least significant byte first. -/
def decodePeris : List Byte → Option (List (BitVec 16))
  | [] => some []
  | [_] => none
  | low :: high :: rest => (decodePeris rest).map fun peris => (high ++ low) :: peris

/-- Slave, register, length, and what stands behind the header. -/
def decodeHeader : List Byte → Option (Byte × BitVec 16 × Nat × List Byte)
  | _ :: _ :: _ :: _ :: r0 :: r1 :: sid :: _ :: l0 :: l1 :: l2 :: l3 :: rest =>
      some (sid, r1 ++ r0, (l3 ++ l2 ++ l1 ++ l0 : BitVec 32).toNat, rest)
  | _ => none

/-- The count, and as many peripherals. -/
def decodeGrant : List Byte → Option SpmiRequest
  | low :: high :: rest =>
      match decodePeris rest with
      | some peris =>
          if peris.length = (high ++ low : BitVec 16).toNat then some (.grant peris) else none
      | none => none
  | _ => none

/-- Nothing stands behind the header of a read, and the payload behind that of a write. -/
def decodeTransfer (ioctl : Nat) (frame : List Byte) : Option SpmiRequest :=
  match decodeHeader frame with
  | some (sid, reg, len, rest) =>
      if ioctl = ioctlRead ∧ rest = [] then some (.read sid reg len)
      else if ioctl = ioctlWrite ∧ rest.length = len then some (.write sid reg rest)
      else none
  | none => none

/-- A frame is decoded by the code it was sent with. -/
def decodeRequest (ioctl : Nat) (frame : List Byte) : Option SpmiRequest :=
  if ioctl = ioctlGrant then decodeGrant frame else decodeTransfer ioctl frame

/-! ### What the driver sends -/

/-- The slave stands above the register. -/
theorem addrEnc_sid (sid : Byte) (reg : BitVec 16) :
    (superuserAddrEnc sid reg).extractLsb' 16 8 = sid := by
  ext i hi
  have hword : 16 + i < 32 := by omega
  have habove : ¬16 + i < 16 := by omega
  simp [superuserAddrEnc, hword, habove, BitVec.getLsbD_eq_getElem hi]

/-- The two bytes of the encoded address are the register. -/
theorem addrEnc_reg (sid : Byte) (reg : BitVec 16) :
    (superuserAddrEnc sid reg).extractLsb' 8 8 ++ (superuserAddrEnc sid reg).extractLsb' 0 8 =
      reg := by
  have hlow : (superuserAddrEnc sid reg).extractLsb' 0 16 = reg := by
    ext i hi
    have hword : i < 32 := by omega
    simp [superuserAddrEnc, hword, hi]
  exact (BitVec.extractLsb'_append_extractLsb'_eq_extractLsb' rfl).trans hlow

/-- The header decodes to what it was made from, with the rest behind it. -/
theorem decodeHeader_header (sid : Byte) (reg : BitVec 16) {len : Nat} (hlen : len ≤ 255)
    (rest : List Byte) :
    decodeHeader (header sid reg len ++ rest) = some (sid, reg, len, rest) := by
  have hcount : ((0 : Byte) ++ (0 : Byte) ++ (0 : Byte) ++ BitVec.ofNat 8 len : BitVec 32).toNat =
      len := by
    rw [BitVec.toNat_append]
    simp
    omega
  show some ((superuserAddrEnc sid reg).extractLsb' 16 8,
    (superuserAddrEnc sid reg).extractLsb' 8 8 ++ (superuserAddrEnc sid reg).extractLsb' 0 8,
    _, rest) = _
  rw [addrEnc_sid, addrEnc_reg, hcount]

/-- A grant frame decodes to its grant. -/
theorem decode_grantFrame (peri : BitVec 16) :
    decodeRequest ioctlGrant (grantFrame peri) = some (.grant [peri]) := by
  have hperi : (peri.extractLsb' 8 8 ++ peri.extractLsb' 0 8 : BitVec 16) = peri :=
    BitVec.extractLsb'_append_extractLsb'
  have hperis : decodePeris [peri.extractLsb' 0 8, peri.extractLsb' 8 8] = some [peri] := by
    simp only [decodePeris, Option.map_some, hperi]
  rw [decodeRequest, if_pos rfl, grantFrame, decodeGrant, hperis]
  rfl

/-- A read frame decodes to its read. -/
theorem decode_readFrame (sid : Byte) (reg : BitVec 16) {len : Nat} (hlen : len ≤ 255) :
    decodeRequest ioctlRead (header sid reg len) = some (.read sid reg len) := by
  have hheader := decodeHeader_header sid reg hlen []
  rw [List.append_nil] at hheader
  rw [decodeRequest, if_neg (by decide), decodeTransfer, hheader]
  exact if_pos ⟨rfl, rfl⟩

/-- A write frame decodes to its write, data included. -/
theorem decode_writeFrame (sid : Byte) (reg : BitVec 16) {data : List Byte}
    (hlen : data.length ≤ 255) :
    decodeRequest ioctlWrite (header sid reg data.length ++ data) = some (.write sid reg data) := by
  rw [decodeRequest, if_neg (by decide), decodeTransfer, decodeHeader_header sid reg hlen data]
  exact (if_neg fun h => absurd h.1 (by decide)).trans (if_pos ⟨rfl, rfl⟩)

/-- The frame of a request, and the code it goes out with. -/
def SpmiRequest.frame : SpmiRequest → Option (Nat × List Byte)
  | .grant [peri] => some (ioctlGrant, grantFrame peri)
  | .grant _ => none
  | .read sid reg len => if len = 0 ∨ 255 < len then none else some (ioctlRead, header sid reg len)
  | .write sid reg data =>
      if data.length = 0 ∨ 255 < data.length then none
      else some (ioctlWrite, header sid reg data.length ++ data)

/-- A frame decodes to the request it was made from. -/
theorem decode_frame {request : SpmiRequest} {ioctl : Nat} {frame : List Byte}
    (h : request.frame = some (ioctl, frame)) : decodeRequest ioctl frame = some request := by
  -- one decoder for each kind; a request that has no frame is none of these
  cases request with
  | grant peris =>
      match peris with
      | [peri] =>
          cases h
          exact decode_grantFrame peri
      | [] => cases h
      | _ :: _ :: _ => cases h
  | read sid reg len =>
      rw [SpmiRequest.frame] at h
      split at h
      · cases h
      · cases h
        exact decode_readFrame sid reg (by omega)
  | write sid reg data =>
      rw [SpmiRequest.frame] at h
      split at h
      · cases h
      · cases h
        exact decode_writeFrame sid reg (by omega)

/-- Two requests with one frame and one code are one request. -/
theorem superuser_frames (request : SpmiRequest) {ioctl : Nat} {frame : List Byte}
    (h : request.frame = some (ioctl, frame)) :
    decodeRequest ioctl frame = some request ∧
      ∀ other : SpmiRequest, other.frame = some (ioctl, frame) → other = request := by
  refine ⟨decode_frame h, fun other hother => ?_⟩
  have hsame := (decode_frame hother).symm.trans (decode_frame h)
  exact Option.some.inj hsame

/-- A grant of one peripheral. -/
theorem superuser_frames_grant :
    decodeRequest ioctlGrant [1, 0, 0x41, 0] = some (.grant [0x0041]) ∧
      ∀ other : SpmiRequest, other.frame = some (ioctlGrant, [1, 0, 0x41, 0]) →
        other = .grant [0x0041] :=
  superuser_frames (.grant [0x0041]) rfl

/-! ### A device with registers -/

/-- Registers by slave and address. -/
abbrev SpmiFile : Type := Byte → BitVec 16 → Byte

/-- The registers of a transfer. -/
def registers (file : SpmiFile) (sid : Byte) (reg : BitVec 16) (len : Nat) : List Byte :=
  (List.range len).map fun i => file sid (reg + BitVec.ofNat 16 i)

/-- The device has registers behind its frames. A read that it completes returns them, and only a
write changes any, of those it is made to. A write may change them to anything. -/
structure KeepsRegisters {D : Type} (dev : Device D) (file : D → SpmiFile) : Prop where
  granted : ∀ d frame size peris, decodeRequest ioctlGrant frame = some (.grant peris) →
    file (dev d ioctlGrant frame size).2 = file d
  kept : ∀ d frame size sid reg len, decodeRequest ioctlRead frame = some (.read sid reg len) →
    file (dev d ioctlRead frame size).2 = file d
  returned : ∀ d frame size sid reg, decodeRequest ioctlRead frame = some (.read sid reg size) →
    ntOk (dev d ioctlRead frame size).1.1 = true →
      (dev d ioctlRead frame size).1.2 = registers (file d) sid reg size
  others : ∀ d frame size sid reg data,
    decodeRequest ioctlWrite frame = some (.write sid reg data) →
    ∀ s r, (∀ i < data.length, ¬(s = sid ∧ r = reg + BitVec.ofNat 16 i)) →
      file (dev d ioctlWrite frame size).2 s r = file d s r

/-- What the registers say about the state of charge. -/
def battSocOf (file : SpmiFile) : Option Byte :=
  if file spmiSidUsbin spmiRegBattSocSubtype = spmiBattSocSubtypePm8150b ∧
      file spmiSidUsbin spmiRegBattSoc = file spmiSidUsbin (spmiRegBattSoc + 1) then
    some (file spmiSidUsbin spmiRegBattSoc)
  else none

/-- What they say about the buck and the fuel gauge. -/
def chargeRegsOf (file : SpmiFile) : Option ChargeSnapshot :=
  let pair := fun reg => registers file spmiSidUsbin reg 2
  if pair spmiRegFgIbattLsb = pair spmiRegFgIbattLsbCp ∧
      pair spmiRegFgVbattLsb = pair spmiRegFgVbattLsbCp then
    some { fccRaw := file spmiSidUsbin spmiRegChgrFcc
           chargeEnable := file spmiSidUsbin spmiRegChgrChargingEnable
           inhibit := file spmiSidUsbin spmiRegChgrCfg2
           chgrStatus := file spmiSidUsbin spmiRegChgrStatus1
           fvRaw := file spmiSidUsbin spmiRegChgrFloatVoltage
           iclRaw := file spmiSidUsbin spmiRegUsbinIcl
           usbinAllow := file spmiSidUsbin spmiRegUsbinAdapterAllow
           ibattUa := ibattUa (pair spmiRegFgIbattLsb)
           fgVbattUv := fgVbattUv (pair spmiRegFgVbattLsb) }
  else none

/-- A call as a step on the registers. It may fail at any time. -/
def Call.Spec (file : SpmiFile) (result : Except Unit Answer) (file' : SpmiFile) : Call → Prop
  | .readBattSocRaw => file' = file ∧
      ∀ answer, result = .ok answer → ∃ raw, answer = .soc raw ∧ battSocOf file = some raw
  | .readChargeRegs => file' = file ∧
      ∀ answer, result = .ok answer → ∃ regs, answer = .regs regs ∧ chargeRegsOf file = some regs
  | .writeFccRaw _ =>
      (∀ s r, ¬(s = spmiSidUsbin ∧ r = spmiRegChgrFcc) → file' s r = file s r) ∧
        ∀ answer, result = .ok answer → answer = .fcc (file' spmiSidUsbin spmiRegChgrFcc)

section
variable {D α β : Type} {dev : Device D} {file : D → SpmiFile} {m m' : Framework D}
  {su : SuperuserBus} {f : SpmiFile}

/-- The session is open, and the registers are these. -/
structure Shows (file : D → SpmiFile) (m : Framework D) (su : SuperuserBus) (f : SpmiFile)
    (m' : Framework D) : Prop where
  session : InSession m su m'
  holds : file m'.device = f

/-- Only the registers of the device count, not the rest of it. -/
theorem Shows.withDevice (h : Shows file m su f m') {d : D} (hd : file d = file m'.device) :
    Shows file m su f { m' with device := d } :=
  ⟨h.session.withDevice d, hd.trans h.holds⟩

/-- A grant leaves the registers. -/
theorem grant_shows (hdev : KeepsRegisters dev file) (hs : Shows file m su f m')
    {peri : BitVec 16} {body : Unit → CallM β}
    {Q : Except Unit β → Unit → (framework dev).State → Prop}
    (hfail : ∀ m', Shows file m su f m' → Q (.error ()) () m')
    (hbody : ∀ m', Shows file m su f m' → (body ()).wp (framework dev) Q () m') :
    (orNone (su.grant peri) >>= body).wp (framework dev) Q () m' := by
  refine orNone_bind (grant_wp hs.session.isOpen (fun status => ?_) fun result ran hran => ?_)
  · exact ⟨fun _ hok => (by cases hok), fun _ _ => hfail _ hs⟩
  · have hkept := hdev.granted m'.device _ 0 _ (decode_grantFrame peri)
    rw [hran] at hkept
    exact ⟨fun _ _ => hbody _ (hs.withDevice hkept), fun _ _ => hfail _ (hs.withDevice hkept)⟩

/-- The reply of a device that returned what there was room for. -/
theorem reply_eq {ran : (Int × List Byte) × D} {bytes : List Byte} {room : List Byte}
    (h : ntOk ran.1.1 = true → ran.1.2 = bytes) (hlength : bytes.length = room.length)
    {value : List Byte} (hreply : reply ran room = .ok value) : value = bytes := by
  rw [reply] at hreply
  split at hreply
  · next hok =>
      cases hreply
      rw [h hok, Framework.overlay, ← hlength, List.take_length, List.drop_eq_nil_of_le
        (Nat.le_of_eq hlength.symm), List.append_nil]
  · cases hreply

/-- A read leaves the registers, and answers them. -/
theorem readBytes_answers (hdev : KeepsRegisters dev file) (hs : Shows file m su f m')
    {sid : Byte} {reg : BitVec 16} {len : Nat} :
    (su.readBytes sid reg len).wp (framework dev) (fun result _ m'' => Shows file m su f m'' ∧
      ∀ value, result = .ok value → value = registers f sid reg len) () m' := by
  refine readBytes_wp hs.session.isOpen (fun status => ⟨hs, fun _ hok => by cases hok⟩) ?_
  intro _ hlen ran hran
  have hframe := decode_readFrame sid reg hlen
  have hkept := hdev.kept m'.device _ len _ _ _ hframe
  have hreturned := hdev.returned m'.device _ len _ _ hframe
  rw [hran] at hkept hreturned
  rw [hs.holds] at hreturned
  refine ⟨hs.withDevice hkept, fun value hreply => reply_eq hreturned ?_ hreply⟩
  rw [registers, List.length_map, List.length_range, List.length_replicate]

/-- A byte that was read is the register's. -/
theorem readU8_answers (hdev : KeepsRegisters dev file) (hs : Shows file m su f m')
    {sid : Byte} {reg : BitVec 16} :
    (su.readU8 sid reg).wp (framework dev) (fun result _ m'' => Shows file m su f m'' ∧
      ∀ value, result = .ok value → value = f sid reg) () m' := by
  refine (Proc.wp_bind (M := framework dev) () m' _ _ _).2 ?_
  refine Proc.wp_mono (readBytes_answers hdev hs) ?_
  intro result s' m'' hend
  obtain ⟨hs'', hvalue⟩ := hend
  cases result with
  | error status => exact ⟨hs'', fun _ hok => by cases hok⟩
  -- one byte was asked for, and it is the first of the answer
  | ok buf =>
      refine (Proc.wp_pure (M := framework dev) _ () m'' _).2 ⟨hs'', fun value hok => ?_⟩
      cases hok
      rw [hvalue buf rfl]
      simp [registers]

/-- A step that answers goes on with its answer. -/
theorem answers_bind {x : SuperuserM α} {expected : α} {body : α → CallM β}
    {Q : Except Unit β → Unit → (framework dev).State → Prop}
    (hx : x.wp (framework dev) (fun result _ m'' => Shows file m su f m'' ∧
      ∀ value, result = .ok value → value = expected) () m')
    (hfail : ∀ m', Shows file m su f m' → Q (.error ()) () m')
    (hbody : ∀ m', Shows file m su f m' → (body expected).wp (framework dev) Q () m') :
    (orNone x >>= body).wp (framework dev) Q () m' := by
  refine orNone_bind (Proc.wp_mono hx ?_)
  intro result s' m'' hend
  obtain ⟨hs'', hvalue⟩ := hend
  refine ⟨fun value hok => ?_, fun _ _ => hfail m'' hs''⟩
  rw [hvalue value hok]
  exact hbody m'' hs''

/-! ### The calls -/

/-- The state of charge. -/
theorem readBattSocRaw_answers (hdev : KeepsRegisters dev file) (m : Framework D) :
    readBattSocRaw.wp (framework dev) (fun result _ m' => file m'.device = file m.device ∧
      ∀ raw, result = .ok raw → battSocOf (file m.device) = some raw) () m := by
  have hnone : ∀ raw : Byte, (.error () : Except Unit Byte) = .ok raw →
      battSocOf (file m.device) = some raw := fun raw h => by cases h
  refine session_wp ⟨rfl, hnone⟩ fun su m' hopen hdevice => ?_
  have hs : Shows file m su (file m.device) m' := ⟨hopen, by rw [hdevice]⟩
  -- each step may fail and then answers nothing, with the registers as they were
  have hfail : ∀ m', Shows file m su (file m.device) m' →
      InSession m su m' ∧ file m'.device = file m.device ∧ ∀ raw : Byte,
        (.error () : Except Unit Byte) = .ok raw → battSocOf (file m.device) = some raw :=
    fun m' hs => ⟨hs.session, hs.holds, hnone⟩
  refine grant_shows hdev hs hfail fun m' hs => ?_
  refine answers_bind (readU8_answers hdev hs) hfail fun m' hs => ?_
  refine Proc.wp_ite (fun _ => (Proc.wp_fail (M := framework dev) _ () m' ()).2 (hfail m' hs))
    fun hsubtype => ?_
  refine answers_bind (readBytes_answers hdev hs) hfail fun m' hs => ?_
  refine Proc.wp_ite (fun _ => (Proc.wp_fail (M := framework dev) _ () m' ()).2 (hfail m' hs))
    fun hcopy => ?_
  refine (Proc.wp_pure (M := framework dev) _ () m' _).2 ⟨hs.session, hs.holds, fun raw hok => ?_⟩
  cases hok
  have hfirst : (registers (file m.device) spmiSidUsbin spmiRegBattSoc 2).getD 0 0 =
      file m.device spmiSidUsbin spmiRegBattSoc := by simp [registers]
  have hsecond : (registers (file m.device) spmiSidUsbin spmiRegBattSoc 2).getD 1 0 =
      file m.device spmiSidUsbin (spmiRegBattSoc + 1) := by simp [registers]
  rw [not_not, hfirst, hsecond] at hcopy
  rw [hfirst, battSocOf, if_pos ⟨not_not.1 hsubtype, hcopy⟩]

/-- The snapshot. -/
theorem readChargeRegs_answers (hdev : KeepsRegisters dev file) (m : Framework D) :
    readChargeRegs.wp (framework dev) (fun result _ m' => file m'.device = file m.device ∧
      ∀ regs, result = .ok regs → chargeRegsOf (file m.device) = some regs) () m := by
  have hnone : ∀ regs : ChargeSnapshot, (.error () : Except Unit ChargeSnapshot) = .ok regs →
      chargeRegsOf (file m.device) = some regs := fun raw h => by cases h
  refine session_wp ⟨rfl, hnone⟩ fun su m' hopen hdevice => ?_
  have hs : Shows file m su (file m.device) m' := ⟨hopen, by rw [hdevice]⟩
  have hfail : ∀ m', Shows file m su (file m.device) m' →
      InSession m su m' ∧ file m'.device = file m.device ∧ ∀ regs : ChargeSnapshot,
        (.error () : Except Unit ChargeSnapshot) = .ok regs →
          chargeRegsOf (file m.device) = some regs :=
    fun m' hs => ⟨hs.session, hs.holds, hnone⟩
  -- The grants, the single registers, and the two pairs with their copies.
  refine grant_shows hdev hs hfail fun m' hs => grant_shows hdev hs hfail fun m' hs => ?_
  refine grant_shows hdev hs hfail fun m' hs => ?_
  refine answers_bind (readU8_answers hdev hs) hfail fun m' hs => ?_
  refine answers_bind (readU8_answers hdev hs) hfail fun m' hs => ?_
  refine answers_bind (readU8_answers hdev hs) hfail fun m' hs => ?_
  refine answers_bind (readU8_answers hdev hs) hfail fun m' hs => ?_
  refine answers_bind (readU8_answers hdev hs) hfail fun m' hs => ?_
  refine answers_bind (readU8_answers hdev hs) hfail fun m' hs => ?_
  refine answers_bind (readU8_answers hdev hs) hfail fun m' hs => ?_
  refine answers_bind (readBytes_answers hdev hs) hfail fun m' hs => ?_
  refine answers_bind (readBytes_answers hdev hs) hfail fun m' hs => ?_
  refine Proc.wp_ite (fun _ => (Proc.wp_fail (M := framework dev) _ () m' ()).2 (hfail m' hs))
    fun hibatt => ?_
  refine answers_bind (readBytes_answers hdev hs) hfail fun m' hs => ?_
  refine answers_bind (readBytes_answers hdev hs) hfail fun m' hs => ?_
  refine Proc.wp_ite (fun _ => (Proc.wp_fail (M := framework dev) _ () m' ()).2 (hfail m' hs))
    fun hvbatt => ?_
  refine (Proc.wp_pure (M := framework dev) _ () m' _).2 ⟨hs.session, hs.holds, fun raw hok => ?_⟩
  cases hok
  exact if_pos ⟨not_not.1 hibatt, not_not.1 hvbatt⟩

/-- The limit of the buck. What is answered is what is in the register. -/
theorem writeFccRaw_answers (hdev : KeepsRegisters dev file) (raw : Byte) (m : Framework D) :
    (writeFccRaw raw).wp (framework dev) (fun result _ m' =>
      (∀ s r, ¬(s = spmiSidUsbin ∧ r = spmiRegChgrFcc) →
        file m'.device s r = file m.device s r) ∧
      ∀ read, result = .ok read → read = file m'.device spmiSidUsbin spmiRegChgrFcc) () m := by
  have hnone : ∀ {f : SpmiFile} (read : Byte), (.error () : Except Unit Byte) = .ok read →
      read = f spmiSidUsbin spmiRegChgrFcc := fun read h => by cases h
  refine session_wp ⟨fun _ _ _ => rfl, hnone⟩ fun su m' hopen hdevice => ?_
  have hs : Shows file m su (file m.device) m' := ⟨hopen, by rw [hdevice]⟩
  refine grant_shows hdev hs (fun m' hs => ⟨hs.session, ?_, hnone⟩) fun m' hs => ?_
  · intro s r _
    rw [hs.holds]
  refine orNone_bind (writeBytes_wp hs.session.isOpen (fun status => ?_) ?_)
  · refine ⟨fun _ hok => (by cases hok), fun _ _ => ⟨hs.session, fun s r _ => ?_, hnone⟩⟩
    rw [hs.holds]
  · intro _ hlen result ran hran
    have hothers := hdev.others m'.device _ 0 _ _ _
      (decode_writeFrame spmiSidUsbin spmiRegChgrFcc hlen)
    rw [hran, hs.holds] at hothers
    -- The payload is one byte, so the write is of one register.
    have houtside : ∀ s r, ¬(s = spmiSidUsbin ∧ r = spmiRegChgrFcc) →
        file ran.2 s r = file m.device s r := by
      intro s r hne
      refine hothers s r fun i hi => ?_
      have hzero : i = 0 := by simpa using hi
      subst hzero
      simpa using hne
    have hs' : Shows file m su (file ran.2) { m' with device := ran.2 } :=
      ⟨hs.session.withDevice ran.2, rfl⟩
    refine ⟨fun _ _ => orNone_wp (Proc.wp_mono (readU8_answers hdev hs') ?_), fun _ _ => ?_⟩
    · intro answer s' m'' hend
      obtain ⟨hs'', hvalue⟩ := hend
      have hkept : ∀ s r, ¬(s = spmiSidUsbin ∧ r = spmiRegChgrFcc) →
          file m''.device s r = file m.device s r := by
        intro s r hne
        rw [hs''.holds, houtside s r hne]
      refine ⟨fun value hok => ⟨hs''.session, hkept, fun read hread => ?_⟩,
        fun _ _ => ⟨hs''.session, hkept, hnone⟩⟩
      cases hread
      show value = file m''.device spmiSidUsbin spmiRegChgrFcc
      rw [hvalue value hok, hs''.holds]
    · exact ⟨hs'.session, houtside, hnone⟩

/-- A call answers what its program returned. -/
theorem answered_wp {x : CallM α} {g : α → Answer} {P : Except Unit α → Framework D → Prop}
    {R : Except Unit Answer → Framework D → Prop}
    (hx : x.wp (framework dev) (fun result _ m' => P result m') () m)
    (hok : ∀ a m', P (.ok a) m' → R (.ok (g a)) m')
    (hfail : ∀ m', P (.error ()) m' → R (.error ()) m') :
    (x >>= fun a => pure (g a)).wp (framework dev) (fun result _ m' => R result m') () m := by
  refine (Proc.wp_bind (M := framework dev) () m _ _ _).2 (Proc.wp_mono hx ?_)
  intro result s' m' hend
  cases result with
  | error _ => exact hfail m' hend
  | ok a => exact (Proc.wp_pure (M := framework dev) _ () m' _).2 (hok a m' hend)

/-- The step lemma: a call is a step on the registers. -/
theorem call_spec (hdev : KeepsRegisters dev file) (call : Call) (m : Framework D) :
    call.run.wp (framework dev) (fun result _ m' =>
      call.Spec (file m.device) result (file m'.device)) () m := by
  -- each call answers from the registers the device holds, or fails
  cases call with
  | readBattSocRaw =>
      refine answered_wp (readBattSocRaw_answers hdev m)
        (fun raw m' hend => ⟨hend.1, fun answer hok => ?_⟩)
        fun m' hend => ⟨hend.1, fun _ hok => by cases hok⟩
      cases hok
      exact ⟨raw, rfl, hend.2 raw rfl⟩
  | readChargeRegs =>
      refine answered_wp (readChargeRegs_answers hdev m)
        (fun regs m' hend => ⟨hend.1, fun answer hok => ?_⟩)
        fun m' hend => ⟨hend.1, fun _ hok => by cases hok⟩
      cases hok
      exact ⟨regs, rfl, hend.2 regs rfl⟩
  | writeFccRaw raw =>
      refine answered_wp (writeFccRaw_answers hdev raw m)
        (fun read m' hend => ⟨hend.1, fun answer hok => ?_⟩)
        fun m' hend => ⟨hend.1, fun _ hok => by cases hok⟩
      cases hok
      rw [hend.2 read rfl]

end

/-- The exchanges of one turn. -/
theorem turnExchanges_single (turn : Turn ObjectEffect Unit Unit Answer Call) :
    turnExchanges [turn] = turn.trace :=
  List.flatMap_singleton ..

/-- At every call of any sequence, from any objects and registers, the call is a step on the
registers. -/
theorem superuser_registers {D : Type} {dev : Device D} {file : D → SpmiFile}
    (hdev : KeepsRegisters dev file) {turns : List (Turn ObjectEffect Unit Unit Answer Call)}
    (h : History Call.run () turns ()) {m : Framework D}
    (hallow : (framework dev).Allowed m (turnExchanges turns))
    (before rest : List (Turn ObjectEffect Unit Unit Answer Call))
    (turn : Turn ObjectEffect Unit Unit Answer Call) (hsplit : turns = before ++ turn :: rest) :
    turn.op.Spec (file ((framework dev).after m (turnExchanges before)).device) turn.result
      (file ((framework dev).after m (turnExchanges (before ++ [turn]))).device) := by
  subst hsplit
  -- the call starts from the device that the calls before it left
  obtain ⟨middle, _, hlater⟩ := h.split
  cases hlater with
  | step hrun _ =>
      rw [turnExchanges_append, (framework dev).allowed_append, turnExchanges_cons,
        (framework dev).allowed_append] at hallow
      have hpost := Prog.Yields.post hrun
        (call_spec hdev _ ((framework dev).after m (turnExchanges before))).prog hallow.2.1
      rw [turnExchanges_append, Machine.after_append, turnExchanges_single]
      exact hpost

/-! ### The session of the policy -/

/-- The registers after a write. -/
def written (file : SpmiFile) (sid : Byte) (reg : BitVec 16) (data : List Byte) : SpmiFile :=
  fun s r => if s = sid then data[(r - reg).toNat]?.getD (file s r) else file s r

/-- A device that does what its frames ask for. -/
def fileDevice : Device SpmiFile := fun file ioctl frame _ =>
  match decodeRequest ioctl frame with
  | some (.grant _) => ((0, []), file)
  | some (.read sid reg len) => ((0, registers file sid reg len), file)
  | some (.write sid reg data) => ((0, []), written file sid reg data)
  | none => ((statusInvalidParameter, []), file)

/-- The device of the witnesses keeps its registers. -/
theorem fileDevice_keepsRegisters : KeepsRegisters fileDevice id := by
  constructor
  case granted =>
    intro d frame size peris h
    simp only [fileDevice, h, id]
  case kept =>
    intro d frame size sid reg len h
    simp only [fileDevice, h, id]
  case returned =>
    intro d frame size sid reg h _
    simp only [fileDevice, h, id]
  case others =>
    intro d frame size sid reg data h s r houtside
    simp only [fileDevice, h, id, written]
    split
    · next hsid =>
        -- A place in the payload would be a register of the write.
        have hbeyond : data.length ≤ (r - reg).toNat := by
          by_contra hin
          refine houtside (r - reg).toNat (by omega) ⟨hsid, ?_⟩
          rw [BitVec.ofNat_toNat, BitVec.setWidth_eq, BitVec.add_comm, BitVec.sub_add_cancel]
        rw [List.getElem?_eq_none hbeyond]
        rfl
    · rfl

/-- The gauge shows 224, and the limit of the buck is 1.5 A. -/
def gaugeFile : SpmiFile := fun _ reg =>
  if reg = spmiRegBattSocSubtype then spmiBattSocSubtypePm8150b
  else if reg = spmiRegBattSoc ∨ reg = spmiRegBattSoc + 1 then 224
  else if reg = spmiRegChgrFcc then 30
  else 0

/-- A call, in a framework that works. -/
@[irreducible] def workingCall (call : Call) :
    List (Event ObjectEffect) × Option (Except Unit Answer × Unit) :=
  let ran := (call.run ()).runWith (Working.answer fileDevice) (.start gaugeFile)
  (ran.1, ran.2.2)

/-- A computed call that returns is a history of one call. -/
theorem history_workingCall {call : Call} {result : Except Unit Answer}
    (h : (workingCall call).2 = some (result, ())) :
    History Call.run () [⟨call, (), (workingCall call).1, result, ()⟩] () := by
  rw [workingCall] at h ⊢
  have hrun := Prog.yields_runWith (Working.answer fileDevice) (call.run ()) (.start gaugeFile)
    (result, ()) h
  exact .step hrun (.done ())

/-- The limit is raised to 3 A, and is read back. -/
theorem superuser_registers_writeFccRaw :
    (Call.writeFccRaw 60).Spec gaugeFile (.ok (.fcc 60))
      ((framework fileDevice).after (.start gaugeFile)
        (workingCall (.writeFccRaw 60)).1).device := by
  have hresult : (workingCall (.writeFccRaw 60)).2 = some (.ok (.fcc 60), ()) := by decide +kernel
  have hallow : (framework fileDevice).Allowed (.start gaugeFile)
      (workingCall (.writeFccRaw 60)).1 := by decide +kernel
  have hspec := superuser_registers fileDevice_keepsRegisters (history_workingCall hresult)
    (m := .start gaugeFile) (by rw [turnExchanges_single]; exact hallow) [] [] _ rfl
  rw [List.nil_append, turnExchanges_single] at hspec
  exact hspec

end Kmdf.Superuser
