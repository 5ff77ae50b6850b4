import NabuCharger.Ln8000.Chip
import NabuCharger.Ln8000.FaultRegister

/-!
# `Proofs.BypassMasks`: the fault masks of the 5 V recovery

Stage 3 of the recovery sets four masks in `FAULT_CTRL`, requests 1:1 once more and reads the
status. `recoveryBus` notes what the register held before it was armed, and whether the
status was read to its end after the request. Only `FAULT_CTRL` is assumed to work.

A recovery that fails leaves one of two values. If the status was read, the masks are
cleared, so they are restored if and only if all were clear before. If the request or a read
failed, the recovery returns early with the masks set, so they are restored if and only if
all were set before (`masks_restored_iff`).
-/

set_option autoImplicit false

namespace Ln8000

open Effectful

/-! ### The monitor -/

/-- What a charge start has shown of the recovery. -/
structure Recovery where
  /-- 1:1 was requested, and `configure` has not begun since. -/
  asked : Bool
  /-- `FAULT_CTRL` as it was when the recovery wrote it first. -/
  armed : Option Byte
  /-- The status was read to its end since the last request. -/
  shown : Bool
  deriving DecidableEq, Repr

/-- Nothing was asked or armed yet. -/
def Recovery.start : Recovery := { asked := false, armed := none, shown := false }

/-- A status pass begins with `SYS_STS` and ends with `LDO_STS`. The recovery is what writes
`FAULT_CTRL` after a request of 1:1. -/
def Recovery.next (fault : Option Byte) (h : Recovery) :
    (o : BusOp) → BusEffect.Resp o → Recovery
  | .mark (.request mode), _ => { h with asked := h.asked || mode == .bypass, shown := false }
  | .mark .configureBegin, _ => { h with asked := false }
  | .read addr, .ok _ => { h with shown := (h.shown || addr == Regs.ldoSts) && addr != Regs.sysSts }
  | .read addr, .error _ => { h with shown := h.shown && addr != Regs.sysSts }
  | .write addr _, .ok _ =>
      if addr = Regs.faultCtrl ∧ h.asked = true ∧ h.armed = none then { h with armed := fault }
      else h
  | _, _ => h

/-- `FAULT_CTRL` can be read and written. Nothing else is assumed. -/
def recoveryBus : Machine BusEffect := faultBus (fun _ _ => True) Recovery.next

/-- What the four masks are compared with. -/
abbrev bypassMask : Byte := Regs.faultCtrlMask5vBypass

/-- What a failed recovery leaves: if it armed the masks, they are as before in one of the
two cases. -/
def Restored (m : FaultWatch Recovery) : Prop :=
  ∀ before, m.history.armed = some before → ∃ v, m.fault = some v ∧
    (v &&& bypassMask = before &&& bypassMask ↔
      if m.history.shown then before &&& bypassMask = 0
      else before &&& bypassMask = bypassMask)

/-! ### What keeps the history -/

/-- No read moves what the recovery did. -/
theorem Recovery.next_read (fault : Option Byte) (h : Recovery) (addr : RegAddr)
    (r : BusEffect.Resp (.read addr)) :
    (h.next fault (.read addr) r).asked = h.asked ∧
      (h.next fault (.read addr) r).armed = h.armed := by
  cases r <;> exact ⟨rfl, rfl⟩

/-- A write of another register moves nothing. -/
theorem Recovery.next_write {addr : RegAddr} (haddr : addr ≠ Regs.faultCtrl)
    (fault : Option Byte) (h : Recovery) (value : Byte) (r : BusEffect.Resp (.write addr value)) :
    h.next fault (.write addr value) r = h := by
  cases r with
  | error err => rfl
  | ok _ => exact if_neg fun hfault => haddr hfault.1

/-- The recovery has not written the masks. -/
abbrev Unarmed : Pump → FaultWatch Recovery → Prop := fun _ m => m.history.armed = none

/-- A charge start, before 1:1 is requested. -/
abbrev Unasked : Pump → FaultWatch Recovery → Prop :=
  fun _ m => m.history.armed = none ∧ m.history.asked = false

/-- Masks that were never set need not be taken back. -/
theorem Restored.of_unarmed {m : FaultWatch Recovery} (h : m.history.armed = none) :
    Restored m := by
  intro before hbefore
  rw [h] at hbefore
  cases hbefore

/-- Only a write of the fault masks arms them. -/
theorem opKeeps_unarmed {o : BusOp} (ho : ∀ value, o ≠ .write Regs.faultCtrl value) :
    OpKeeps recoveryBus Unarmed o := by
  -- only a write of the fault register arms the recovery
  rintro p (m : FaultWatch Recovery) h
  refine ⟨trivial, fun r _ => ?_⟩
  change (m.history.next m.fault o r).armed = none
  cases o with
  | read addr => exact (Recovery.next_read _ _ addr r).2.trans h
  | reset => cases r <;> exact h
  | readPair addr => cases r <;> exact h
  | postResetDelay => exact h
  | mark mk => cases mk <;> exact h
  | write addr value =>
      have haddr : addr ≠ Regs.faultCtrl := fun heq => ho value (heq ▸ rfl)
      rw [Recovery.next_write haddr]
      exact h

/-- Only a request of 1:1 asks for it. -/
theorem opKeeps_unasked {o : BusOp} (ho : o ≠ .mark (.request .bypass)) :
    OpKeeps recoveryBus Unasked o := by
  rintro p (m : FaultWatch Recovery) h
  refine ⟨trivial, fun r _ => ?_⟩
  change (m.history.next m.fault o r).armed = none ∧ (m.history.next m.fault o r).asked = false
  cases o with
  | read addr =>
      rw [(Recovery.next_read _ _ addr r).1, (Recovery.next_read _ _ addr r).2]
      exact h
  | reset => cases r <;> exact h
  | readPair addr => cases r <;> exact h
  | postResetDelay => exact h
  | mark mk =>
      -- the only mark that counts is the 1:1 request itself
      cases mk with
      | configureBegin => exact ⟨h.1, rfl⟩
      | configured => exact h
      | request mode =>
          refine ⟨h.1, ?_⟩
          show (m.history.asked || mode == .bypass) = false
          have hmode : (mode == OpMode.bypass) = false :=
            beq_eq_false_iff_ne.2 fun heq => ho (heq ▸ rfl)
          rw [h.2, hmode]
          rfl
  | write addr value =>
      have hnext : m.history.next m.fault (.write addr value) r = m.history := by
        cases r with
        | error err => rfl
        | ok _ => exact if_neg fun harm => by simp [h.2] at harm
      rw [hnext]
      exact h

/-- The bookkeeping of the session arms nothing. -/
theorem calm_unarmed : Calm recoveryBus Unarmed where
  session _ _ _ _ h := h
  reset := opKeeps_unarmed nofun
  read _ _ := opKeeps_unarmed nofun
  safety := opKeeps_unarmed nofun
  delay := opKeeps_unarmed nofun
  write addr haddr value := by
    refine opKeeps_unarmed fun other heq => ?_
    injection heq with hreg
    rw [hreg] at haddr
    exact absurd haddr (by decide)
  pair _ _ := opKeeps_unarmed nofun

/-- The bookkeeping of the session asks for nothing. -/
theorem calm_unasked : Calm recoveryBus Unasked where
  session _ _ _ _ h := h
  reset := opKeeps_unasked nofun
  read _ _ := opKeeps_unasked nofun
  safety := opKeeps_unasked nofun
  delay := opKeeps_unasked nofun
  write _ _ _ := opKeeps_unasked nofun
  pair _ _ := opKeeps_unasked nofun

/-- A write of another register arms nothing. -/
theorem write_unarmed {addr : RegAddr} (haddr : addr ≠ Regs.faultCtrl) (value : Byte) :
    OpKeeps recoveryBus Unarmed (.write addr value) :=
  opKeeps_unarmed fun other heq => by
    injection heq with hreg
    exact haddr hreg

section
variable [LoopFuel]

/-- Any mode but 1:1 may be requested. -/
theorem request_unasked {target : OpMode} (htarget : target ≠ .bypass) :
    Proc.Keeps recoveryBus Unasked (setOpMode target) := by
  refine setOpMode_keeps calm_unasked.toModes (opKeeps_unasked ?_)
    fun _ _ _ => opKeeps_unasked nofun
  intro heq
  injection heq with hmark
  injection hmark with hmode
  exact htarget hmode

/-- The fault masks are not a request. -/
theorem faults_unasked : FaultRules recoveryBus Unasked :=
  FaultRules.of_write calm_unasked.toSteady fun _ => opKeeps_unasked nofun

/-- The taper is not a request. -/
theorem taper_unasked : TaperRules recoveryBus Unasked where
  vinPair := opKeeps_unasked nofun
  taper _ _ _ _ _ _ :=
    writeIinLimit_keeps calm_unasked.toSteady fun _ _ _ => opKeeps_unasked nofun

/-- The taper arms nothing. -/
theorem taper_unarmed : TaperRules recoveryBus Unarmed where
  vinPair := opKeeps_unarmed nofun
  taper _ _ _ _ _ _ :=
    writeIinLimit_keeps calm_unarmed.toSteady fun _ _ _ => write_unarmed (by decide) _

/-- `configure` writes the register, after its beginning was seen. -/
theorem configure_unarmed : Proc.Keeps recoveryBus Unarmed configure := by
  refine ensureOpen_keeps.bind fun _ => ⟨fun p m h => ?_⟩
  refine (Proc.wp_bind _ _ _ _ _).2 ((mark_wp _ _ _ _).2 ⟨trivial, fun r _ => ?_⟩)
  have hsetup : SetupRules recoveryBus Unasked :=
    { toFaultRules := faults_unasked
      reverse := fun _ =>
        update_keeps calm_unasked.toSteady (by decide) fun _ => opKeeps_unasked nofun
      adc := fun _ => opKeeps_unasked nofun
      limit := fun _ _ _ _ _ _ => opKeeps_unasked nofun }
  have hsteps := configureSteps_keeps calm_unasked.toModes hsetup (request_unasked nofun)
    (opKeeps_unasked nofun)
  exact Proc.wp_mono (hsteps.run p _ ⟨h, rfl⟩) fun _ _ _ h' => h'.1

/-! ### Between arming and the end -/

/-- The four masks are set over what the register held before. -/
def Armed (before : Byte) (p : Pump) (m : FaultWatch Recovery) : Prop :=
  p.state ≠ .closed ∧ m.fault = some (mergeBits before bypassMask bypassMask) ∧
    m.history.armed = some before

/-- So they are, and the status was read to its end (`s`) or not. -/
def Reached (before : Byte) (s : Bool) (p : Pump) (m : FaultWatch Recovery) : Prop :=
  Armed before p m ∧ m.history.shown = s

section
variable {before : Byte}

omit [LoopFuel] in
/-- The masks stay armed through every exchange that does not write them. -/
theorem Armed.next {o : BusOp}
    (ho : ∀ addr value, o = .write addr value → addr ≠ Regs.faultCtrl ∧ addr ≠ Regs.bcOp2)
    {p : Pump} {m : FaultWatch Recovery} (h : Armed before p m) {r : BusEffect.Resp o}
    (hr : recoveryBus.allow m o r) : Armed before p (recoveryBus.next m o r) := by
  obtain ⟨hopen, hfault, harmed⟩ := h
  refine ⟨hopen, ?_, ?_⟩
  · show nextFault m.fault o r = _
    -- the fault register is the only one whose answer could differ, and it answers what is known
    by_cases hread : o = .read Regs.faultCtrl
    · subst hread
      cases r with
      | error err => exact absurd rfl hr.1
      | ok value =>
          rcases hr.1 rfl with hnone | hsome
          · rw [hfault] at hnone
            cases hnone
          · rw [hfault] at hsome
            exact hsome.symm
    · rw [nextFault_of_ne hread ho]
      exact hfault
  · show (m.history.next m.fault o r).armed = _
    cases o with
    | read addr => exact (Recovery.next_read _ _ addr r).2.trans harmed
    | reset => cases r <;> exact harmed
    | readPair addr => cases r <;> exact harmed
    | postResetDelay => exact harmed
    | mark mk => cases mk <;> exact harmed
    | write addr value =>
        rw [Recovery.next_write (ho addr value rfl).1]
        exact harmed

omit [LoopFuel] in
/-- They are in the chip, not in the session. -/
theorem Armed.frame {p p' : Pump} {m : FaultWatch Recovery} (ht : p.Transfers p')
    (h : Armed before p m) : Armed before p' m :=
  ⟨fun hclosed => h.1 (ht.continues.2 hclosed), h.2⟩

omit [LoopFuel] in
/-- An operation that does not write them leaves them armed. -/
theorem opKeeps_armed {o : BusOp}
    (ho : ∀ addr value, o = .write addr value → addr ≠ Regs.faultCtrl ∧ addr ≠ Regs.bcOp2) :
    OpKeeps recoveryBus (Armed before) o :=
  fun _ _ h => ⟨trivial, fun _ hr => h.next ho hr⟩

omit [LoopFuel] in
/-- So do the housekeeping and the samples. -/
theorem settled_armed : Settled recoveryBus (Armed before) where
  frame _ _ _ ht h := h.frame ht
  reset := opKeeps_armed nofun
  read _ _ := opKeeps_armed nofun
  delay := opKeeps_armed nofun
  write addr haddr value := by
    refine opKeeps_armed fun other v heq => ?_
    injection heq with hreg
    subst hreg
    constructor
    · rintro rfl
      exact absurd haddr (by decide)
    · rintro rfl
      exact absurd haddr (by decide)
  pair _ _ := opKeeps_armed nofun

omit [LoopFuel] in
/-- So do the retries of a transfer. -/
theorem retries_reached (s : Bool) : Retries recoveryBus (Reached before s) where
  frame _ _ _ ht h := ⟨h.1.frame ht, h.2⟩
  reset p m h := ⟨trivial, fun r hr => ⟨h.1.next (by nofun) hr, by cases r <;> exact h.2⟩⟩

omit [LoopFuel] in
/-- Until the last register of the status is read, it is not known to its end. -/
theorem read_reached {addr : RegAddr} (haddr : addr ≠ Regs.ldoSts) :
    OpKeeps recoveryBus (Reached before false) (.read addr) := by
  rintro p (m : FaultWatch Recovery) ⟨h, hshown⟩
  refine ⟨trivial, fun r hr => ⟨h.next (by nofun) hr, ?_⟩⟩
  have hldo : (addr == Regs.ldoSts) = false := beq_eq_false_iff_ne.2 haddr
  cases r with
  | ok value =>
      show ((m.history.shown || addr == Regs.ldoSts) && addr != Regs.sysSts) = false
      rw [hshown, hldo]
      rfl
  | error err =>
      show (m.history.shown && addr != Regs.sysSts) = false
      rw [hshown]
      rfl

omit [LoopFuel] in
/-- So does a write of another register. -/
theorem write_reached {addr : RegAddr} (haddr : addr ≠ Regs.faultCtrl ∧ addr ≠ Regs.bcOp2)
    (value : Byte) (s : Bool) : OpKeeps recoveryBus (Reached before s) (.write addr value) := by
  have hwrite : ∀ other v, BusOp.write addr value = .write other v →
      other ≠ Regs.faultCtrl ∧ other ≠ Regs.bcOp2 := by
    intro other v heq
    injection heq with hreg
    exact hreg ▸ haddr
  rintro p (m : FaultWatch Recovery) ⟨h, hshown⟩
  refine ⟨trivial, fun r hr => ⟨h.next hwrite hr, ?_⟩⟩
  show (m.history.next m.fault (.write addr value) r).shown = s
  rw [Recovery.next_write haddr.1]
  exact hshown

/-- A new request of 1:1, however it ends: nothing of the status is known. -/
theorem request_armed {p : Pump} {m : FaultWatch Recovery} (h : Armed before p m) :
    (setOpMode .bypass).wp recoveryBus (fun _ p' m' => Reached before false p' m') p m := by
  have hupdate : Proc.Keeps recoveryBus (Reached before false)
      (update Regs.sysCtrl OpMode.sysCtrlMask Regs.sysCtrlEn1to1 "op_mode") :=
    (update_faults_of (retries_reached false) (read_reached (by decide))
      fun _ => write_reached (by decide) _ false).keeps
  unfold setOpMode
  refine (Proc.wp_bind _ _ _ _ _).2 (ensureOpen_wp h.1 ((Proc.thenWp_ok _ _ _ _ _).2 ?_))
  refine (Proc.wp_bind _ _ _ _ _).2 ((Proc.wp_ofExcept _ _ _ _).2 ?_)
  refine (Proc.wp_bind _ _ _ _ _).2 ((mark_wp _ _ _ _).2 ⟨trivial, fun r hr => ?_⟩)
  refine (hupdate.bind fun _ => Proc.Keeps.modify fun p m h => ?_).run p _
    ⟨h.next (by nofun) hr, rfl⟩
  exact ⟨⟨h.1.1, h.1.2⟩, h.2⟩

/-- How a status pass ends. -/
abbrev Passes (before : Byte) : Except PumpError Status → Pump → FaultWatch Recovery → Prop :=
  fun outcome p m => (∀ st, outcome = .ok st → Reached before true p m) ∧
    ∀ err, outcome = .error err → Reached before false p m

/-- The first read of a pass forgets the pass before. -/
theorem read_sysSts_armed {p : Pump} {m : FaultWatch Recovery} (h : Armed before p m) :
    (read Regs.sysSts).wp recoveryBus (fun _ p' m' => Reached before false p' m') p m := by
  have hretries : Retries recoveryBus (Reached before false) := retries_reached false
  refine Proc.wp_mono (read_wp_from (K := Armed before) (L := Reached before false)
    (R := fun _ => Reached before false) hretries.frame (fun _ => hretries.frame)
    (fun p m h => ⟨trivial, fun r hr => h.1.next (by nofun) hr⟩) ?_ h) ?_
  · rintro p (m : FaultWatch Recovery) h
    refine ⟨trivial, fun r hr => ?_⟩
    -- the status is read again, so what was shown before no longer counts
    have hreached : Reached before false p (recoveryBus.next m (.read Regs.sysSts) r) := by
      refine ⟨h.next (by nofun) hr, ?_⟩
      cases r with
      | ok value => exact Bool.and_false _
      | error err => exact Bool.and_false _
    exact ⟨fun _ _ => hreached, fun _ _ => hreached⟩
  · rintro outcome p' m' ⟨hok, herr⟩
    cases outcome with
    | ok value => exact hok value rfl
    | error err => exact (herr err rfl).1

/-- The last one completes it. -/
theorem read_ldoSts_armed {p : Pump} {m : FaultWatch Recovery} (h : Reached before false p m) :
    (read Regs.ldoSts).wp recoveryBus
      (fun outcome p' m' => (∀ value, outcome = .ok value → Reached before true p' m') ∧
        ∀ err, outcome = .error err → Reached before false p' m' ∧ p'.state = .faulted) p m := by
  refine read_wp_from (R := fun _ => Reached before true) (retries_reached false).frame
    (fun _ => (retries_reached true).frame) (retries_reached false).reset ?_ h
  rintro p (m : FaultWatch Recovery) ⟨h, hshown⟩
  refine ⟨trivial, fun r hr => ⟨?_, ?_⟩⟩
  · rintro value rfl
    refine ⟨h.next (by nofun) hr, ?_⟩
    show ((m.history.shown || true) && true) = true
    rw [Bool.or_true]
    rfl
  · rintro err rfl
    refine ⟨h.next (by nofun) hr, ?_⟩
    show (m.history.shown && true) = false
    rw [hshown]
    rfl

/-- A pass that fails anywhere leaves the status unknown. -/
theorem status_armed {p : Pump} {m : FaultWatch Recovery} (h : Armed before p m) :
    status.wp recoveryBus (Passes before) p m := by
  have hread : ∀ {addr}, addr ≠ Regs.ldoSts →
      Faults recoveryBus (Reached before false) (read addr) :=
    fun haddr => read_faults (retries_reached false) (read_reached haddr)
  refine (Proc.wp_bind _ _ _ _ _).2 (ensureOpen_wp h.1 ((Proc.thenWp_ok _ _ _ _ _).2 ?_))
  refine (Proc.wp_bind _ _ _ _ _).2 (Proc.wp_mono (read_sysSts_armed h) ?_)
  intro outcome p m h
  cases outcome with
  | error err => exact ⟨nofun, fun _ _ => h⟩
  | ok sysSts =>
      refine (Proc.thenWp_ok _ _ _ _ _).2 ?_
      refine (hread (by decide)).wp_bind h ?_ fun _ _ _ h _ => ⟨nofun, fun _ _ => h⟩
      intro safetySts p m h
      refine (hread (by decide)).wp_bind h ?_ fun _ _ _ h _ => ⟨nofun, fun _ _ => h⟩
      intro fault1Sts p m h
      refine (hread (by decide)).wp_bind h ?_ fun _ _ _ h _ => ⟨nofun, fun _ _ => h⟩
      intro fault2Sts p m h
      -- the last of the five reads is the one the recovery waits for
      refine (Proc.wp_bind _ _ _ _ _).2 (Proc.wp_mono (read_ldoSts_armed h) ?_)
      rintro outcome p m ⟨hok, herr⟩
      cases outcome with
      | error err => exact ⟨nofun, fun _ _ => (herr err rfl).1⟩
      | ok ldoSts =>
          have hshown := hok ldoSts rfl
          refine (Proc.thenWp_ok _ _ _ _ _).2 ((Proc.wp_modify_bind _ _ _ _ _).2 ?_)
          exact (Proc.wp_pure _ _ _ _).2
            ⟨fun _ _ => ⟨⟨hshown.1.1, hshown.1.2⟩, hshown.2⟩, nofun⟩

/-- The status is read under armed masks until it has settled. -/
theorem settleLoop_armed : ∀ n last (p : Pump) (m : FaultWatch Recovery),
    Reached before true p m → (settleLoop n last).wp recoveryBus (Passes before) p m := by
  intro n
  induction n with
  | zero =>
      intro last p m h
      exact (Proc.wp_pure _ _ _ _).2 ⟨fun _ _ => h, fun _ herr => by cases herr⟩
  | succ n ih =>
      intro last p m h
      rw [settleLoop]
      refine (Proc.wp_bind _ _ _ _ _).2 (Proc.wp_mono (status_armed h.1) ?_)
      rintro outcome p m ⟨hok, herr⟩
      cases outcome with
      | error err => exact ⟨fun _ hval => (by cases hval), fun _ _ => herr err rfl⟩
      | ok st =>
          refine (Proc.thenWp_ok _ _ _ _ _).2 ?_
          -- the loop ends on a mode, or reads the status again
          split
          · exact (Proc.wp_pure _ _ _ _).2 ⟨fun _ _ => hok st rfl, fun _ herr => by cases herr⟩
          · exact ih st p m (hok st rfl)

/-- The same from the start of the loop. -/
theorem settleAndReadStatus_armed {p : Pump} {m : FaultWatch Recovery} (h : Armed before p m) :
    settleAndReadStatus.wp recoveryBus (Passes before) p m := by
  refine (Proc.wp_bind _ _ _ _ _).2 (Proc.wp_mono (status_armed h) ?_)
  rintro outcome p m ⟨hok, herr⟩
  cases outcome with
  | error err => exact ⟨nofun, fun _ _ => herr err rfl⟩
  | ok st => exact settleLoop_armed 3 st p m (hok st rfl)

omit [LoopFuel] in
/-- An early return leaves all four masks set. -/
theorem Reached.restored {p : Pump} {m : FaultWatch Recovery} (h : Reached before false p m) :
    Restored m := by
  obtain ⟨⟨-, hfault, harmed⟩, hshown⟩ := h
  intro other hother
  obtain rfl : before = other := Option.some.inj (harmed.symm.trans hother)
  refine ⟨_, hfault, ?_⟩
  rw [mergeBits_and_self, BitVec.and_self, hshown]
  exact eq_comm

omit [LoopFuel] in
/-- A status read to its end is followed by the clear of all four. -/
theorem Restored.of_cleared {current : Byte} {h : Recovery} (harmed : h.armed = some before)
    (hshown : h.shown = true) :
    Restored
      { fault := some (mergeBits current bypassMask 0)
        history := h.next (some current)
          (.write Regs.faultCtrl (mergeBits current bypassMask 0)) (.ok ()) } := by
  have hnext : h.next (some current) (.write Regs.faultCtrl (mergeBits current bypassMask 0))
      (.ok ()) = h := by
    refine if_neg fun hfirst => ?_
    rw [harmed] at hfirst
    exact nomatch hfirst.2.2
  -- the masks are cleared, so no bit of them is left
  have hzero : (0 : Byte) &&& bypassMask = 0 := by decide
  rw [hnext]
  intro other _
  refine ⟨_, rfl, ?_⟩
  rw [mergeBits_and_self, hzero, hshown]
  exact eq_comm

/-- Stage 3, once 1:1 was refused on the clean configuration. -/
theorem recoverMasked_restored {p : Pump} {m : FaultWatch Recovery} (hopen : p.state ≠ .closed)
    (harmed : m.history.armed = none) (hasked : m.history.asked = true) :
    recoverMasked.wp recoveryBus (fun outcome _ m' => ∀ e, outcome = .error e → Restored m')
      p m := by
  refine (Proc.wp_modify_bind _ _ _ _ _).2
    ((Proc.wp_discard_bind _ _ arm5vBypassFaultMask _ _).2 ?_)
  have harm : (update Regs.faultCtrl bypassMask bypassMask "mask_5v_bypass_faults").wp recoveryBus
      (fun outcome p' (m' : FaultWatch Recovery) => outcome = .ok () ∧
        ∃ before, Armed before p' m') { p with bypassStage := 3 } m := by
    refine update_fault_wp (g := Recovery.next) (fun _ h _ => ?_) ?_ ?_
    · show ({ h with shown := (h.shown || false) && true } : Recovery) = h
      rw [Bool.or_false, Bool.and_true]
    · exact fun p p' m ht ⟨before, h⟩ => ⟨before, h.frame ht⟩
    · intro p' current ht _
      refine ⟨current, fun hclosed => hopen (ht.continues.2 hclosed), rfl, ?_⟩
      show (if _ ∧ m.history.asked = true ∧ m.history.armed = none then
        { m.history with armed := some current } else m.history).armed = some current
      rw [if_pos ⟨rfl, hasked, harmed⟩]
  have hmasked : arm5vBypassFaultMask.wp recoveryBus
      (fun _ p' (m' : FaultWatch Recovery) => ∃ before, Armed before p' m')
      { p with bypassStage := 3 } m := by
    refine (Proc.wp_bind _ _ _ _ _).2 (Proc.wp_mono harm ?_)
    rintro outcome p m ⟨rfl, before, h⟩
    refine (Proc.thenWp_ok _ _ _ _ _).2 ?_
    exact Proc.wp_mono ((clearLatchedFaults_keeps settled_armed).run p m h)
      fun _ _ _ h' => ⟨before, h'⟩
  refine Proc.wp_mono hmasked ?_
  rintro _ p m ⟨before, h⟩
  refine (Proc.wp_bind _ _ _ _ _).2 (Proc.wp_mono (request_armed h) ?_)
  intro outcome p m h
  cases outcome with
  | error err => exact fun _ _ => h.restored
  | ok _ =>
      refine (Proc.thenWp_ok _ _ _ _ _).2 ?_
      refine (Proc.wp_bind _ _ _ _ _).2 (Proc.wp_mono (settleAndReadStatus_armed h.1) ?_)
      rintro outcome p m ⟨hok, herr⟩
      cases outcome with
      | error err => exact fun _ _ => (herr err rfl).restored
      | ok st =>
          obtain ⟨⟨-, hfault, harmed⟩, hshown⟩ := hok st rfl
          refine (Proc.thenWp_ok _ _ _ _ _).2 ?_
          by_cases hmode : st.opMode = .bypass
          · rw [if_pos hmode]
            exact (Proc.wp_modify_bind _ _ _ _ _).2 ((Proc.wp_pure _ _ _ _).2 nofun)
          · rw [if_neg hmode]
            -- the status was read to its end, and the masks are cleared
            refine (Proc.wp_discard_bind _ _ _ _ _).2 (Proc.wp_mono (update_fault_wp
              (g := Recovery.next) (R := fun _ m => Restored m) (fun _ h _ => ?_)
              (fun _ _ _ _ h => h) fun p' current _ _ => ?_) fun _ p m h => ?_)
            · show ({ h with shown := (h.shown || false) && true } : Recovery) = h
              rw [Bool.or_false, Bool.and_true]
            · exact Restored.of_cleared harmed hshown
            · exact (Proc.wp_fail _ _ _ _).2 fun _ _ => h.2

end

/-! ### The charge start -/

/-- 1:1 was requested of an open session, and nothing is armed. -/
abbrev Asked : Pump → FaultWatch Recovery → Prop :=
  fun p m => p.state ≠ .closed ∧ m.history.armed = none ∧ m.history.asked = true

omit [LoopFuel] in
/-- What is neither a write nor a mark leaves the request as it is. -/
theorem opKeeps_asked {o : BusOp} (ho : ∀ addr value, o ≠ .write addr value)
    (hmark : ∀ mk, o ≠ .mark mk) : OpKeeps recoveryBus Asked o := by
  rintro p (m : FaultWatch Recovery) ⟨hopen, harmed, hasked⟩
  refine ⟨trivial, fun r _ => ⟨hopen, ?_⟩⟩
  change (m.history.next m.fault o r).armed = none ∧ (m.history.next m.fault o r).asked = true
  cases o with
  | read addr =>
      rw [(Recovery.next_read _ _ addr r).1, (Recovery.next_read _ _ addr r).2]
      exact ⟨harmed, hasked⟩
  | reset => cases r <;> exact ⟨harmed, hasked⟩
  | readPair addr => cases r <;> exact ⟨harmed, hasked⟩
  | postResetDelay => exact ⟨harmed, hasked⟩
  | mark mk => exact absurd rfl (hmark mk)
  | write addr value => exact absurd rfl (ho addr value)

omit [LoopFuel] in
/-- So does a write of another register. -/
theorem write_asked {addr : RegAddr} (haddr : addr ≠ Regs.faultCtrl) (value : Byte) :
    OpKeeps recoveryBus Asked (.write addr value) := by
  rintro p (m : FaultWatch Recovery) h
  refine ⟨trivial, fun r _ => ⟨h.1, ?_⟩⟩
  change (m.history.next m.fault (.write addr value) r).armed = none ∧
    (m.history.next m.fault (.write addr value) r).asked = true
  rw [Recovery.next_write haddr]
  exact h.2

omit [LoopFuel] in
/-- So does the bookkeeping of the session. -/
theorem calm_asked : Calm recoveryBus Asked where
  session _ _ _ ht h := ⟨fun hclosed => h.1 (ht.2 hclosed), h.2⟩
  reset := opKeeps_asked nofun nofun
  read _ _ := opKeeps_asked nofun nofun
  safety := opKeeps_asked nofun nofun
  delay := opKeeps_asked nofun nofun
  write addr haddr value := write_asked (by rintro rfl; exact absurd haddr (by decide)) value
  pair _ _ := opKeeps_asked nofun nofun

/-- A request of 1:1 that succeeds was made of an open session. -/
theorem request_asked {p : Pump} {m : FaultWatch Recovery} (h : Unarmed p m) :
    (setOpMode .bypass).wp recoveryBus
      (fun outcome p' m' => Unarmed p' m' ∧ (outcome = .ok () → Asked p' m')) p m := by
  unfold setOpMode
  -- a closed session refuses before the mark, an open one marks the request first
  by_cases hopen : p.state = .closed
  · have hcheck : (p.state == .closed) = true := by simpa using hopen
    unfold ensureOpen
    refine (Proc.wp_bind _ _ _ _ _).2 ((Proc.wp_get_bind _ _ _ _).2 ?_)
    rw [hcheck]
    exact (Proc.wp_fail _ _ _ _).2 ⟨h, nofun⟩
  · refine (Proc.wp_bind _ _ _ _ _).2 (ensureOpen_wp hopen ((Proc.thenWp_ok _ _ _ _ _).2 ?_))
    refine (Proc.wp_bind _ _ _ _ _).2 ((Proc.wp_ofExcept _ _ _ _).2 ?_)
    refine (Proc.wp_bind _ _ _ _ _).2 ((mark_wp _ _ _ _).2 ⟨trivial, fun r hr => ?_⟩)
    have hupdate : Proc.Keeps recoveryBus Asked
        (update Regs.sysCtrl OpMode.sysCtrlMask Regs.sysCtrlEn1to1 "op_mode") :=
      update_keeps calm_asked.toSteady (by decide) fun _ => write_asked (by decide) _
    have hrest : Proc.Keeps recoveryBus Asked (do
        update Regs.sysCtrl OpMode.sysCtrlMask Regs.sysCtrlEn1to1 "op_mode"
        Proc.modify fun p => { p with opMode := .bypass } : PumpM Unit) :=
      hupdate.bind fun _ => calm_asked.modify (by simp [Pump.Continues])
    refine Proc.wp_mono (hrest.run p _ ⟨hopen, h, Bool.or_true _⟩) ?_
    exact fun _ _ _ h' => ⟨h'.2.1, fun _ => h'⟩

/-- On the clean configuration nothing was armed yet. -/
theorem recoverClean_restored {p : Pump} {m : FaultWatch Recovery} (h : Unarmed p m) :
    recoverClean.wp recoveryBus (fun outcome _ m' => ∀ e, outcome = .error e → Restored m')
      p m := by
  refine (Proc.wp_bind _ _ _ _ _).2 (Proc.wp_mono (request_asked h) ?_)
  rintro outcome p m ⟨hunarmed, hasked⟩
  cases outcome with
  | error err => exact fun _ _ => Restored.of_unarmed hunarmed
  | ok _ =>
      -- the clean stage writes no fault register
      have hpass := settleAndReadStatus_keeps calm_asked.toModes
      refine hpass.wp_bind (hasked rfl) ?_ fun _ _ _ h _ _ => Restored.of_unarmed h.2.1
      intro st p m h
      by_cases hmode : st.opMode = .bypass
      · rw [if_pos hmode]
        refine (Proc.wp_modify_bind _ _ _ _ _).2 ?_
        have hnear :=
          prepareNearFloatForCharge_sure calm_unarmed.toSettled taper_unarmed false nofun
        refine hnear.wp_bind h.2.1 fun _ p m _ => ?_
        exact (Proc.wp_pure _ _ _ _).2 nofun
      · rw [if_neg hmode]
        exact recoverMasked_restored h.1 h.2.1 h.2.2

/-- A recovery that fails has taken its masks back. -/
theorem recover5vBypass_restored {p : Pump} {m : FaultWatch Recovery} (h : Unarmed p m) :
    recover5vBypass.wp recoveryBus (fun outcome _ m' => ∀ e, outcome = .error e → Restored m')
      p m := by
  -- until the clean-up arms the masks, any error leaves them as they were
  have hfail : ∀ (e : PumpError) (p : Pump) (m : FaultWatch Recovery), Unarmed p m →
      ∀ e', (Except.error e : Except PumpError OpMode) = .error e' → Restored m :=
    fun _ _ _ h _ _ => Restored.of_unarmed h
  have hsample := readAdcUv_keeps calm_unarmed.toSettled taper_unarmed.vinPair
  have hreset := softReset_keeps calm_unarmed.toModes fun _ => write_unarmed (by decide) _
  refine hsample.wp_bind h ?_ hfail
  intro vinNow p m h
  refine (checkPorBudget_keeps calm_unarmed.toSteady vinNow).wp_bind h ?_ hfail
  intro _ p m h
  refine (Proc.wp_modify_bind _ _ _ _ _).2 ((Proc.wp_discard_bind _ _ softReset _ _).2 ?_)
  refine Proc.wp_mono (hreset.run _ m h) fun _ p m h => ?_
  refine (Proc.wp_modify_bind _ _ _ _ _).2 ?_
  refine (calm_unarmed.delay.perform).wp_bind h ?_ hfail
  intro _ p m h
  refine (Proc.wp_discard_bind _ _ configure _ _).2 ?_
  refine Proc.wp_mono (configure_unarmed.run p m h) fun _ p m h => ?_
  refine ((readAdc_keeps calm_unarmed.toSettled taper_unarmed.vinPair).unwrapOr 0).wp_bind h
    ?_ hfail
  intro vin p m h
  refine (readAdcUv_keeps calm_unarmed.toSettled (calm_unarmed.pair .vbat (by decide))).wp_bind h ?_
    hfail
  intro vbat p m h
  -- the masks are touched only if the samples after the reset still ask for 1:1
  by_cases hmode : chargeMode vin vbat = some .bypass
  · rw [if_neg (not_not.2 hmode)]
    exact recoverClean_restored h
  · rw [if_pos hmode]
    exact (Proc.wp_fail _ _ _ _).2 fun _ _ => Restored.of_unarmed h

omit [LoopFuel] in
/-- Any operation is allowed where nothing is asked. -/
theorem opKeeps_any (o : BusOp) : OpKeeps recoveryBus (fun _ _ => True) o :=
  fun _ _ _ => ⟨trivial, fun _ _ => trivial⟩

omit [LoopFuel] in
/-- Nothing is known. -/
theorem calm_any : Calm recoveryBus fun _ _ => True where
  session _ _ _ _ h := h
  reset := opKeeps_any _
  read _ _ := opKeeps_any _
  safety := opKeeps_any _
  delay := opKeeps_any _
  write _ _ _ := opKeeps_any _
  pair _ _ := opKeeps_any _

/-- So is the taper. -/
theorem taper_any : TaperRules recoveryBus fun _ _ => True where
  vinPair := opKeeps_any _
  taper _ _ _ _ _ _ := writeIinLimit_keeps calm_any.toSteady fun _ _ _ => opKeeps_any _

/-- Only 1:1 leads into the recovery. -/
theorem requestMode_restored {want : OpMode} {p : Pump} {m : FaultWatch Recovery}
    (h : Unasked p m) : (requestMode want).wp recoveryBus
      (fun outcome p' m' => ∀ e, outcome = .error e →
        Restored m' ∧ (want ≠ .bypass → Unasked p' m')) p m := by
  have hidle : ∀ {outcome : Except PumpError OpMode} {p' : Pump} {m' : FaultWatch Recovery},
      Unasked p' m' → ∀ e, outcome = .error e → Restored m' ∧ (want ≠ .bypass → Unasked p' m') :=
    fun h _ _ => ⟨Restored.of_unarmed h.1, fun _ => h⟩
  -- only a 1:1 request can come to the recovery
  cases want with
  | unknown => exact (Proc.wp_fail _ _ _ _).2 (hidle h)
  | standby => exact (Proc.wp_fail _ _ _ _).2 (hidle h)
  | switching =>
      have hswitching := enableSwitching_keeps calm_unasked.toMoves
        (request_unasked (nofun : OpMode.switching ≠ .bypass))
      exact Proc.wp_mono (hswitching.run p m h) fun _ _ _ h' => hidle h'
  | bypass =>
      have hrequest : Proc.Keeps recoveryBus Unarmed (setOpMode .bypass) :=
        setOpMode_keeps calm_unarmed.toModes (opKeeps_unarmed nofun)
          fun _ _ _ => write_unarmed (by decide) _
      have hbypass := enableBypass_keeps calm_unarmed.toModes taper_unarmed.vinPair hrequest
      refine (Proc.wp_modify_bind _ _ _ _ _).2 ((Proc.wp_attempt_bind _ _ _ _ _).2 ?_)
      refine Proc.wp_mono (hbypass.run _ m h.1) fun first p m h => ?_
      -- the first attempt failed: the recovery decides, and restores the masks when it fails too
      cases first with
      | ok mode => exact (Proc.wp_pure _ _ _ _).2 nofun
      | error _ =>
          exact Proc.wp_mono (recover5vBypass_restored h)
            fun _ _ _ h' e he => ⟨h' e he, fun hwant => absurd rfl hwant⟩

/-- A charge start that fails leaves the masks as `Restored` says. -/
theorem startCharging_restored {want : OpMode} {p : Pump} {m : FaultWatch Recovery}
    (h : Unasked p m) : (startCharging want).wp recoveryBus
      (fun outcome _ m' => ∀ e, outcome = .error e → Restored m') p m := by
  -- before the mode request nothing has been asked, so an error leaves the masks alone
  have hfail : ∀ (e : PumpError) (p : Pump) (m : FaultWatch Recovery), Unasked p m →
      ∀ e', (Except.error e : Except PumpError OpMode) = .error e' → Restored m :=
    fun _ _ _ h _ _ => Restored.of_unarmed h.1
  have hwatchdog := calm_unasked.update (by decide : Regs.timerCtrl ∈ housekeeping) (bit 7) 0
    "watchdog_force_off"
  have hprepare := prepareElevated_keeps calm_unasked.toSettled taper_unasked faults_unasked want
  refine (Proc.wp_get_bind _ _ _ _).2 ?_
  refine (Proc.Keeps.when fun _ => hwatchdog.discard).wp_bind h ?_ hfail
  intro _ p m h
  refine (Proc.wp_modify_bind _ _ _ _ _).2 ?_
  have hunasked : Unasked { p with bypassStage := 0 } m := h
  refine (Proc.Keeps.when fun _ => hprepare).wp_bind hunasked ?_ hfail
  intro _ p m h
  refine (Proc.wp_attempt_bind _ _ _ _ _).2 (Proc.wp_mono (requestMode_restored h) ?_)
  intro result p m hresult
  cases result with
  | ok mode =>
      have hnear := prepareNearFloatForCharge_sure calm_any.toSettled taper_any false nofun
      refine (Proc.wp_modify_bind _ _ _ _ _).2 ?_
      refine (Sure.when fun _ => hnear).wp_bind trivial fun _ p m _ => ?_
      exact (Proc.wp_pure _ _ _ _).2 nofun
  | error err =>
      obtain ⟨hrestored, hidle⟩ := hresult err rfl
      -- after a failed 1:1 nothing more is sent; another mode falls back to standby
      by_cases hwant : want = .bypass
      · subst hwant
        exact (Proc.wp_fail _ _ _ _).2 fun _ _ => hrestored
      · have hstandby := request_unasked (nofun : OpMode.standby ≠ .bypass)
        refine (Proc.Keeps.when fun _ => hstandby.discard).wp_bind (hidle hwant) ?_ hfail
        exact fun _ _ _ h => (Proc.wp_fail _ _ _ _).2 fun _ _ => Restored.of_unarmed h.1

/-- A charge start that fails has taken the masks of its recovery back. -/
theorem setCharging_restored {p : Pump} {m : FaultWatch Recovery} (h : Unasked p m) :
    (setCharging true).wp recoveryBus
      (fun outcome _ m' => ∀ e, outcome = .error e → Restored m') p m := by
  have hfail : ∀ (e : PumpError) (p : Pump) (m : FaultWatch Recovery), Unasked p m →
      ∀ e', (Except.error e : Except PumpError OpMode) = .error e' → Restored m :=
    fun _ _ _ h _ _ => Restored.of_unarmed h.1
  have hreverse : Proc.Keeps recoveryBus Unasked
      (update Regs.sysCtrl (bit 2) 0 "disable_reverse_current") :=
    update_keeps calm_unasked.toSteady (by decide) fun _ => opKeeps_unasked nofun
  refine hreverse.wp_bind h ?_ hfail
  intro _ p m h
  change (chargeFromSamples).wp recoveryBus _ p m
  refine ((readAdc_keeps calm_unasked.toSettled taper_unasked.vinPair).unwrapOr 0).wp_bind h
    ?_ hfail
  intro vin p m h
  refine (readAdcUv_keeps calm_unasked.toSettled (calm_unasked.pair .vbat (by decide))).wp_bind h ?_
    hfail
  intro vbat p m h
  -- the samples choose the mode, or standby
  cases chargeMode vin vbat with
  | some want => exact startCharging_restored h
  | none =>
      have hstandby := request_unasked (nofun : OpMode.standby ≠ .bypass)
      refine hstandby.discard.wp_bind h ?_ hfail
      exact fun _ _ _ h => (Proc.wp_fail _ _ _ _).2 fun _ _ => Restored.of_unarmed h.1

/-- A charge start that fails after the recovery has armed the masks, on every bus on which
`FAULT_CTRL` can be read and written, whatever it held before. With the status read to its end
after the last request, the masks are as before if and only if none was set. With the request
or a read failed, they are as before if and only if all four were set. -/
theorem masks_restored_iff {pump pump' : Pump} {t : List (Event BusEffect)} {e : PumpError}
    (h : Prog.Yields (setCharging true pump) t (.error e, pump')) {fault : Option Byte}
    (hbus : recoveryBus.Allowed { fault := fault, history := Recovery.start } t)
    {m : FaultWatch Recovery}
    (hm : m = recoveryBus.after { fault := fault, history := Recovery.start } t) {before : Byte}
    (harmed : m.history.armed = some before) :
    ∃ v, m.fault = some v ∧ (v &&& bypassMask = before &&& bypassMask ↔
      if m.history.shown then before &&& bypassMask = 0
      else before &&& bypassMask = bypassMask) := by
  have hstart : Unasked pump { fault := fault, history := Recovery.start } := ⟨rfl, rfl⟩
  have hrestored := Prog.Yields.post h (setCharging_restored hstart).prog hbus e rfl
  subst hm
  exact hrestored before harmed

end

/-! ### A status that is not read -/

/-- A chip whose `SYS_STS` is not read while the four masks are set. -/
def Chip.mute (chip : Chip) : (o : BusOp) → BusEffect.Resp o × Chip
  | .read addr =>
      if addr = Regs.sysSts ∧ chip.reg Regs.faultCtrl &&& bypassMask = bypassMask then
        (.error { kind := .protocol, code := 0, detail := "injected read fault" }, chip)
      else chip.answer (.read addr)
  | o => chip.answer o

/-- A charge start on the chip, from a configured session. -/
def bypassRun (env : Chip → (o : BusOp) → BusEffect.Resp o × Chip) (chip : Chip) :
    List (Event BusEffect) × Chip × Option (Except PumpError OpMode × Pump) :=
  (@setCharging ⟨0⟩ true Pump.configuredDefault).runWith env chip

/-- The monitor at its end. -/
def bypassWatch (env : Chip → (o : BusOp) → BusEffect.Resp o × Chip) (chip : Chip) :
    FaultWatch Recovery :=
  recoveryBus.after { fault := none, history := Recovery.start } (bypassRun env chip).1

/-- What the run has done to the masks, as the monitor sees it. -/
theorem bypassWatch_eq (env : Chip → (o : BusOp) → BusEffect.Resp o × Chip) (chip : Chip) :
    bypassWatch env chip = recoveryBus.after { fault := none, history := Recovery.start }
      (bypassRun env chip).1 :=
  rfl

/-- The run is one of `set_charging(true)`. -/
theorem yields_bypassRun {env : Chip → (o : BusOp) → BusEffect.Resp o × Chip} {chip : Chip}
    {out : Except PumpError OpMode × Pump} (h : (bypassRun env chip).2.2 = some out) :
    Prog.Yields (@setCharging ⟨0⟩ true Pump.configuredDefault) (bypassRun env chip).1 out :=
  Prog.yields_runWith (E := BusEffect) env (@setCharging ⟨0⟩ true Pump.configuredDefault) chip out h

instance (m : FaultWatch Recovery) (t : List (Event BusEffect)) :
    Decidable (recoveryBus.Allowed m t) :=
  inferInstanceAs (Decidable ((faultBus (fun _ _ => True) Recovery.next).Allowed m t))

/-- The chip refuses 1:1 and its status is read: the masks were clear before. -/
theorem masks_restored_refusing : ∃ v,
    (bypassWatch Chip.answer Chip.refusing).fault = some v ∧
      (v &&& bypassMask = 0x40 &&& bypassMask ↔
        if (bypassWatch Chip.answer Chip.refusing).history.shown then 0x40 &&& bypassMask = 0
        else 0x40 &&& bypassMask = bypassMask) := by
  -- the chip refuses 1:1 at every stage
  have hfails : (bypassRun Chip.answer Chip.refusing).2.2.map
      (fun out => out.1.toOption.isNone) = some true := by
    decide +kernel
  obtain ⟨⟨outcome, pump⟩, hout, herr⟩ := Option.map_eq_some_iff.1 hfails
  cases outcome with
  | ok mode => cases herr
  | error e =>
      have hallowed : recoveryBus.Allowed { fault := none, history := Recovery.start }
          (bypassRun Chip.answer Chip.refusing).1 := by
        decide +kernel
      exact @masks_restored_iff ⟨0⟩ Pump.configuredDefault pump _ e (yields_bypassRun hout) none
        hallowed _ (bypassWatch_eq _ _) 0x40 (by decide +kernel)

/-- The status is not read after the masks were armed: they stay set. -/
theorem not_masks_restored : ¬∀ (t : List (Event BusEffect)) (e : PumpError) (pump : Pump)
    (m : FaultWatch Recovery) (before : Byte),
    Prog.Yields (@setCharging ⟨0⟩ true Pump.configuredDefault) t (.error e, pump) →
    recoveryBus.Allowed { fault := none, history := Recovery.start } t →
    m = recoveryBus.after { fault := none, history := Recovery.start } t →
    m.history.armed = some before →
    ∃ v, m.fault = some v ∧ v &&& bypassMask = before &&& bypassMask := by
  intro hall
  have hfails : (bypassRun Chip.mute Chip.refusing).2.2.map
      (fun out => out.1.toOption.isNone) = some true := by
    decide +kernel
  obtain ⟨⟨outcome, pump⟩, hout, herr⟩ := Option.map_eq_some_iff.1 hfails
  cases outcome with
  | ok mode => cases herr
  | error e =>
      have hallowed : recoveryBus.Allowed { fault := none, history := Recovery.start }
          (bypassRun Chip.mute Chip.refusing).1 := by
        decide +kernel
      obtain ⟨v, hv, hsame⟩ := hall _ e pump _ 0x40 (yields_bypassRun hout) hallowed
        (bypassWatch_eq Chip.mute Chip.refusing) (by decide +kernel)
      -- the register held 0x40 before, and the failed recovery leaves 0x7C
      have hset : (bypassWatch Chip.mute Chip.refusing).fault = some 0x7C := by decide +kernel
      rw [hset] at hv
      obtain rfl := Option.some.inj hv
      exact absurd hsame (by decide)

end Ln8000
