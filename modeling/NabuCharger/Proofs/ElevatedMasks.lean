import NabuCharger.Logic.Session
import NabuCharger.Ln8000.Chip
import NabuCharger.Ln8000.FaultRegister

/-!
# `Proofs.ElevatedMasks`: the fault masks of the 2:1 path

A 2:1 attempt masks the input overvoltage in `FAULT_CTRL`, and at the float ceiling the
battery overvoltage too. `elevatedBus` follows the masks such an attempt has left in the
register on a bus without faults.

`configure` clears the battery mask. Nothing clears the input mask: a stop does not write the
register, a 1:1 start does not either, and the unmask of the recovery comes after the reset
of the chip. So the masks are gone exactly when no attempt was made since the last reset
(`elevated_masks_iff`).
-/

set_option autoImplicit false

namespace Ln8000

open Effectful

/-! ### The monitor -/

/-- The masks of a 2:1 attempt. -/
def elevatedMasks : Byte := Regs.faultCtrlDisableVinOv ||| Regs.faultCtrlDisableVbatOv

/-- What the 2:1 attempts have left behind. -/
structure Elevated where
  /-- 2:1 was requested since the last reset of the chip. -/
  attempted : Bool
  /-- The masks the last attempt had in `FAULT_CTRL` that were not cleared since. -/
  raised : Byte
  deriving DecidableEq, Repr

/-- After a soft reset nothing was attempted and nothing was raised. -/
def Elevated.start : Elevated := { attempted := false, raised := 0 }

/-- A 2:1 request records which elevated masks stood. A write can only clear them, and a soft reset
starts over. -/
def Elevated.next (fault : Option Byte) (h : Elevated) :
    (o : BusOp) → BusEffect.Resp o → Elevated
  | .mark (.request .switching), _ =>
      { attempted := true, raised := fault.getD 0 &&& elevatedMasks }
  | .write addr value, .ok _ =>
      if isSoftReset addr value then Elevated.start
      else if addr = Regs.faultCtrl then { h with raised := h.raised &&& value }
      else h
  | _, _ => h

/-- The transfer succeeded. -/
def Succeeds : (o : BusOp) → BusEffect.Resp o → Prop
  | .read _, .error _ | .readPair _, .error _ | .write _ _, .error _ => False
  | _, _ => True

/-- A bus without faults, and the masks the 2:1 attempts left. -/
def elevatedBus : Machine BusEffect := faultBus Succeeds Elevated.next

/-- `VIN_OV` is masked. -/
def VinOvMasked (fault : Option Byte) : Prop := ∃ v : Byte, fault = some v ∧ v.getLsbD 2 = true

/-- The input mask of an attempt stands, and without an attempt none was left. -/
structure Left (fault : Option Byte) (h : Elevated) : Prop where
  stands : h.attempted = true → VinOvMasked fault ∧ h.raised.getLsbD 2 = true
  fresh : h.attempted = false → h.raised = 0

/-- Once the masks are left, none stands exactly when no 2:1 attempt was made. -/
theorem Left.raised_eq_zero_iff {fault : Option Byte} {h : Elevated} (hleft : Left fault h) :
    h.raised = 0 ↔ h.attempted = false := by
  constructor
  · intro hzero
    by_contra hattempted
    have hbit := (hleft.stands (Bool.eq_true_of_not_eq_false hattempted)).2
    rw [hzero] at hbit
    cases hbit
  · exact hleft.fresh

/-! ### What keeps the masks -/

/-- Reading the register tells nothing new about an attempt. -/
theorem VinOvMasked.read {fault : Option Byte} {value : Byte}
    (hanswer : fault = none ∨ fault = some value) (h : VinOvMasked fault) :
    VinOvMasked (some value) := by
  obtain ⟨v, hv, hbit⟩ := h
  rcases hanswer with hnone | hsome
  · rw [hv] at hnone
    cases hnone
  · rw [hv] at hsome
    exact ⟨v, hsome ▸ rfl, hbit⟩

/-- Reading the fault register back does not change what was left. -/
theorem Left.read {fault : Option Byte} {value : Byte} {h : Elevated}
    (hanswer : fault = none ∨ fault = some value) (hleft : Left fault h) :
    Left (some value) h :=
  ⟨fun hattempted => ⟨(hleft.stands hattempted).1.read hanswer, (hleft.stands hattempted).2⟩,
    hleft.fresh⟩

/-- The history after an operation that is no write of `FAULT_CTRL`, no reset of the chip and
no request of 2:1. -/
theorem Elevated.next_same {fault : Option Byte} {o : BusOp}
    (hwrite : ∀ addr value, o = .write addr value → addr ≠ Regs.faultCtrl ∧ addr ≠ Regs.bcOp2)
    (hmark : o ≠ .mark (.request .switching)) (h : Elevated) (r : BusEffect.Resp o) :
    h.next fault o r = h := by
  -- what the record watches is a 2:1 mark, a mask write and a reset
  cases o with
  | read addr => cases r <;> rfl
  | reset => cases r <;> rfl
  | readPair addr => cases r <;> rfl
  | postResetDelay => rfl
  | mark mk =>
      cases mk with
      | configureBegin => rfl
      | configured => rfl
      | request mode =>
          cases mode with
          | switching => exact absurd rfl hmark
          | unknown => rfl
          | standby => rfl
          | bypass => rfl
  | write addr value =>
      obtain ⟨haddr, hop⟩ := hwrite addr value rfl
      cases r with
      | error err => rfl
      | ok _ =>
          simp only [next, isSoftReset_of_ne hop, if_neg haddr, Bool.false_eq_true, if_false]

section
variable {P : Option Byte → Elevated → Prop}

/-- What a read of `FAULT_CTRL` keeps, every operation keeps that neither writes the register
nor resets the chip nor requests 2:1. -/
theorem opKeeps_elevated
    (hP : ∀ fault value h, fault = none ∨ fault = some value → P fault h → P (some value) h)
    {o : BusOp}
    (hwrite : ∀ addr value, o = .write addr value → addr ≠ Regs.faultCtrl ∧ addr ≠ Regs.bcOp2)
    (hmark : o ≠ .mark (.request .switching)) :
    OpKeeps elevatedBus (fun _ m => P m.fault m.history) o := by
  rintro p (m : FaultWatch Elevated) h
  refine ⟨trivial, fun r hr => ?_⟩
  change P (nextFault m.fault o r) (m.history.next m.fault o r)
  rw [Elevated.next_same hwrite hmark]
  -- a read of the fault register shows what it holds, nothing else moves it
  by_cases hread : o = .read Regs.faultCtrl
  · subst hread
    cases r with
    | ok value => exact hP m.fault value m.history (hr.1 rfl) h
    | error err => exact hr.2.elim
  · rw [nextFault_of_ne hread hwrite]
    exact h

/-- A property that survives a read of the fault register is kept by every calm exchange. -/
theorem calm_elevated
    (hP : ∀ fault value h, fault = none ∨ fault = some value → P fault h → P (some value) h) :
    Calm elevatedBus fun _ m => P m.fault m.history where
  session _ _ _ _ h := h
  reset := opKeeps_elevated hP nofun nofun
  read _ _ := opKeeps_elevated hP nofun nofun
  safety := opKeeps_elevated hP nofun nofun
  delay := opKeeps_elevated hP nofun nofun
  write addr haddr value := by
    refine opKeeps_elevated hP (fun other v heq => ?_) nofun
    injection heq with hreg
    subst hreg
    constructor
    · rintro rfl
      exact absurd haddr (by decide)
    · rintro rfl
      exact absurd haddr (by decide)
  pair _ _ := opKeeps_elevated hP nofun nofun

end

/-- The masks of the attempts, as an invariant. -/
abbrev LeftMasks : Pump → FaultWatch Elevated → Prop := fun _ m => Left m.fault m.history

/-- Calm exchanges leave the masks as they are. -/
theorem calm_left : Calm elevatedBus LeftMasks :=
  calm_elevated fun _ _ _ hanswer h => h.read hanswer

/-- Writing a register other than the two that hold masks and reset leaves the masks alone. -/
theorem write_left {addr : RegAddr} (haddr : addr ≠ Regs.faultCtrl ∧ addr ≠ Regs.bcOp2)
    (value : Byte) : OpKeeps elevatedBus LeftMasks (.write addr value) := by
  refine opKeeps_elevated (P := Left) (fun _ _ _ hanswer h => h.read hanswer)
    (fun other v heq => ?_) nofun
  injection heq with hreg
  exact hreg ▸ haddr

/-- A step of `FAULT_CTRL` outside the recovery leaves a masked `VIN_OV` masked. -/
theorem vinOv_of_faultSteps {mask value : Byte} (hstep : (mask, value) ∈ faultSteps)
    {current : Byte} (hcurrent : current.getLsbD 2 = true) :
    (mergeBits current mask value).getLsbD 2 = true := by
  have hsteps : (faultSteps.all fun step =>
      !step.1.getLsbD 2 || step.2.getLsbD 2 && step.1.getLsbD 2) = true := by
    decide
  have hkeeps := List.all_eq_true.mp hsteps _ hstep
  simp only [mergeBits, BitVec.getLsbD_or, BitVec.getLsbD_and, BitVec.getLsbD_not, hcurrent]
  simpa using hkeeps

/-- A write of `FAULT_CTRL` under which the input mask stays. -/
theorem Left.write {current value : Byte} {h : Elevated}
    (hleft : Left (some current) h)
    (hvalue : current.getLsbD 2 = true → value.getLsbD 2 = true) :
    Left (some value) (h.next (some current) (.write Regs.faultCtrl value) (.ok ())) := by
  -- of the raised masks those stay that the write keeps set
  have hnext : h.next (some current) (.write Regs.faultCtrl value) (.ok ()) =
      { h with raised := h.raised &&& value } := rfl
  rw [hnext]
  constructor
  · intro hattempted
    obtain ⟨⟨v, hv, hbit⟩, hraised⟩ := hleft.stands hattempted
    obtain rfl := Option.some.inj hv
    refine ⟨⟨value, rfl, hvalue hbit⟩, ?_⟩
    rw [BitVec.getLsbD_and, hraised, hvalue hbit]
    rfl
  · intro hattempted
    show h.raised &&& value = 0
    rw [hleft.fresh hattempted]
    exact BitVec.zero_and

section
variable [LoopFuel]

/-- The fault-register updates keep what was left, by cases on which masks they touch. -/
theorem faults_left : FaultRules elevatedBus LeftMasks := by
  refine ⟨fun mask value field hstep => ⟨fun p m h => ?_⟩⟩
  refine Proc.wp_mono (update_fault_wp (R := LeftMasks) (fun _ _ _ => rfl) (fun _ _ _ _ h => h)
    fun p' current _ hcurrent => ?_) fun _ _ _ h' => h'.2
  exact (h.read hcurrent).write (vinOv_of_faultSteps hstep)

/-- A read-modify-write outside those two registers leaves the masks alone. -/
theorem update_left {addr : RegAddr} (haddr : addr ≠ Regs.faultCtrl ∧ addr ≠ Regs.bcOp2)
    (hsafety : addr ≠ Regs.safetySts) (mask value : Byte) (field : String) :
    Proc.Keeps elevatedBus LeftMasks (update addr mask value field) :=
  update_keeps calm_left.toSteady hsafety fun _ => write_left haddr _

/-- A mode request other than 2:1 leaves the masks alone. -/
theorem request_left {target : OpMode} (htarget : target ≠ .switching) :
    Proc.Keeps elevatedBus LeftMasks (setOpMode target) := by
  refine setOpMode_keeps calm_left.toModes ?_ fun _ _ _ => write_left (by decide) _
  refine opKeeps_elevated (P := Left) (fun _ _ _ hanswer h => h.read hanswer) nofun ?_
  rintro heq
  injection heq with hmark
  injection hmark with hmode
  exact htarget hmode

/-- The current taper leaves the masks alone. -/
theorem taper_left : TaperRules elevatedBus LeftMasks where
  vinPair := opKeeps_elevated (P := Left) (fun _ _ _ hanswer h => h.read hanswer) nofun nofun
  taper _ _ _ _ _ _ := writeIinLimit_keeps calm_left.toSteady fun _ _ _ => write_left (by decide) _

/-- Configuration, whose reset starts the record over, leaves the masks consistent. -/
theorem configure_left : Proc.Keeps elevatedBus LeftMasks configure := by
  -- configuration requests no 2:1
  have hmark : ∀ mk, mk ≠ .request .switching → OpKeeps elevatedBus LeftMasks (.mark mk) := by
    intro mk hmk
    refine opKeeps_elevated (P := Left) (fun _ _ _ hanswer h => h.read hanswer) nofun ?_
    rintro heq
    injection heq with hmark
    exact hmk hmark
  exact configure_keeps calm_left.toModes
    { toFaultRules := faults_left
      reverse := fun _ => update_left (by decide) (by decide) _ _ _
      adc := fun _ => write_left (by decide) _
      limit := fun _ _ _ _ _ _ => write_left (by decide) _
      began := hmark _ nofun
      ended := hmark _ nofun
      standby := request_left nofun }

/-! ### The 2:1 attempt -/

/-- Before the request the attempt has masked the input overvoltage. -/
abbrev Prepared : Pump → FaultWatch Elevated → Prop :=
  fun _ m => Left m.fault m.history ∧ VinOvMasked m.fault

omit [LoopFuel] in
/-- Calm exchanges keep the prepared masks. -/
theorem calm_prepared : Calm elevatedBus Prepared :=
  calm_elevated (P := fun fault h => Left fault h ∧ VinOvMasked fault)
    fun _ _ _ hanswer h => ⟨h.1.read hanswer, h.2.read hanswer⟩

/-- The steps before a 2:1 request end with the mask set. -/
theorem prepareElevated_prepared {p : Pump} {m : FaultWatch Elevated} (h : LeftMasks p m) :
    (prepareElevated .switching).wp elevatedBus (fun _ p' m' => Prepared p' m') p m := by
  have hnear := prepareNearFloatForCharge_sure calm_left.toSettled taper_left true
    fun _ => faults_left
  refine hnear.wp_bind h fun _ p m h => ?_
  refine (discard_sure (clearLatchedFaults_keeps calm_left.toSettled)).wp_bind h fun _ p m h => ?_
  refine (Proc.wp_discard _ _ _ _).2 (Proc.wp_mono (update_fault_wp (R := Prepared)
    (fun _ _ _ => rfl) (fun _ _ _ _ h => h) fun p' current _ hcurrent => ?_) fun _ _ _ h' => h'.2)
  have hmask : ((mergeBits current Regs.faultCtrlDisableVinOv
      Regs.faultCtrlDisableVinOv)).getLsbD 2 = true := by
    simp [mergeBits, Regs.faultCtrlDisableVinOv, bit]
  exact ⟨(h.read hcurrent).write fun _ => hmask, _, rfl, hmask⟩

/-- The request finds the mask in the register, and remembers it. -/
theorem enableSwitching_prepared : Proc.Keeps elevatedBus Prepared enableSwitching := by
  -- a read of the register keeps the mask in it
  have hplain : ∀ fault (value : Byte) h, fault = none ∨ fault = some value →
      Left fault h ∧ VinOvMasked fault → Left (some value) h ∧ VinOvMasked (some value) :=
    fun _ _ _ hanswer h => ⟨h.1.read hanswer, h.2.read hanswer⟩
  refine enableSwitching_keeps calm_prepared.toMoves
    (setOpMode_keeps calm_prepared.toModes ?_ fun current bits _ => ?_)
  · rintro p m ⟨-, v, hv, hbit⟩
    refine ⟨trivial, fun r _ => ⟨⟨fun _ => ⟨⟨v, hv, hbit⟩, ?_⟩, nofun⟩, v, hv, hbit⟩⟩
    show ((FaultWatch.fault m).getD 0 &&& elevatedMasks).getLsbD 2 = true
    rw [hv, Option.getD_some, BitVec.getLsbD_and, hbit]
    rfl
  · refine opKeeps_elevated (P := fun fault h => Left fault h ∧ VinOvMasked fault) hplain ?_ nofun
    rintro addr value heq
    injection heq with hreg
    rw [← hreg]
    decide

/-! ### The recovery -/

/-- The chip was reset and 2:1 was not requested since. -/
abbrev Fresh : Pump → FaultWatch Elevated → Prop := fun _ m => m.history = Elevated.start

omit [LoopFuel] in
/-- Calm exchanges keep a freshly reset chip fresh. -/
theorem calm_fresh : Calm elevatedBus Fresh :=
  calm_elevated (P := fun _ h => h = Elevated.start) fun _ _ _ _ h => h

omit [LoopFuel] in
/-- Any write keeps a fresh history. -/
theorem write_fresh (addr : RegAddr) (value : Byte) :
    OpKeeps elevatedBus Fresh (.write addr value) := by
  rintro p ⟨fault, history⟩ h
  obtain rfl : history = Elevated.start := h
  refine ⟨trivial, fun r _ => ?_⟩
  cases r with
  | error err => rfl
  | ok _ =>
      -- before any 2:1 request a write raises no mask that counts
      show (if isSoftReset addr value then Elevated.start
        else if addr = Regs.faultCtrl then
          { Elevated.start with raised := Elevated.start.raised &&& value }
        else Elevated.start) = Elevated.start
      split
      · rfl
      · split
        · exact congrArg (Elevated.mk false) BitVec.zero_and
        · rfl

omit [LoopFuel] in
/-- A mark other than the 2:1 request leaves the record of a fresh chip untouched. -/
theorem mark_fresh {mk : Mark} (hmk : mk ≠ .request .switching) :
    OpKeeps elevatedBus Fresh (.mark mk) := by
  refine opKeeps_elevated (P := fun _ h => h = Elevated.start) (fun _ _ _ _ h => h) nofun ?_
  rintro heq
  injection heq with hmark
  exact hmk hmark

/-- A mode request other than 2:1 leaves a fresh chip fresh. -/
theorem request_fresh {target : OpMode} (htarget : target ≠ .switching) :
    Proc.Keeps elevatedBus Fresh (setOpMode target) := by
  refine setOpMode_keeps calm_fresh.toModes (mark_fresh ?_) fun _ _ _ => write_fresh _ _
  rintro heq
  injection heq with hmode
  exact htarget hmode

/-- What follows the reset requests no 2:1. -/
theorem recoverConfigured_fresh : Proc.Keeps elevatedBus Fresh recoverConfigured := by
  -- the taper touches no mask
  have htaper : TaperRules elevatedBus Fresh :=
    { vinPair := opKeeps_elevated (P := fun _ h => h = Elevated.start) (fun _ _ _ _ h => h)
        nofun nofun
      taper := fun _ _ _ _ _ _ =>
        writeIinLimit_keeps calm_fresh.toSteady fun _ _ _ => write_fresh _ _ }
  refine recoverConfigured_keeps calm_fresh.toModes htaper (configure_keeps calm_fresh.toModes ?_)
    (recoverClean_keeps calm_fresh.toModes htaper (write_fresh _) (request_fresh nofun))
  exact
    { toFaultRules := FaultRules.of_write calm_fresh.toSteady (write_fresh _)
      reverse := fun _ => update_keeps calm_fresh.toSteady (by decide) fun _ => write_fresh _ _
      adc := write_fresh _
      limit := fun _ _ _ _ _ _ => write_fresh _ _
      began := mark_fresh nofun
      ended := mark_fresh nofun
      standby := request_fresh nofun }

/-- The reset goes out. -/
theorem softReset_fresh {p : Pump} {m : FaultWatch Elevated} (h : LeftMasks p m) :
    softReset.wp elevatedBus (fun _ p' m' => Fresh p' m') p m := by
  -- on this bus every write is delivered
  have hsure : ∀ addr value, OpSure elevatedBus (.write addr value) := by
    rintro addr value m r ⟨-, hr⟩
    cases r with
    | ok _ => rfl
    | error err => exact hr.elim
  have hunlock := write_sure calm_left.toRetries (hsure Regs.lionCtrl Regs.lionCtrlUnlock)
    (write_left (by decide) _)
  refine hunlock.wp_bind h fun _ p m h => ?_
  have hcurrent := unwrapOr_sure (read_keeps calm_left.toSteady
    (by decide : Regs.bcOp2 ≠ Regs.safetySts)) 0
  refine hcurrent.wp_bind h fun current p m h => ?_
  -- the reset bit starts the history over
  have hreset := write_wp_sure (R := Fresh) (p := p) (m := m)
    (hsure Regs.bcOp2 (current ||| bit 0)) trivial fun _ => ?_
  · refine (Proc.wp_bind _ _ _ _ _).2 (Proc.wp_mono hreset ?_)
    rintro outcome p m ⟨rfl, hfresh⟩
    exact (Proc.wp_modify _ _ _ _).2 hfresh
  · show (if isSoftReset Regs.bcOp2 (current ||| bit 0) then Elevated.start else _) = _
    rw [if_pos (isSoftReset_set current)]

omit [LoopFuel] in
/-- A fresh chip has nothing raised and nothing attempted. -/
theorem Fresh.left {p : Pump} {m : FaultWatch Elevated} (h : Fresh p m) : LeftMasks p m := by
  obtain ⟨fault, history⟩ := m
  obtain rfl : history = Elevated.start := h
  exact ⟨nofun, fun _ => rfl⟩

/-- The full recovery leaves the masks consistent: it resets first and raises nothing afterwards. -/
theorem resetAndRecover_left : Proc.Keeps elevatedBus LeftMasks resetAndRecover := by
  refine ⟨fun p m h => (Proc.wp_discard_bind _ _ softReset _ _).2 ?_⟩
  refine Proc.wp_mono (softReset_fresh h) fun _ p m hfresh => ?_
  have hrest : Proc.Keeps elevatedBus Fresh (do
      Proc.modify fun p => { p with bypassStage := 2 }
      postResetDelay
      recoverConfigured : PumpM OpMode) := by
    refine Proc.Keeps.bind (Proc.Keeps.modify fun _ _ h => by exact h) fun _ => ?_
    exact calm_fresh.delay.perform.bind fun _ => recoverConfigured_fresh
  exact Proc.wp_mono (hrest.run p m hfresh) fun _ _ _ h' => h'.left

/-! ### Charge start and stop -/

/-- A mode request keeps the invariant, given that a 2:1 request finds the input mask standing. -/
theorem requestMode_left {want : OpMode} {p : Pump} {m : FaultWatch Elevated}
    (h : LeftMasks p m) (hmasked : want = .switching → VinOvMasked m.fault) :
    (requestMode want).wp elevatedBus (fun _ p' m' => LeftMasks p' m') p m := by
  have hfail : ∀ e, Proc.Keeps elevatedBus LeftMasks (Proc.fail e : PumpM OpMode) :=
    fun e => Proc.Keeps.fail e
  cases want with
  | unknown => exact (hfail _).run p m h
  | standby => exact (hfail _).run p m h
  | switching =>
      exact Proc.wp_mono (enableSwitching_prepared.run p m ⟨h, hmasked rfl⟩) fun _ _ _ h' => h'.1
  -- a refused request falls back to the recovery
  | bypass =>
      have hbypass := enableBypass_keeps calm_left.toModes taper_left.vinPair
        (request_left (nofun : OpMode.bypass ≠ .switching))
      have hrecover := recover5vBypass_keeps calm_left taper_left.vinPair resetAndRecover_left
      refine (Proc.wp_modify_bind _ _ _ _ _).2 ((Proc.wp_attempt_bind _ _ _ _ _).2 ?_)
      refine Proc.wp_mono (hbypass.run _ m h) fun first p m h => ?_
      cases first with
      | ok mode => exact (Proc.Keeps.pure mode).run p m h
      | error _ => exact hrecover.run p m h

/-- Starting a conversion keeps the invariant. A 2:1 start first raises the masks it will be judged
by. -/
theorem startCharging_left (want : OpMode) :
    Proc.Keeps elevatedBus LeftMasks (startCharging want) := by
  refine Proc.Keeps.get.bind fun pump => ?_
  have hwatchdog := (calm_left.update (by decide : Regs.timerCtrl ∈ housekeeping) (bit 7) 0
    "watchdog_force_off")
  refine (Proc.Keeps.when fun _ => hwatchdog.discard).bind fun _ => ?_
  refine Proc.Keeps.bind (Proc.Keeps.modify fun _ _ h => h) fun _ => ⟨fun p m h => ?_⟩
  -- a 2:1 start leaves the input mask raised, which the request below needs
  have hprepare : (Proc.when (want != .bypass) (prepareElevated want)).wp elevatedBus
      (fun _ p' (m' : FaultWatch Elevated) => LeftMasks p' m' ∧
        (want = .switching → VinOvMasked m'.fault)) p m := by
    by_cases hwant : want = .switching
    · subst hwant
      exact Proc.wp_mono (prepareElevated_prepared h) fun _ _ _ h' => ⟨h'.1, fun _ => h'.2⟩
    · have hkeeps := prepareElevated_keeps calm_left.toSettled taper_left faults_left want
      exact Proc.wp_mono ((Proc.Keeps.when fun _ => hkeeps).run p m h)
        fun _ _ _ h' => ⟨h', fun heq => absurd heq hwant⟩
  refine (Proc.wp_bind _ _ _ _ _).2 (Proc.wp_mono hprepare ?_)
  rintro outcome p m ⟨h, hmasked⟩
  cases outcome with
  | error err => exact h
  | ok _ =>
      refine (Proc.wp_attempt_bind _ _ _ _ _).2 (Proc.wp_mono (requestMode_left h hmasked) ?_)
      intro result p m h
      -- a failed request falls back to standby, which raises nothing
      cases result with
      | ok mode =>
          have hnear := prepareNearFloatForCharge_keeps calm_left.toSettled taper_left false nofun
          refine (Proc.wp_modify_bind _ _ _ _ _).2 ?_
          exact ((Proc.Keeps.when fun _ => hnear).bind fun _ => Proc.Keeps.pure mode).run _ m h
      | error err =>
          have hstandby := request_left (nofun : OpMode.standby ≠ .switching)
          exact ((Proc.Keeps.when fun _ => hstandby.discard).bind
            fun _ => Proc.Keeps.fail err).run p m h

/-- Switching the charging on or off keeps the invariant. -/
theorem setCharging_left (on : Bool) : Proc.Keeps elevatedBus LeftMasks (setCharging on) := by
  have hstandby := request_left (nofun : OpMode.standby ≠ .switching)
  refine (update_left (by decide) (by decide) _ _ _).bind fun _ =>
    Proc.Keeps.ite (fun _ => ?_) fun _ => ?_
  · exact stopCharging_keeps calm_left hstandby
  · refine ((readAdc_keeps calm_left.toSettled taper_left.vinPair).unwrapOr 0).bind fun vin => ?_
    refine (readAdcUv_keeps calm_left.toSettled (calm_left.pair .vbat (by decide))).bind
      fun vbat => ?_
    cases chargeMode vin vbat with
    | none => exact hstandby.discard.bind fun _ => Proc.Keeps.fail _
    | some want => exact startCharging_left want

/-! ### Runs -/

/-- The calls of a run. -/
inductive MaskOp
  | configure
  | setCharging (on : Bool)
  deriving DecidableEq, Repr

/-- The program of a call. The caller may drop its result. -/
def MaskOp.run : MaskOp → PumpM Unit
  | .configure => Proc.discard Ln8000.configure
  | .setCharging on => Proc.discard (Ln8000.setCharging on)

/-- Each operation of the session keeps the invariant, by cases on the operation. -/
theorem maskOp_left (op : MaskOp) : Proc.Keeps elevatedBus LeftMasks op.run := by
  cases op with
  | configure => exact configure_left.discard
  | setCharging on => exact (setCharging_left on).discard

/-- After every run of `configure`, charge starts and charge stops on a bus without faults,
whatever `FAULT_CTRL` held before: the masks that 2:1 attempts left in it are cleared if and
only if none was made since the last reset of the chip. As long as one was, the input
overvoltage stays masked. -/
theorem elevated_masks_iff {pump pump' : Pump} {log : List (Entry BusEffect Pump MaskOp)}
    (h : Run MaskOp.run pump log pump') {fault : Option Byte}
    (hbus : elevatedBus.Allowed { fault := fault, history := Elevated.start } (exchanges log))
    {m : FaultWatch Elevated}
    (hm : m = elevatedBus.after { fault := fault, history := Elevated.start } (exchanges log)) :
    (m.history.raised = 0 ↔ m.history.attempted = false) ∧
      (m.history.attempted = true → VinOvMasked m.fault) := by
  have hstart : LeftMasks pump { fault := fault, history := Elevated.start } :=
    ⟨nofun, fun _ => rfl⟩
  have hleft : LeftMasks pump' m := hm ▸ h.keeps maskOp_left _ hstart hbus
  exact ⟨Left.raised_eq_zero_iff hleft, fun hattempted => (Left.stands hleft hattempted).1⟩

end

/-- The log of the calls against the chip, from a configured session. -/
def maskLog (chip : Chip) (calls : List MaskOp) : List (Entry BusEffect Pump MaskOp) :=
  Session.execute Chip.answer (@MaskOp.run ⟨0⟩) chip Pump.configuredDefault calls

/-- The state they leave. -/
def maskLeaves (chip : Chip) (calls : List MaskOp) : Option Pump :=
  Run.leaves Chip.answer (@MaskOp.run ⟨0⟩) chip Pump.configuredDefault calls

/-- A list of calls that leaves a pump is a run of the session. -/
theorem run_maskLog {chip : Chip} {calls : List MaskOp} {pump : Pump}
    (h : maskLeaves chip calls = some pump) :
    Run (@MaskOp.run ⟨0⟩) Pump.configuredDefault (maskLog chip calls) pump :=
  Run.of_leaves (E := BusEffect) Chip.answer (@MaskOp.run ⟨0⟩) calls chip _ pump h

instance : ∀ (o : BusOp) (r : BusEffect.Resp o), Decidable (Succeeds o r)
  | .read _, .error _ | .readPair _, .error _ | .write _ _, .error _ => isFalse id
  | .read _, .ok _ | .readPair _, .ok _ | .write _ _, .ok _ | .reset, _ | .postResetDelay, _
  | .mark _, _ => isTrue trivial

instance (m : FaultWatch Elevated) (t : List (Event BusEffect)) :
    Decidable (elevatedBus.Allowed m t) :=
  inferInstanceAs (Decidable ((faultBus Succeeds Elevated.next).Allowed m t))

/-- The monitor at the end of the calls, from a register that was never read. -/
def maskWatch (chip : Chip) (calls : List MaskOp) : FaultWatch Elevated :=
  elevatedBus.after { fault := none, history := Elevated.start } (exchanges (maskLog chip calls))

/-- A 9 V input that is started and stopped: 2:1 is attempted, and the input overvoltage is masked
at the end. -/
theorem elevated_masks_nineVolt :
    (maskWatch Chip.nineVolt [.setCharging true, .setCharging false]).history.attempted = true ∧
      (maskWatch Chip.nineVolt [.setCharging true, .setCharging false]).history.raised ≠ 0 ∧
      VinOvMasked (maskWatch Chip.nineVolt [.setCharging true, .setCharging false]).fault := by
  obtain ⟨pump, hpump⟩ : ∃ pump,
      maskLeaves Chip.nineVolt [.setCharging true, .setCharging false] = some pump :=
    Option.isSome_iff_exists.1 (by decide +kernel)
  -- the run requests 2:1
  have hattempted : (maskWatch Chip.nineVolt
      [.setCharging true, .setCharging false]).history.attempted = true := by
    decide +kernel
  have hiff :
      ((maskWatch Chip.nineVolt [.setCharging true, .setCharging false]).history.raised = 0 ↔
        (maskWatch Chip.nineVolt [.setCharging true, .setCharging false]).history.attempted
          = false) ∧
      ((maskWatch Chip.nineVolt [.setCharging true, .setCharging false]).history.attempted = true →
        VinOvMasked (maskWatch Chip.nineVolt [.setCharging true, .setCharging false]).fault) :=
    @elevated_masks_iff ⟨0⟩ _ _ _ (run_maskLog hpump) none (by decide +kernel) _ rfl
  refine ⟨hattempted, fun hzero => ?_, hiff.2 hattempted⟩
  have hnone := (hiff.1.1 hzero).symm.trans hattempted
  cases hnone

/-- A charge start at 9 V and a stop the chip follows: the input overvoltage stays masked. -/
theorem not_elevated_masks : ¬∀ (log : List (Entry BusEffect Pump MaskOp)) (pump : Pump),
    Run (@MaskOp.run ⟨0⟩) Pump.configuredDefault log pump →
    elevatedBus.Allowed { fault := none, history := Elevated.start } (exchanges log) →
    log.getLast?.map Entry.op = some (.setCharging false) →
    pump.state = .configured → pump.opMode = .standby →
    (FaultWatch.history (elevatedBus.after { fault := none, history := Elevated.start }
      (exchanges log))).raised = 0 := by
  intro hall
  -- at the end of the run the pump is in standby, with the mask still raised
  have hleaves : (maskLeaves Chip.nineVolt [.setCharging true, .setCharging false]).map
      (fun pump => (pump.state, pump.opMode)) = some (.configured, .standby) := by
    decide +kernel
  obtain ⟨pump, hpump, hended⟩ := Option.map_eq_some_iff.1 hleaves
  injection hended with hstate hmode
  have hraised := hall _ pump (run_maskLog hpump) (by decide +kernel) (by decide +kernel)
    hstate hmode
  revert hraised
  decide +kernel

end Ln8000
