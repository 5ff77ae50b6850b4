import NabuCharger.Logic.Session
import NabuCharger.Ln8000.Chip
import NabuCharger.Ln8000.Reliable

/-!
# `Proofs.ResetDiscipline`: one soft reset for one input

The recovery of the 5 V bypass resets the chip. Two rules go with that: no transfer between
the reset and the caller's sleep, and no second reset on the input that had one, unless a
voltage fault is latched.

`delayMonitor` watches for the first rule, and every charge start or stop keeps it on every
bus (`setCharging_delay`). `porMonitor` watches for the second. The code keeps its own memo
of the input, `porVinUv`, and takes a `Vin` sample that failed for an input of 0 V. So the
rule holds as long as the memo is the input of the last reset that went out: the samples
succeed, and a reset that was begun goes out (`setCharging_por`).
-/

set_option autoImplicit false

namespace Ln8000

open Effectful

/-- The operation is no write of the register with the reset bit. -/
def BusOp.SparesReset : BusOp → Prop
  | .write addr _ => addr ≠ Regs.bcOp2
  | .read _ | .readPair _ | .reset | .postResetDelay | .mark _ => True

/-! ### The sleep after a reset -/

/-- A reset went out and the caller has not slept yet: no transfer until it has. -/
def delayMonitor : Machine BusEffect where
  State := Bool
  allow _ _ _ := True
  require fresh
    | .read _ | .readPair _ | .write _ _ | .reset => fresh = false
    | .postResetDelay | .mark _ => True
  next fresh
    | .write addr value, .ok _ => fresh || isSoftReset addr value
    | .postResetDelay, _ => false
    | _, _ => fresh

/-- No reset is waiting for the sleep. -/
def Rested : Pump → Bool → Prop := fun _ fresh => fresh = false

/-- An exchange that sends no reset leaves the sleep where it is. -/
theorem opKeeps_rested {o : BusOp} (h : o.SparesReset) :
    OpKeeps delayMonitor Rested o := by
  intro p m hrested
  obtain rfl : m = false := hrested
  cases o with
  | read addr => exact ⟨rfl, fun r _ => by cases r <;> rfl⟩
  | readPair addr => exact ⟨rfl, fun r _ => by cases r <;> rfl⟩
  | reset => exact ⟨rfl, fun r _ => by cases r <;> rfl⟩
  | postResetDelay => exact ⟨trivial, fun _ _ => rfl⟩
  | mark mk => exact ⟨trivial, fun _ _ => rfl⟩
  -- a write that is no soft reset
  | write addr value =>
      refine ⟨rfl, fun r _ => ?_⟩
      cases r with
      | error err => rfl
      | ok _ =>
          show (false || isSoftReset addr value) = false
          rw [isSoftReset_of_ne h, Bool.false_or]

/-- Calm exchanges send no reset. -/
theorem calm_rested : Calm delayMonitor Rested where
  session _ _ _ _ h := h
  reset := opKeeps_rested trivial
  read _ _ := opKeeps_rested trivial
  safety := opKeeps_rested trivial
  delay := opKeeps_rested trivial
  write _ haddr _ := opKeeps_rested (ne_bcOp2 haddr)
  pair _ _ := opKeeps_rested trivial

section
variable [LoopFuel]

/-- A read-modify-write outside the reset and safety registers sends no reset. -/
theorem update_rested {addr : RegAddr} (haddr : addr ≠ Regs.bcOp2 ∧ addr ≠ Regs.safetySts)
    (mask value : Byte) (field : String) :
    Proc.Keeps delayMonitor Rested (update addr mask value field) :=
  update_keeps calm_rested.toSteady haddr.2 fun _ => opKeeps_rested haddr.1

/-- A mode request sends no reset. -/
theorem setOpMode_rested (target : OpMode) :
    Proc.Keeps delayMonitor Rested (setOpMode target) :=
  setOpMode_keeps calm_rested.toModes (opKeeps_rested trivial) fun _ _ _ =>
    opKeeps_rested (show Regs.sysCtrl ≠ Regs.bcOp2 by decide)

omit [LoopFuel] in
/-- A write of the fault masks sends no reset. -/
theorem fault_rested (value : Byte) : OpKeeps delayMonitor Rested (.write Regs.faultCtrl value) :=
  opKeeps_rested (show Regs.faultCtrl ≠ Regs.bcOp2 by decide)

/-- The fault-register updates send no reset. -/
theorem faults_rested : FaultRules delayMonitor Rested :=
  FaultRules.of_write calm_rested.toSteady fault_rested

/-- The current taper sends no reset. -/
theorem taper_rested : TaperRules delayMonitor Rested where
  vinPair := opKeeps_rested trivial
  taper _ _ _ _ _ _ := writeIinLimit_keeps calm_rested.toSteady fun _ _ _ =>
    opKeeps_rested (show Regs.iinCtrl ≠ Regs.bcOp2 by decide)

/-- Configuration ends rested: the only reset in it is followed by its sleep. -/
theorem configure_rested : Proc.Keeps delayMonitor Rested configure := by
  refine configure_keeps calm_rested.toModes ?_
  have hwrite : ∀ {addr value}, addr ≠ Regs.bcOp2 →
      OpKeeps delayMonitor Rested (.write addr value) :=
    fun haddr => opKeeps_rested haddr
  exact
    { toFaultRules := faults_rested
      reverse := fun _ => update_rested ⟨by decide, by decide⟩ _ _ _
      adc := fun _ => hwrite (by decide)
      limit := fun _ _ _ _ _ _ => hwrite (by decide)
      began := opKeeps_rested trivial
      ended := opKeeps_rested trivial
      standby := setOpMode_rested .standby }

/-- The write that resets the chip is the last transfer of a soft reset. -/
theorem softReset_delay {p : Pump} {fresh : Bool} (h : Rested p fresh) :
    softReset.wp delayMonitor (fun _ _ _ => True) p fresh := by
  have hunlock := calm_rested.write Regs.lionCtrl (by decide) Regs.lionCtrlUnlock
  refine (write_keeps calm_rested.toSteady hunlock).wp_bind h ?_ fun _ _ _ _ => trivial
  intro _ p fresh h
  have hread := read_keeps calm_rested.toSteady (by decide : Regs.bcOp2 ≠ Regs.safetySts)
  refine (Proc.wp_unwrapOr_bind p fresh _ _ _ _).2 (Proc.wp_mono (hread.run p fresh h) ?_)
  intro current p fresh h
  -- the reset is the last transfer of the call
  have hreset := write_wp (R := fun _ _ => True) calm_rested.toRetries Regs.bcOp2
    (current.toOption.getD 0 ||| bit 0) (fun _ _ _ _ _ => trivial) ?_ h
  · refine (Proc.wp_bind p fresh _ _ _).2 (Proc.wp_mono hreset ?_)
    intro outcome p fresh _
    cases outcome with
    | error err => trivial
    | ok _ => exact (Proc.wp_modify p fresh _ _).2 trivial
  · rintro p fresh rfl
    refine ⟨rfl, fun r _ => ⟨fun _ => trivial, ?_⟩⟩
    rintro err rfl
    rfl

/-- The sleep follows whatever came of the reset. -/
theorem resetAndRecover_rested : Proc.Keeps delayMonitor Rested resetAndRecover := by
  refine ⟨fun p fresh h => (Proc.wp_discard_bind _ _ softReset _ _).2 ?_⟩
  refine Proc.wp_mono (softReset_delay h) fun _ p fresh _ => ?_
  refine (Proc.wp_modify_bind _ _ _ _ _).2 ((Proc.wp_perform_bind _ _ _ _ _).2 ?_)
  refine ⟨trivial, fun r _ => ?_⟩
  have hclean := recoverClean_keeps calm_rested.toModes taper_rested fault_rested
    (setOpMode_rested .bypass)
  exact (recoverConfigured_keeps calm_rested.toModes taper_rested configure_rested hclean).run
    _ false rfl

/-- The steps of a charge start end rested. -/
theorem charge_rested : ChargeRules delayMonitor Rested where
  toTaperRules := taper_rested
  toFaultRules := faults_rested
  reverse _ := update_rested ⟨by decide, by decide⟩ _ _ _
  standby := setOpMode_rested .standby
  switching := setOpMode_rested .switching
  enableBypass :=
    enableBypass_keeps calm_rested.toModes (opKeeps_rested trivial) (setOpMode_rested .bypass)
  recover := recover5vBypass_keeps calm_rested (opKeeps_rested trivial) resetAndRecover_rested

/-- A charge start or stop sleeps after its reset, on every bus. -/
theorem setCharging_delay (on : Bool) : Proc.Keeps delayMonitor Rested (setCharging on) :=
  setCharging_keeps calm_rested charge_rested on

end

/-! ### One reset for one input -/

/-- What the rule remembers of a run of charge starts. -/
structure PorState where
  /-- The value of `TIMER_CTRL`, if the last transfer wrote it. -/
  timer : Option Byte
  /-- The last `Vin` sample. -/
  vin : Option Int
  /-- `FAULT1` as read last, zero if that read failed. -/
  fault1 : Byte
  /-- The input of the last reset that went out. -/
  por : Option Nat
  deriving DecidableEq, Repr

/-- The run begins. -/
def PorState.start : PorState := { timer := none, vin := none, fault1 := 0, por := none }

/-- The last `Vin` sample as a voltage. -/
def PorState.input (m : PorState) : Nat := (m.vin.getD 0).toNat

/-- A transfer ends the sleep. What it answers of the input and of the fault register is remembered,
and a soft reset notes the input it went out at. -/
def PorState.next (m : PorState) : (o : BusOp) → BusEffect.Resp o → PorState
  | .read addr, .ok value =>
      { m with timer := none, fault1 := if addr = Regs.fault1Sts then value else m.fault1 }
  | .read addr, .error _ =>
      { m with timer := none, fault1 := if addr = Regs.fault1Sts then 0 else m.fault1 }
  | .readPair addr, .ok raw =>
      if addr = AdcChannel.vin.register then
        { m with timer := none, vin := some (AdcChannel.vin.decode raw) }
      else { m with timer := none }
  | .write addr value, .ok _ =>
      { m with
        timer := if addr = Regs.timerCtrl then some value else none
        por := if isSoftReset addr value then some m.input else m.por }
  | _, _ => { m with timer := none }

/-- Another reset is due: none went out yet, the input moved by more than the tolerance, or
a voltage fault is latched. -/
def PorState.ResetDue (m : PorState) : Prop :=
  match m.por with
  | none => True
  | some prev => max m.input prev - min m.input prev > porVinToleranceUv ∨
      m.fault1 &&& Regs.fault1VfaultsMask ≠ 0

/-- A soft reset is written only when it is due. -/
def resetWatch : Machine BusEffect where
  State := PorState
  allow _ _ _ := True
  require m
    | .write addr value => isSoftReset addr value = true → m.ResetDue
    | _ => True
  next := PorState.next

/-- The answers under which the driver's memo is the input of the last reset: `Vin` samples
are read, and so is the pause of the conversions around them, which reads back as written.
The two writes of a reset are accepted. -/
def PorState.Heard (m : PorState) : (o : BusOp) → BusEffect.Resp o → Prop
  | .read addr, .ok value => addr = Regs.timerCtrl → m.timer = none ∨ m.timer = some value
  | .read addr, .error _ => addr ≠ Regs.timerCtrl
  | .readPair addr, .error _ => addr ≠ AdcChannel.vin.register
  | .write addr _, .error _ =>
      addr ≠ Regs.timerCtrl ∧ addr ≠ Regs.lionCtrl ∧ addr ≠ Regs.bcOp2
  | _, _ => True

/-- The same rule, for a bus that answers so. -/
def porMonitor : Machine BusEffect := { resetWatch with allow := PorState.Heard }

/-- The memo is the input of the last reset that went out. -/
def Remembers (p : Pump) (m : PorState) : Prop :=
  ∀ input, m.por = some input → p.porVinUv = some input

/-- Only a soft reset changes what the rule remembers of resets. -/
theorem PorState.next_por {o : BusOp}
    (h : o.SparesReset) (m : PorState)
    (r : BusEffect.Resp o) : (m.next o r).por = m.por := by
  cases o with
  | read addr => cases r <;> rfl
  | reset => cases r <;> rfl
  | postResetDelay => rfl
  | mark mk => rfl
  -- a sample may become the input, the input of the last reset stays
  | readPair addr =>
      cases r with
      | error err => rfl
      | ok raw =>
          simp only [next]
          split <;> rfl
  | write addr value =>
      cases r with
      | error err => rfl
      | ok _ =>
          simp [next, isSoftReset_of_ne h]

/-- Only a pair read at the `Vin` register changes the sample. -/
theorem PorState.next_vin {o : BusOp} (h : o ≠ .readPair AdcChannel.vin.register)
    (m : PorState) (r : BusEffect.Resp o) : (m.next o r).vin = m.vin := by
  cases o with
  | read addr => cases r <;> rfl
  | reset => cases r <;> rfl
  | postResetDelay => rfl
  | mark mk => rfl
  | readPair addr =>
      cases r with
      | error err => rfl
      | ok raw =>
          have haddr : addr ≠ AdcChannel.vin.register := fun heq => h (heq ▸ rfl)
          simp only [next, if_neg haddr]
  | write addr value => cases r <;> rfl

/-- Only a read of `FAULT1` changes the fault. -/
theorem PorState.next_fault1 {o : BusOp} (h : o ≠ .read Regs.fault1Sts) (m : PorState)
    (r : BusEffect.Resp o) : (m.next o r).fault1 = m.fault1 := by
  cases o with
  | read addr =>
      have haddr : addr ≠ Regs.fault1Sts := fun heq => h (heq ▸ rfl)
      cases r <;> simp only [next, if_neg haddr]
  | reset => cases r <;> rfl
  | postResetDelay => rfl
  | mark mk => rfl
  | readPair addr =>
      cases r with
      | error err => rfl
      | ok raw =>
          simp only [next]
          split <;> rfl
  | write addr value => cases r <;> rfl

/-- The rule asks nothing of an exchange that sends no reset. -/
theorem require_por {o : BusOp} (h : o.SparesReset)
    (m : PorState) : porMonitor.require m o := by
  cases o with
  | write addr value =>
      intro hreset
      rw [isSoftReset_of_ne h] at hreset
      cases hreset
  | read addr => trivial
  | readPair addr => trivial
  | reset => trivial
  | postResetDelay => trivial
  | mark mk => trivial

/-- An operation that neither resets the chip nor samples `Vin` keeps what is known of the
two. -/
theorem opKeeps_known {K : Pump → Option Nat → Option Int → Prop} {o : BusOp}
    (hwrite : o.SparesReset)
    (hpair : o ≠ .readPair AdcChannel.vin.register) :
    OpKeeps porMonitor (fun p m => K p m.por m.vin) o := by
  refine fun p m hK => ⟨require_por hwrite m, fun r _ => ?_⟩
  have hpor : (PorState.next m o r).por = m.por := PorState.next_por hwrite m r
  have hvin : (PorState.next m o r).vin = m.vin := PorState.next_vin hpair m r
  exact Eq.mpr (congrArg₂ (K p) hpor hvin) hK

/-- An exchange that sends no reset leaves the memo of the last one. -/
theorem opKeeps_remembers {o : BusOp}
    (hwrite : o.SparesReset) :
    OpKeeps porMonitor Remembers o := by
  refine fun p m h => ⟨require_por hwrite m, fun r _ input hinput => h input ?_⟩
  exact (PorState.next_por hwrite m r).symm.trans hinput

/-- A property of the memo and the sample that survives every transfer is settled. -/
theorem settled_known {K : Pump → Option Nat → Option Int → Prop}
    (hframe : ∀ (p p' : Pump) por vin, p.Transfers p' → K p por vin → K p' por vin) :
    Settled porMonitor fun p m => K p m.por m.vin where
  frame p p' m ht h := hframe p p' _ _ ht h
  reset := opKeeps_known trivial nofun
  read _ _ := opKeeps_known trivial nofun
  delay := opKeeps_known trivial nofun
  write _ haddr _ := opKeeps_known (ne_bcOp2 haddr) nofun
  pair channel hchannel := opKeeps_known trivial fun heq => hchannel <| by
    injection heq with hreg
    exact AdcChannel.register_injective hreg

/-- Moving between the modes leaves the memo. -/
theorem moves_remembers : Moves porMonitor Remembers where
  toSettled := settled_known (K := fun p por _ => ∀ input, por = some input →
    p.porVinUv = some input) fun _ _ _ _ ht h input hinput => ht.porVinUv.trans (h input hinput)
  safety := opKeeps_remembers trivial
  opMode _ _ _ h := h
  configured _ _ h := h
  probed _ _ h := h
  bypassStage _ _ _ h := h
  switching _ _ h := h

/-! ### The sample and the budget of the recovery -/

/-- The memo, and the sample at hand. -/
def Sampled (value : Int) (p : Pump) (m : PorState) : Prop :=
  Remembers p m ∧ m.vin = some value

/-- The memo and the sample at hand survive everything that does not sample again. -/
theorem settled_sampled (value : Int) : Settled porMonitor (Sampled value) :=
  settled_known (K := fun p por vin =>
    (∀ input, por = some input → p.porVinUv = some input) ∧ vin = some value)
    fun _ _ _ _ ht h => ⟨fun input hinput => ht.porVinUv.trans (h.1 input hinput), h.2⟩

section
variable [LoopFuel]

/-- A timer update settles whatever happens on the bus. -/
theorem timer_sure {I : Pump → PorState → Prop} (c : Settled porMonitor I) (mask value : Byte)
    (field : String) : Sure porMonitor I (update Regs.timerCtrl mask value field) := by
  -- this bus delivers every transfer of the timer register
  refine update_sure c.toRetries ?_ (fun current => ?_) ?_
    (c.read _ (by decide)) fun current => c.write _ (by decide) _
  · intro m r hr
    cases r with
    | ok value => exact ⟨value, rfl⟩
    | error err => exact absurd rfl hr
  · intro m r hr
    cases r with
    | ok _ => rfl
    | error err => exact absurd rfl hr.1
  · intro m value readBack _ hr
    rcases hr rfl with hnone | hsome
    · cases hnone
    · exact (Option.some.inj hsome).symm

/-- The `Vin` sample of a bus that is heard is the one the rule remembers. -/
theorem readAdc_vin_por {p : Pump} {m : PorState} (h : Remembers p m) :
    (readAdc .vin).wp porMonitor
      (fun outcome p' m' => ∃ value, outcome = .ok value ∧ Sampled value p' m') p m := by
  have c : Settled porMonitor Remembers := moves_remembers.toSettled
  have hvin : OpKeeps porMonitor Remembers (.readPair AdcChannel.vin.register) :=
    opKeeps_remembers trivial
  have hpair : Sure porMonitor Remembers (readPair AdcChannel.vin.register) := by
    refine readPair_sure c.toRetries (fun m r hr => ?_) hvin
    cases r with
    | ok raw => exact ⟨raw, rfl⟩
    | error err => exact absurd rfl hr
  -- so the sample is delivered, and is the one remembered
  have hsure : Sure porMonitor Remembers (readAdc .vin) :=
    readAdc_sure (timer_sure c _ _ _) hpair (timer_sure c _ _ _).keeps
  have hvalue := readAdc_wp c (S := fun value m => m.vin = some value) hvin
    (fun _ _ raw _ _ => by rfl) settled_sampled h
  refine Proc.wp_mono (Proc.wp_and (hsure.run p m h) hvalue) ?_
  rintro outcome p m ⟨⟨-, value, rfl⟩, hremembers, hseen⟩
  exact ⟨value, rfl, hremembers, hseen value rfl⟩

omit [LoopFuel] in
/-- The sample and the memo, while the budget is checked. -/
theorem settled_memo (value : Int) (prev : Nat) :
    Settled porMonitor fun p m => Sampled value p m ∧ p.porVinUv = some prev :=
  settled_known (K := fun p por vin =>
    ((∀ input, por = some input → p.porVinUv = some input) ∧ vin = some value) ∧
      p.porVinUv = some prev)
    fun _ _ _ _ ht h => ⟨⟨fun input hinput => ht.porVinUv.trans (h.1.1 input hinput), h.1.2⟩,
      ht.porVinUv.trans h.2⟩

omit [LoopFuel] in
/-- An input that has moved from the memo, or a fault, makes the reset due. -/
theorem resetDue_of_moved {value : Int} {prev : Nat} {p : Pump} {m : PorState}
    (h : Sampled value p m) (hmemo : p.porVinUv = some prev)
    (hdue : max value.toNat prev - min value.toNat prev > porVinToleranceUv ∨
      m.fault1 &&& Regs.fault1VfaultsMask ≠ 0) : m.ResetDue := by
  have hinput : m.input = value.toNat := by rw [PorState.input, h.2, Option.getD_some]
  rw [PorState.ResetDue]
  cases hpor : m.por with
  | none => trivial
  | some last =>
      have hsame : some last = some prev := (h.1 last hpor).symm.trans hmemo
      rw [Option.some.inj hsame, hinput]
      exact hdue

/-- The budget passes only when a reset is due. -/
theorem checkPorBudget_due {value : Int} {p : Pump} {m : PorState} (h : Sampled value p m) :
    (checkPorBudget value.toNat).wp porMonitor
      (fun outcome p' m' => Sampled value p' m' ∧ (outcome = .ok () → m'.ResetDue)) p m := by
  refine (Proc.wp_get_bind _ _ _ _).2 ?_
  cases hmemo : p.porVinUv with
  | none =>
      have hnone : m.por = none := by
        cases hpor : m.por with
        | none => rfl
        | some input =>
            rw [h.1 input hpor] at hmemo
            cases hmemo
      refine (Proc.wp_pure _ _ _ _).2 ?_
      refine ⟨h, fun _ => ?_⟩
      rw [PorState.ResetDue, hnone]
      trivial
  | some prev =>
      have c := settled_memo value prev
      have hfault := read_wp c.toRetries (c.read Regs.fault1Sts (by decide))
        (S := fun fault1 m => m.fault1 = fault1) (fun _ _ _ _ _ => by rfl) ⟨h, hmemo⟩
      refine (Proc.wp_unwrapOr_bind _ _ _ _ _ _).2 (Proc.wp_mono hfault ?_)
      rintro outcome p m ⟨⟨h, hmemo⟩, hvalue, -⟩
      by_cases hrefused : max value.toNat prev - min value.toNat prev ≤ porVinToleranceUv ∧
          outcome.toOption.getD 0 &&& Regs.fault1VfaultsMask = 0
      · rw [if_pos hrefused]
        have hstatus := (read_keeps (settled_sampled value).toSteady
          (by decide : Regs.sysSts ≠ Regs.safetySts)).run p m h
        refine (Proc.wp_unwrapOr_bind _ _ _ _ _ _).2 (Proc.wp_mono hstatus ?_)
        intro _ p m h
        refine (Proc.wp_fail _ _ _ _).2 ?_
        exact ⟨h, fun herr => nomatch herr⟩
      · rw [if_neg hrefused]
        refine (Proc.wp_pure _ _ _ _).2 ?_
        refine ⟨h, fun _ => resetDue_of_moved h hmemo ?_⟩
        cases outcome with
        | ok fault1 =>
            rw [hvalue fault1 rfl]
            by_cases hmoved : max value.toNat prev - min value.toNat prev > porVinToleranceUv
            · exact Or.inl hmoved
            · exact Or.inr fun hclear => hrefused ⟨Nat.le_of_not_lt hmoved, hclear⟩
        | error err =>
            -- a fault that could not be read counts as none
            have hnone : (0 : Byte) &&& Regs.fault1VfaultsMask = 0 := by decide
            exact Or.inl (Nat.lt_of_not_le fun hsame => hrefused ⟨hsame, hnone⟩)

/-! ### The reset -/

/-- The budget has passed, and the memo is the input of the sample. -/
def Pending (p : Pump) (m : PorState) : Prop :=
  m.ResetDue ∧ p.porVinUv = some m.input

omit [LoopFuel] in
/-- A due reset stays due through exchanges that neither reset nor sample. -/
theorem opKeeps_pending {o : BusOp}
    (hwrite : o.SparesReset)
    (hpair : o ≠ .readPair AdcChannel.vin.register) (hfault1 : o ≠ .read Regs.fault1Sts) :
    OpKeeps porMonitor Pending o := by
  rintro p m ⟨hdue, hmemo⟩
  refine ⟨require_por hwrite m, fun r _ => ?_⟩
  have hpor : (PorState.next m o r).por = m.por := PorState.next_por hwrite m r
  have hvin : (PorState.next m o r).vin = m.vin := PorState.next_vin hpair m r
  have hfault : (PorState.next m o r).fault1 = m.fault1 := PorState.next_fault1 hfault1 m r
  -- nothing the decision looks at has moved
  have hinput : (PorState.next m o r).input = m.input :=
    congrArg (fun vin : Option Int => (vin.getD 0).toNat) hvin
  refine ⟨?_, hmemo.trans (congrArg some hinput.symm)⟩
  show (PorState.next m o r).ResetDue
  rw [PorState.ResetDue, hpor, hinput, hfault]
  exact hdue

omit [LoopFuel] in
/-- The retries of a transfer leave a due reset due. -/
theorem retries_pending : Retries porMonitor Pending where
  frame _ _ _ ht h := ⟨h.1, ht.porVinUv.trans h.2⟩
  reset := opKeeps_pending trivial nofun nofun

/-- A reset that is due goes out, and the memo is its input. -/
theorem softReset_por {p : Pump} {m : PorState} (h : Pending p m) :
    softReset.wp porMonitor (fun _ p' m' => Remembers p' m') p m := by
  have hunlock : Sure porMonitor Pending (write Regs.lionCtrl Regs.lionCtrlUnlock) := by
    refine write_sure retries_pending (fun m r hr => ?_) (opKeeps_pending ?_ nofun nofun)
    · cases r with
      | ok _ => rfl
      | error err => exact absurd rfl hr.2.1
    · show Regs.lionCtrl ≠ Regs.bcOp2
      decide
  have hread : Proc.Keeps porMonitor Pending (read Regs.bcOp2) :=
    (read_faults retries_pending (opKeeps_pending trivial nofun (by decide))).keeps
  refine hunlock.wp_bind h fun _ p m h => ?_
  refine (Proc.wp_unwrapOr_bind _ _ _ _ _ _).2 (Proc.wp_mono (hread.run p m h) ?_)
  rintro current p m ⟨hdue, hmemo⟩
  have hset := isSoftReset_set (current.toOption.getD 0)
  -- the write of the reset bit meets the rule, since the reset is due, and notes the memo's input
  have hreset : (write Regs.bcOp2 (current.toOption.getD 0 ||| bit 0)).wp porMonitor
      (fun outcome p' m' => outcome = .ok () ∧ Remembers p' m') p m := by
    refine write_wp_sure (fun m r hr => ?_) (fun _ => hdue) fun _ => ?_
    · cases r with
      | ok _ => rfl
      | error err => exact absurd rfl hr.2.2
    · intro input hinput
      have hpor : some m.input = some input := by
        rw [← hinput]
        exact (if_pos hset).symm
      exact hmemo.trans hpor
  refine (Proc.wp_bind _ _ _ _ _).2 (Proc.wp_mono hreset ?_)
  rintro outcome p m ⟨rfl, h⟩
  refine (Proc.thenWp_ok _ _ _ _ _).2 ((Proc.wp_modify _ _ _ _).2 ?_)
  exact h

/-- A mode request leaves the memo. -/
theorem setOpMode_remembers (target : OpMode) :
    Proc.Keeps porMonitor Remembers (setOpMode target) :=
  setOpMode_keeps moves_remembers.toModes (opKeeps_remembers trivial) fun _ _ _ =>
    opKeeps_remembers (show Regs.sysCtrl ≠ Regs.bcOp2 by decide)

omit [LoopFuel] in
/-- A write of another register than the reset register leaves the memo. -/
theorem write_remembers {addr : RegAddr} {value : Byte} (haddr : addr ≠ Regs.bcOp2) :
    OpKeeps porMonitor Remembers (.write addr value) :=
  opKeeps_remembers haddr

/-- The fault-register updates leave the memo. -/
theorem faults_remembers : FaultRules porMonitor Remembers :=
  FaultRules.of_write moves_remembers.toSteady fun _ => write_remembers (by decide)

/-- The current taper leaves the memo. -/
theorem taper_remembers : TaperRules porMonitor Remembers where
  vinPair := opKeeps_remembers trivial
  taper _ _ _ _ _ _ :=
    writeIinLimit_keeps moves_remembers.toSteady fun _ _ _ => write_remembers (by decide)

/-- The recovery leaves the memo right: it writes it before the reset it sends. -/
theorem recoverConfigured_remembers : Proc.Keeps porMonitor Remembers recoverConfigured := by
  have c : Modes porMonitor Remembers := moves_remembers.toModes
  refine recoverConfigured_keeps c taper_remembers (configure_keeps c ?_)
    (recoverClean_keeps c taper_remembers (fun _ => write_remembers (by decide))
      (setOpMode_remembers .bypass))
  exact
    { toFaultRules := faults_remembers
      reverse := fun _ => update_keeps c.toSteady (by decide) fun _ => write_remembers (by decide)
      adc := fun _ => write_remembers (by decide)
      limit := fun _ _ _ _ _ _ => write_remembers (by decide)
      began := opKeeps_remembers trivial
      ended := opKeeps_remembers trivial
      standby := setOpMode_remembers .standby }

/-- The recovery resets the chip only when a reset is due, and remembers its input. -/
theorem recover5vBypass_remembers : Proc.Keeps porMonitor Remembers recover5vBypass := by
  refine ⟨fun p m h => (Proc.wp_bind _ _ _ _ _).2 ((Proc.wp_unwrapOr_bind _ _ _ _ _ _).2 ?_)⟩
  refine Proc.wp_mono (readAdc_vin_por h) ?_
  rintro outcome p m ⟨value, rfl, hsampled⟩
  refine (Proc.wp_pure _ _ _ _).2 ((Proc.thenWp_ok _ _ _ _ _).2 ?_)
  refine (Proc.wp_bind _ _ _ _ _).2 (Proc.wp_mono (checkPorBudget_due hsampled) ?_)
  rintro outcome p m ⟨⟨h, hvin⟩, hdue⟩
  cases outcome with
  | error err => exact h
  | ok _ =>
      -- the memo moves to the sample before the reset, as the budget asked
      have hpending : Pending { p with porVinUv := some value.toNat } m := by
        refine ⟨hdue rfl, ?_⟩
        show some value.toNat = some (m.vin.getD 0).toNat
        rw [hvin]
        rfl
      refine (Proc.wp_modify_bind _ _ _ _ _).2 ((Proc.wp_discard_bind _ _ softReset _ _).2 ?_)
      refine Proc.wp_mono (softReset_por hpending) fun _ p m h => ?_
      refine (Proc.wp_modify_bind _ _ _ _ _).2 ((Proc.wp_perform_bind _ _ _ _ _).2 ?_)
      refine ⟨trivial, fun r _ => ?_⟩
      exact recoverConfigured_remembers.run _ _ h

/-- The steps of a charge start leave the memo right. -/
theorem charge_remembers : ChargeRules porMonitor Remembers where
  toTaperRules := taper_remembers
  toFaultRules := faults_remembers
  reverse _ :=
    update_keeps moves_remembers.toSteady (by decide) fun _ => write_remembers (by decide)
  standby := setOpMode_remembers .standby
  switching := setOpMode_remembers .switching
  enableBypass := enableBypass_keeps moves_remembers.toModes (opKeeps_remembers trivial)
    (setOpMode_remembers .bypass)
  recover := recover5vBypass_remembers

/-- A charge start keeps the memo true and resets the chip only when a reset is due. -/
theorem setCharging_por : Proc.Keeps porMonitor Remembers (setCharging true) :=
  (charge_remembers.reverse _).bind fun _ =>
    chargeFromSamples_keeps moves_remembers charge_remembers

/-- The two rules of the reset, in every run of charge starts and stops from any session. On
every bus, a reset is followed by the sleep before the next transfer. Charge starts without
a stop between them reset the chip only when that is due, for as long as the bus answers as
`PorState.Heard` says. -/
theorem reset_discipline {pump : Pump} {log : List (Entry BusEffect Pump Bool)}
    (h : Session setCharging pump log) :
    delayMonitor.Meets false (exchanges log) ∧
      ((∀ entry ∈ log, entry.op = true) → porMonitor.Meets PorState.start (exchanges log)) := by
  refine ⟨Session.meets setCharging_delay h false rfl, fun hstarts => ?_⟩
  have hremembers : Remembers pump PorState.start := fun input hinput => nomatch hinput
  refine Session.meets_of_mem (M := porMonitor) h (fun entry hmem => ?_) _ hremembers
  rw [hstarts entry hmem]
  exact setCharging_por

end

/-- The log of charge starts and stops against an environment, from a configured session. -/
def chargeLog {H : Type} (env : H → (o : BusOp) → BusEffect.Resp o × H) (h : H)
    (calls : List Bool) : List (Entry BusEffect Pump Bool) :=
  Session.execute env (@setCharging ⟨0⟩) h Pump.configuredDefault calls

/-- A computed list of charge calls is a session. -/
theorem session_chargeLog {H : Type} (env : H → (o : BusOp) → BusEffect.Resp o × H) (h : H)
    (calls : List Bool) :
    Session (@setCharging ⟨0⟩) Pump.configuredDefault (chargeLog env h calls) :=
  Session.session_execute (E := BusEffect) env (@setCharging ⟨0⟩) calls h Pump.configuredDefault

/-- Two starts on it: the first resets the chip and the second does not. -/
theorem reset_discipline_refusing :
    delayMonitor.Meets false (exchanges (chargeLog Chip.answer Chip.refusing [true, true])) ∧
      porMonitor.Meets PorState.start
        (exchanges (chargeLog Chip.answer Chip.refusing [true, true])) := by
  have hstarts : ∀ entry ∈ chargeLog Chip.answer Chip.refusing [true, true],
      entry.op = true := by
    decide +kernel
  obtain ⟨hdelay, hpor⟩ := @reset_discipline ⟨0⟩ _ _
    (session_chargeLog Chip.answer Chip.refusing [true, true])
  exact ⟨hdelay, hpor hstarts⟩

/-! ### A sample that is lost -/

instance (m : PorState) : Decidable m.ResetDue :=
  match h : m.por with
  | none => isTrue (by rw [PorState.ResetDue, h]; trivial)
  | some prev =>
      decidable_of_iff (max m.input prev - min m.input prev > porVinToleranceUv ∨
        m.fault1 &&& Regs.fault1VfaultsMask ≠ 0) (by rw [PorState.ResetDue, h])

instance decidableRequireReset : ∀ (m : PorState) (o : BusOp), Decidable (resetWatch.require m o)
  | m, .write addr value =>
      inferInstanceAs (Decidable (isSoftReset addr value = true → m.ResetDue))
  | _, .read _ | _, .readPair _ | _, .reset | _, .postResetDelay | _, .mark _ => isTrue trivial

instance (m : PorState) (t : List (Event BusEffect)) : Decidable (resetWatch.Meets m t) :=
  @Machine.decidableMeets _ resetWatch decidableRequireReset (fun _ _ _ => isTrue trivial) m t

/-- A chip whose `Vin` sample of number `lost` fails on the bus. -/
def Chip.losing (lost : Nat) :
    Chip × Nat → (o : BusOp) → BusEffect.Resp o × (Chip × Nat)
  | (chip, seen), .readPair addr =>
      if addr = AdcChannel.vin.register then
        if seen = lost then
          (.error { kind := .protocol, code := 0, detail := "injected read fault" },
            (chip, seen + 1))
        else ((chip.answer (.readPair addr)).1, (chip, seen + 1))
      else ((chip.answer (.readPair addr)).1, (chip, seen))
  | (chip, seen), o => ((chip.answer o).1, ((chip.answer o).2, seen))

/-- The two starts again, with the sample of the second budget check lost: `Vin` is 5 V in
every sample and no fault is latched, and the chip is reset twice. -/
theorem not_reset_discipline : ¬∀ log : List (Entry BusEffect Pump Bool),
    Session (@setCharging ⟨0⟩) Pump.configuredDefault log → (∀ entry ∈ log, entry.op = true) →
    resetWatch.Meets PorState.start (exchanges log) := by
  intro hall
  have hstarts : ∀ entry ∈ chargeLog (Chip.losing 6) (Chip.refusing, 0) [true, true],
      entry.op = true := by
    decide +kernel
  have hmeets := hall _ (session_chargeLog (Chip.losing 6) (Chip.refusing, 0) [true, true]) hstarts
  revert hmeets
  decide +kernel

end Ln8000
