import NabuCharger.Kmdf.Adapter
import NabuCharger.Kmdf.Tick

/-!
# `Proofs.WorkingTransfer`: a working transfer is left alone

Between the protection step and the watchdog, a tick corrects the bus (`walkWindow`) and
decides the mode (`decideMode`). Both work on the same decision, `Context.decide`. While the
pump carries real power in 2:1, neither may take the transfer down.

The correction runs for a working transfer only when the bus is below the floor of its band.
There it is below the top and the trim ceiling as well, which is where the bound on the cell
comes from: at 5.115 V the floor is 10.43 V, and the ceiling is 10.5 V. So no step goes down
(`nudge_stepsUp`), and the pump itself is not spoken to (`walkWindow_working`).

From 6.0 V on, 1:1 is out of the question, and a bus that admits no mode does not stop a
transfer. The mode decision then reads the clock at most (`decideMode_working`).
-/

set_option autoImplicit false

namespace Kmdf

open Effectful Ln8000

/-! ### What a correction may do -/

/-- The write sends one step up and none down. -/
def IncPulse (addr : PmicAddr) (value : Byte) : Prop :=
  addr = Pmic.cmdHvdcp2 ∧ value &&& Pmic.stepBits = Pmic.bitSingleInc

/-- A write on the PMIC bus is a step up, and only where `below` holds. -/
def SpmiOp.StepsUp (below : Prop) : SpmiOp → Prop
  | .superuserWrite addr value => below ∧ IncPulse addr value
  | .usbinTransact addr (some value) _ => below ∧ IncPulse addr value
  | _ => True

/-- The correction of a working transfer: steps up, where `below` holds, and the clock. The
pump is left alone. -/
def Correction (below : Prop) : DevEffect.Op → Prop
  | .inl _ => False
  | .inr (.spmi o) => o.StepsUp below
  | .inr o => o = .now

/-- The operation reads the clock. -/
def ReadsClock (o : DevEffect.Op) : Prop := o = .inr .now

/-- The same for the Quick Charge machine, which takes no `Vin` sample for it. -/
def MachineStepsUp (below : Prop) : HvdcpOp → Prop
  | .spmi o => o.StepsUp below
  | .readVin => False

/-- `x` sends steps up only, and only where `below` holds. -/
abbrev StepsUp (below : Prop) {α : Type} (x : HvdcpM α) : Prop :=
  Proc.Keeps (Machine.only HvdcpEffect (MachineStepsUp below)) (fun _ _ => True) x

section
variable {below : Prop}

/-- An operation that sends at most a step up. -/
theorem spmi_stepsUp (o : SpmiOp) (ho : o.StepsUp below) :
    StepsUp below (spmi o : HvdcpM o.Resp) :=
  Proc.Keeps.perform (M := Machine.only HvdcpEffect (MachineStepsUp below))
    (o := HvdcpOp.spmi o) fun _ _ _ => ⟨ho, fun _ _ => trivial⟩

/-- A change of the machine's own state sends nothing. -/
theorem modify_stepsUp (f : HvdcpState → HvdcpState) :
    StepsUp below (Proc.modify f : HvdcpM Unit) :=
  Proc.Keeps.modify fun _ _ _ => trivial

/-- The other path to the PMIC sends what it is given. -/
theorem spmiRwUsbin_stepsUp (addr : PmicAddr) (value : Option Byte) (bigEndian : Bool)
    (h : (SpmiOp.usbinTransact addr value bigEndian).StepsUp below) :
    StepsUp below (spmiRwUsbin addr value bigEndian) := by
  refine (spmi_stepsUp _ h).bind fun answer => ?_
  cases answer with
  | some read => exact Proc.Keeps.pure read
  | none => exact Proc.Keeps.fail _

/-- A read sends nothing. -/
theorem readReg_stepsUp (bus : Bus) (addr : PmicAddr) : StepsUp below (readReg bus addr) := by
  cases bus with
  | superuser =>
      refine (spmi_stepsUp (.superuserRead addr) trivial).bind fun answer => ?_
      cases answer with
      | some read => exact Proc.Keeps.pure read
      | none => exact Proc.Keeps.fail _
  | usbin => exact Proc.Keeps.get.bind fun st => spmiRwUsbin_stepsUp addr none _ trivial

/-- A write of a step up may go out below the band, on either path. -/
theorem writeReg_stepsUp (bus : Bus) {addr : PmicAddr} {value : Byte} (hbelow : below)
    (hpulse : IncPulse addr value) : StepsUp below (writeReg bus addr value) := by
  cases bus with
  | superuser =>
      refine (spmi_stepsUp (.superuserWrite addr value) ⟨hbelow, hpulse⟩).bind fun (ok : Bool) => ?_
      exact Proc.Keeps.ite (fun _ => Proc.Keeps.pure ()) fun _ => Proc.Keeps.fail _
  | usbin =>
      refine Proc.Keeps.get.bind fun st => Proc.Keeps.bind ?_ fun _ => Proc.Keeps.pure ()
      exact spmiRwUsbin_stepsUp addr (some value) _ ⟨hbelow, hpulse⟩

/-- The byte of an INC pulse is a step up, whatever the register held. -/
theorem incPulse_of_current (current : Byte) :
    IncPulse Pmic.cmdHvdcp2
      ((current &&& ~~~(Pmic.bitSingleInc ||| Pmic.bitSingleDec)) ||| Pmic.bitSingleInc) :=
  ⟨rfl, stepByte_and_stepBits current (by decide)⟩

/-- An INC pulse is a read and a step up. -/
theorem pulseInc_stepsUp (hbelow : below) (bus : Bus) : StepsUp below (pulseInc bus) := by
  have hpulse : StepsUp below (pulseCmdBit bus Pmic.bitSingleInc) := by
    refine Proc.Keeps.get.bind fun st => Proc.Keeps.ite (fun _ => Proc.Keeps.pure false) ?_
    intro _
    refine ((readReg_stepsUp bus _).unwrapOr 0).bind fun current => ?_
    refine (writeReg_stepsUp bus hbelow (incPulse_of_current current)).bind fun _ => ?_
    exact Proc.Keeps.pure true
  refine hpulse.bind fun sent => Proc.Keeps.bind ?_ fun _ => spmi_stepsUp (.sleep _) trivial
  exact Proc.Keeps.when fun _ => modify_stepsUp _

/-- The loop of a boost, by induction on the pulses that are left. -/
theorem boostLoop_stepsUp (hbelow : below) (bus : Bus) (stop top : Int) (budget : Nat) :
    ∀ vin inc, StepsUp below (boostLoop bus stop top budget vin inc) := by
  induction budget with
  | zero => exact fun vin inc => Proc.Keeps.pure inc
  | succ budget ih =>
      intro vin inc
      refine Proc.Keeps.ite (fun _ => ?_) fun _ => Proc.Keeps.pure inc
      refine (pulseInc_stepsUp hbelow bus).attempt.bind fun result => ?_
      cases result with
      | error _ => exact Proc.Keeps.pure inc
      | ok _ => exact Proc.Keeps.ite (fun _ => Proc.Keeps.pure _) fun _ => ih _ _

/-- A body that sends at most steps up does so on whichever bus opens first. -/
theorem onFirstBus_stepsUp {α : Type} (usbinId : Option Nat) {body : Bus → HvdcpM α}
    (fallback : α) (hbody : ∀ bus, StepsUp below (body bus)) :
    StepsUp below (onFirstBus usbinId body fallback) := by
  refine (spmi_stepsUp .superuserOpen trivial).bind fun (ok : Bool) => ?_
  refine Proc.Keeps.ite (fun _ => (modify_stepsUp _).bind fun _ => hbody _) fun _ => ?_
  cases usbinId with
  | none => exact Proc.Keeps.pure fallback
  | some id =>
      refine (spmi_stepsUp (.usbinOpen id) trivial).bind fun (ok : Bool) => ?_
      exact Proc.Keeps.ite (fun _ => hbody _) fun _ => Proc.Keeps.pure fallback

/-- Below the floor of the band a correction never goes down. The trim ceiling is above the
floor for every cell up to 5.115 V. -/
theorem nudge_stepsUp (hbelow : below) (usbinId : Option Nat) {vin : Int} {cellVbatUv : Nat}
    (hcell : cellVbatUv ≤ 5115000) (hvin : vin < windowFloorUv cellVbatUv) :
    StepsUp below (nudgeVinIntoWindow usbinId vin cellVbatUv false) := by
  -- below the floor of the window the bus is not above its top, so nothing is trimmed
  have hnotrim : cellVbatUv ≠ 0 → ¬ vin > trimTargetUv cellVbatUv := by
    intro hne
    have htop : windowTopUv cellVbatUv = 2 * cellVbatUv + 400000 := windowTopUv_eq (by omega)
    have hfloor : windowFloorUv cellVbatUv = 2 * cellVbatUv + 200000 :=
      windowFloorUv_eq (by omega)
    rw [trimTargetUv, if_neg hne]
    split
    · simp only [pumpVinTrimUv]
      omega
    · next hceil =>
        have hword : asI32 (windowTopUv cellVbatUv) = (windowTopUv cellVbatUv : Int) := by
          simp only [pumpVinTrimUv] at hceil
          exact asI32_of_lt (by omega)
        omega
  refine Proc.Keeps.get.bind fun st => Proc.Keeps.ite (fun _ => Proc.Keeps.pure 0) ?_
  intro hlive
  have hne : cellVbatUv ≠ 0 := fun hzero => hlive (Or.inr hzero)
  refine Proc.Keeps.ite (fun _ => Proc.Keeps.pure 0) fun _ => ?_
  refine Proc.Keeps.ite (fun htrim => absurd htrim (hnotrim hne)) fun _ => ?_
  refine Proc.Keeps.ite (fun _ => ?_) fun _ => ?_
  · refine Proc.Keeps.ite (fun _ => Proc.Keeps.pure 0) fun _ => ?_
    exact onFirstBus_stepsUp usbinId 0 fun bus => boostLoop_stepsUp hbelow bus _ _ _ _ _
  · exact Proc.Keeps.ite (fun hdead => absurd hdead.1 Bool.false_ne_true) fun _ => Proc.Keeps.pure 0

end

/-! ### The tick -/

/-- The pump is in 2:1, carried real power in the current window, and the cell is at most at
5.115 V. -/
structure WorkingTransfer (s : Held) (obs : Observation) : Prop where
  mode : obs.status.opMode = .switching
  peak : iinUsefulUa < s.maxIinUa
  cell : (s.toContext.decide obs).cellVbatUv ≤ 5115000

/-- The bus is below the floor of the band. -/
def Decision.BelowBand (d : Decision) : Prop :=
  d.obs.sample.vbusUv < windowFloorUv d.cellVbatUv

section
variable {s : Held} {obs : Observation}

/-- A working transfer is seen as one by the decision. -/
theorem WorkingTransfer.transferring (h : WorkingTransfer s obs) :
    (s.toContext.decide obs).transferring = true := by
  show (Decidable.decide (obs.status.opMode = .switching) && transferIsUseful s.maxIinUa) = true
  rw [h.mode, transferIsUseful, decide_eq_true h.peak]
  rfl

/-- A reading of the clock, under a monitor of the operations alone. -/
theorem monotonicMs_bind_wp {σ α : Type} {P : DevEffect.Op → Prop} (hP : P (.inr .now))
    {f : Nat → Proc DevEffect Empty σ α}
    {Q : Except Empty α → σ → (Machine.only DevEffect P).State → Prop} {s : σ}
    {m : (Machine.only DevEffect P).State}
    (hf : ∀ now, (f now).wp (Machine.only DevEffect P) Q s m) :
    (monotonicMs >>= f).wp (Machine.only DevEffect P) Q s m :=
  (Proc.wp_perform_bind s m (E := DevEffect) (Sum.inr HostOp.now) f Q).2
    ⟨hP, fun now _ => hf now⟩

/-- A window with real power in it is no dead one. -/
theorem WorkingTransfer.not_dead (h : WorkingTransfer s obs) :
    (s.toContext.decide obs).dead s.maxIinUa = false := by
  have hpeak : ¬ s.maxIinUa ≤ iinDeadFloorUa := by
    have hmax := h.peak
    simp only [iinUsefulUa] at hmax
    simp only [iinDeadFloorUa]
    omega
  rw [Decision.dead, decide_eq_false hpeak, Bool.and_false]

variable [LoopFuel]

/-- The machine on the PMIC bus, as the driver runs it. -/
theorem nudge_wp {below : Prop} (hbelow : below) (s : Held) {vin : Int} {cellVbatUv : Nat}
    (hcell : cellVbatUv ≤ 5115000) (hvin : vin < windowFloorUv cellVbatUv)
    (m : (Machine.only DevEffect (Correction below)).State) :
    (nudge vin cellVbatUv false).wp (Machine.only DevEffect (Correction below))
      (fun _ _ _ => True) s m := by
  refine (Proc.wp_get_bind s m _ _).2 ?_
  rw [Proc.wp_bind, onHvdcp, Proc.wp_handled]
  -- below the window only pulses up are sent
  have hsteps := (nudge_stepsUp hbelow s.usbinId hcell hvin).run s.hvdcp () trivial
  refine Prog.wp_mono (Prog.wp_handle_of (J := fun _ _ _ => True) ?_ _ hsteps.prog trivial) ?_
  · intro o u _ _ _ ho
    cases o with
    | spmi o => exact ⟨ho, fun _ _ => ⟨trivial, trivial⟩⟩
    | readVin => exact ho.elim
  · intro out m' _
    rw [Proc.thenWp_ok, Proc.wp_pure]
    trivial

/-- The correction of a tick with a working transfer: no word to the pump, steps up only, and
these only below the band. 1:1 is not left for it. -/
theorem walkWindow_working (h : WorkingTransfer s obs)
    (m : (Machine.only DevEffect (Correction (s.toContext.decide obs).BelowBand)).State) :
    (walkWindow (s.toContext.decide obs)).wp
      (Machine.only DevEffect (Correction (s.toContext.decide obs).BelowBand))
      (fun outcome _ _ => outcome = .ok false) s m := by
  have htransferring := h.transferring
  have hdead := h.not_dead
  have hcell := h.cell
  have hmode : (s.toContext.decide obs).obs.status.opMode = .switching := h.mode
  generalize s.toContext.decide obs = d at *
  refine (Proc.wp_get_bind s m _ _).2 (Proc.wp_ite (fun _ => ?_) fun _ => ?_)
  · have hclock : Correction d.BelowBand (.inr .now) := rfl
    refine monotonicMs_bind_wp hclock fun now => ?_
    refine (Proc.wp_modify_bind s m _ _ _).2 ((Proc.wp_get_bind _ m _ _).2 ?_)
    refine Proc.wp_ite (fun hwalk => ?_) fun _ => (Proc.wp_pure _ _ m false).2 rfl
    -- the walk is due while transferring, so the bus has left the band downwards
    have hbelow : d.BelowBand := by
      have hwalk := hwalk.1
      rw [hdead, htransferring, shouldWalkWindow, Bool.not_true, Bool.or_false, Bool.false_or,
        decide_eq_true_eq] at hwalk
      exact hwalk
    -- the band's floor is the window's floor for this cell
    have hvin : d.obs.vbusUv < windowFloorUv d.cellVbatUv := by
      have hlt : d.obs.vbusUv.toNat < windowFloorUv d.cellVbatUv := hbelow
      omega
    refine (Proc.wp_modify_bind _ m _ _ _).2 ?_
    rw [hmode, leaveBypass, if_neg (by decide), Proc.wp_bind, Proc.wp_pure, Proc.thenWp_ok,
      Proc.wp_bind, hdead]
    refine Proc.wp_mono (nudge_wp hbelow _ hcell hvin m) ?_
    rintro (e | sent) s' m' _
    · nomatch e
    · have hkeep : Proc.Keeps (Machine.only DevEffect (Correction d.BelowBand))
          (fun _ _ => True) (Proc.when (decide (sent > 0))
            (Proc.modify fun s => { s with lastChargeAttemptMs := 0 }) : HeldM Unit) :=
        Proc.Keeps.when fun _ => Proc.Keeps.modify fun _ _ _ => trivial
      refine hkeep.wp_bind trivial (fun _ s' m' _ => ?_) fun e => nomatch e
      exact (Proc.wp_pure _ s' m' false).2 rfl
  · exact (Proc.wp_modify_bind s m _ _ _).2 ((Proc.wp_pure _ _ m false).2 rfl)

omit [LoopFuel] in
/-- From 6.0 V on, a working transfer is in the mode the bus admits, or the bus admits none. -/
theorem desiredMode_elevated {cellVbatUv : Nat} (hvin : (elevatedMinVinUv : Int) ≤ obs.vbusUv) :
    desiredMode obs cellVbatUv = some .switching ∨ desiredMode obs cellVbatUv = none := by
  rw [desiredMode]
  split
  · exact Or.inl rfl
  · cases hmode : chargeMode obs.vbusUv cellVbatUv with
    | none => exact Or.inr rfl
    | some mode =>
        rcases chargeMode_conducting hmode with rfl | rfl
        · exact Or.inl rfl
        · have hfive := ((chargeMode_eq_bypass_iff _ _).1 hmode).2
          omega

/-- The mode decision of a tick with a working transfer on an elevated bus: neither a start
nor a stop, whatever the protection step did. -/
theorem decideMode_working (h : WorkingTransfer s obs)
    (hvin : (elevatedMinVinUv : Int) ≤ obs.vbusUv) (changed : Bool) (s' : Held)
    (m : (Machine.only DevEffect ReadsClock).State) :
    (decideMode (s.toContext.decide obs) changed false).wp (Machine.only DevEffect ReadsClock)
      (fun _ _ _ => True) s' m := by
  have htransferring := h.transferring
  have hdesired := @desiredMode_elevated obs (s.toContext.decide obs).cellVbatUv hvin
  have hmode : (s.toContext.decide obs).obs.status.opMode = .switching := h.mode
  change (s.toContext.decide obs).desired = _ ∨ (s.toContext.decide obs).desired = _ at hdesired
  generalize s.toContext.decide obs = d at *
  -- 2:1 is wanted and running, or no mode is, and a running transfer is left alone
  rcases hdesired with hdesired | hdesired
  · have hok : modeOk d.desired d.obs.status.opMode = true := by rw [hdesired, hmode]; rfl
    rw [decideMode, if_pos ⟨hok, rfl⟩]
    have hclock : ReadsClock (.inr .now) := rfl
    exact monotonicMs_bind_wp hclock fun now => (Proc.wp_modify s' m _ _).2 trivial
  · have hok : modeOk d.desired d.obs.status.opMode = false := by rw [hdesired, hmode]; rfl
    have hstop : stopRunningCharge d.desired.isSome d.transferring = false := by
      rw [htransferring, stopRunningCharge, Bool.not_true, Bool.and_false]
    rw [decideMode, if_neg (by rw [hok]; exact fun h => nomatch h.1),
      if_neg (by rw [hdesired]; exact fun h => nomatch h.1), hstop, Bool.and_false]
    exact (Proc.wp_pure _ s' m ()).2 trivial

/-- What a tick that observed `obs` in the state `s` does to a working transfer: its correction
only ever steps up, below the band, and on an elevated bus its mode decision neither starts nor
stops a charge. -/
structure LeftAlone (s : Held) (obs : Observation) : Prop where
  correction : ∀ t q, Prog.Steps (walkWindow (s.toContext.decide obs) s) t q →
    ∀ e ∈ t, Correction (s.toContext.decide obs).BelowBand e.op
  decision : (elevatedMinVinUv : Int) ≤ obs.vbusUv → ∀ changed left s' t,
    Prog.Yields (walkWindow (s.toContext.decide obs) s) t (.ok left, s') →
    ∀ u q, Prog.Steps (decideMode (s.toContext.decide obs) changed left s') u q →
      ∀ e ∈ u, ReadsClock e.op

/-- Every tick, in every state of the driver, leaves a working transfer alone. -/
theorem working_transfer_left_alone (s : Held) (obs : Observation) (h : WorkingTransfer s obs) :
    LeftAlone s obs where
  correction _ _ hsteps := hsteps.forall_op (walkWindow_working h ()).prog
  decision := by
    intro hvin changed left s' t hyields u q hsteps
    have hleft : (.ok left : Except Empty Bool) = .ok false :=
      Prog.Yields.post hyields (walkWindow_working h ()).prog (Machine.allowed_only t ())
    rw [Except.ok.injEq] at hleft
    subst hleft
    exact hsteps.forall_op (decideMode_working h hvin changed s' ()).prog

end

/-- A 2:1 transfer of 2.2 A that has dragged a cell of 3.9 V below its band. -/
def transferHeld : Held :=
  { Context.new with
    maxIinUa := 2200000, fgVbattUv := 3900000, pump := Pump.probed PumpConfig.default }

/-- A status in 2:1 without faults. -/
def transferStatus : Status where
  sysSts := 0x04
  opMode := .switching
  safetySts := 0
  fault1Sts := 0
  fault2Sts := 0
  ldoSts := 0

/-- A bus that has sagged below the band over a 3.95 V cell. -/
def saggedObs : Observation where
  status := transferStatus
  tsMs := 60000
  vbat := .ok 3950000
  vbus := .ok 7900000
  iin := .ok 2200000
  temp := .ok 300

/-- The sagged tick touches nothing but the steps up. -/
theorem working_transfer_left_alone_sagged : @LeftAlone ⟨0⟩ transferHeld saggedObs :=
  @working_transfer_left_alone ⟨0⟩ transferHeld saggedObs ⟨rfl, by decide, by decide⟩

/-- Here the bus admits no mode at all, and the bus is corrected. -/
example : (transferHeld.toContext.decide saggedObs).desired = none ∧
    (transferHeld.toContext.decide saggedObs).BelowBand := by
  refine ⟨by decide, ?_⟩
  show (7900000 : Nat) < windowFloorUv 3900000
  decide

end Kmdf
