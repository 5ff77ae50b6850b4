import NabuCharger.Logic.Session
import NabuCharger.Ln8000.Chip
import NabuCharger.Ln8000.PumpRules

/-!
# `Proofs.BypassGate`: 1:1 is entered only from a 5 V sample

`EN_1TO1` connects the input to the battery, so the pump may set it only inside the bypass
window. The property is about the bus: whenever a write of `SYS_CTRL` sets the bit and the
value read just before had it clear, the last `Vin` sample of the operation lies in
[4.2 V, 6.0 V).

`gateMonitor` watches for it. Its state is the last value read from `SYS_CTRL` and the last
`Vin` sample. A mode write other than 1:1 clears the bit, and the reverse-current step
leaves it as it was read, so both meet the obligation from any state (`setOpMode_gate`,
`reverse_gate`). A 1:1 request meets it from `InWindow`, the knowledge that the last sample
is in the window. `readAdc_vin_gate` provides that knowledge, and between the sample and the
request no step samples `Vin` again. `session_gate` then covers every sequence of
operations.
-/

set_option autoImplicit false

namespace Ln8000

open Effectful

/-! ### The operations of a session -/

/-- Operations of an open pump, the diagnostic register write excluded. -/
inductive PumpOp
  | configure
  | enableSwitching
  | enableBypass
  | enableSwitchingOrBypass
  | setCharging (on : Bool)
  | standby
  | softReset
  | readAdc (channel : AdcChannel)
  | status
  | close
  | setIinLimit (iinUa : Nat)
  | setVbatFloat (vbatUv : Nat)
  | setAdcMode (mode : AdcMode)
  | clearLatchedFaults
  | serviceWatchdog
  | readRegister (addr : RegAddr)
  deriving DecidableEq, Repr

/-- The program of an operation. The caller may drop its result. -/
def PumpOp.run [LoopFuel] : PumpOp → PumpM Unit
  | .configure => Proc.discard Ln8000.configure
  | .enableSwitching => Proc.discard Ln8000.enableSwitching
  | .enableBypass => Proc.discard Ln8000.enableBypass
  | .enableSwitchingOrBypass => Proc.discard Ln8000.enableSwitchingOrBypass
  | .setCharging on => Proc.discard (Ln8000.setCharging on)
  | .standby => Proc.discard Ln8000.standby
  | .softReset => Proc.discard Ln8000.softReset
  | .readAdc channel => Proc.discard (Ln8000.readAdc channel)
  | .status => Proc.discard Ln8000.status
  | .close => Proc.discard Ln8000.close
  | .setIinLimit iinUa => Proc.discard (Ln8000.setIinLimit iinUa)
  | .setVbatFloat vbatUv => Proc.discard (Ln8000.setVbatFloat vbatUv)
  | .setAdcMode mode => Proc.discard (Ln8000.setAdcMode mode)
  | .clearLatchedFaults => Proc.discard Ln8000.clearLatchedFaults
  | .serviceWatchdog => Proc.discard Ln8000.serviceWatchdog
  | .readRegister addr => Proc.discard (Ln8000.readRegister addr)

/-! ### The monitor -/

/-- What the gate property remembers of an operation. -/
structure GateState where
  /-- The value of `SYS_CTRL` read last and not yet written back. -/
  sysRead : Option Byte
  /-- The last `Vin` sample. -/
  vin : Option Int

/-- The bypass window. -/
def InWindow (m : GateState) : Prop :=
  ∃ vin : Int, m.vin = some vin ∧ 4200000 ≤ vin ∧ vin < 6000000

/-- The value has `EN_1TO1` set. -/
def en1to1Set (value : Byte) : Prop := value &&& Regs.sysCtrlEn1to1 ≠ 0

/-- The monitor after an exchange. -/
def GateState.next (m : GateState) : (o : BusOp) → BusEffect.Resp o → GateState
  | .read addr, .ok value => if addr = Regs.sysCtrl then { m with sysRead := some value } else m
  | .write addr _, .ok _ => if addr = Regs.sysCtrl then { m with sysRead := none } else m
  | .readPair addr, .ok raw =>
      if addr = AdcChannel.vin.register then { m with vin := some (AdcChannel.vin.decode raw) }
      else m
  | _, _ => m

/-- Every answer is allowed. A write of `SYS_CTRL` with `EN_1TO1` set must keep a bit that
was read as set just before, or follow a `Vin` sample in the window. -/
def gateMonitor : Machine BusEffect where
  State := GateState
  allow _ _ _ := True
  require m
    | .write addr value => addr = Regs.sysCtrl → en1to1Set value →
        (∃ current, m.sysRead = some current ∧ en1to1Set current) ∨ InWindow m
    | _ => True
  next := GateState.next

/-- The operation starts without a sample of its own. -/
def GateState.start : GateState := { sysRead := none, vin := none }

/-- The exchanges of one operation respect the gate. -/
def GateSafe (t : List (Event BusEffect)) : Prop := gateMonitor.Meets GateState.start t

/-! ### What the steps do to the monitor -/

/-- Only a pair read at the `Vin` register changes the sample. -/
theorem GateState.next_vin {o : BusOp} (h : o ≠ .readPair AdcChannel.vin.register)
    (m : GateState) (r : BusEffect.Resp o) : (m.next o r).vin = m.vin := by
  cases o with
  | read addr =>
      cases r with
      | ok value => simp only [next]; split <;> rfl
      | error err => rfl
  | write addr value =>
      cases r with
      | ok _ => simp only [next]; split <;> rfl
      | error err => rfl
  | readPair addr =>
      have haddr : addr ≠ AdcChannel.vin.register := fun heq => h (heq ▸ rfl)
      cases r <;> simp only [next, if_neg haddr]
  | reset => rfl
  | postResetDelay => rfl
  | mark mk => rfl

/-- An operation that is no write of `SYS_CTRL` and no `Vin` pair keeps whatever is known of
the sample. -/
theorem opKeeps_gate (P : Option Int → Prop) {o : BusOp}
    (hpair : o ≠ .readPair AdcChannel.vin.register)
    (hwrite : ∀ value, o ≠ .write Regs.sysCtrl value) :
    OpKeeps gateMonitor (fun _ m => P m.vin) o := by
  -- neither samples the input nor writes the control register
  intro p m h
  refine ⟨?_, fun r _ => ?_⟩
  · cases o with
    | write addr value => exact fun haddr => absurd (haddr ▸ rfl) (hwrite value)
    | read addr => trivial
    | readPair addr => trivial
    | reset => trivial
    | postResetDelay => trivial
    | mark mk => trivial
  · show P (GateState.next m o r).vin
    rw [GateState.next_vin hpair m r]
    exact h

/-- The gate looks at the input sample only, so its invariants are calm. -/
theorem calm_gate (P : Option Int → Prop) : Calm gateMonitor fun _ m => P m.vin where
  session _ _ _ _ h := h
  reset := opKeeps_gate P nofun nofun
  read _ _ := opKeeps_gate P nofun nofun
  safety := opKeeps_gate P nofun nofun
  delay := opKeeps_gate P nofun nofun
  write addr haddr value := by
    refine opKeeps_gate P nofun fun other heq => ?_
    have hsys : addr = Regs.sysCtrl := by injection heq
    rw [hsys] at haddr
    revert haddr
    decide
  pair channel hchannel := by
    refine opKeeps_gate P (fun heq => hchannel ?_) nofun
    injection heq with hreg
    exact AdcChannel.register_injective hreg

/-- Nothing is known of the sample. -/
abbrev NoSample : Pump → GateState → Prop := fun _ _ => True

/-- What holds without a sample is calm. -/
theorem calm_noSample : Calm gateMonitor NoSample := calm_gate fun _ => True

/-- That the sample is in the window is calm. -/
theorem calm_inWindow : Calm gateMonitor fun _ m => InWindow m :=
  calm_gate fun vin => ∃ v : Int, vin = some v ∧ 4200000 ≤ v ∧ v < 6000000

/-- A sample may be taken at any time. -/
theorem vinPair_noSample : OpKeeps gateMonitor NoSample (.readPair AdcChannel.vin.register) :=
  fun _ _ _ => ⟨trivial, fun _ _ => trivial⟩

/-- A mark is not a sample. -/
theorem mark_noSample (mk : Mark) : OpKeeps gateMonitor NoSample (.mark mk) :=
  opKeeps_gate (fun _ => True) nofun nofun

/-- The fault masks are not a sample. -/
theorem fault_gate (P : Option Int → Prop) (value : Byte) :
    OpKeeps gateMonitor (fun _ m => P m.vin) (.write Regs.faultCtrl value) :=
  opKeeps_gate P nofun fun other heq => by simp [Regs.faultCtrl, Regs.sysCtrl] at heq

/-- The window is what `charge_mode` calls 1:1. -/
theorem inWindow_of_chargeMode {m : GateState} {vin : Int} {vbat : Nat}
    (hvin : m.vin = some vin) (hmode : chargeMode vin vbat = some .bypass) : InWindow m :=
  ⟨vin, hvin, (chargeMode_eq_bypass_iff vin vbat).1 hmode⟩

/-- A value with the mode bits of standby or 2:1 has `EN_1TO1` clear. -/
theorem not_en1to1Set_merge {target : OpMode} {bits : Byte} (htarget : target ≠ .bypass)
    (hbits : target.sysCtrlBits = .ok bits) (current : Byte) :
    ¬en1to1Set (mergeBits current OpMode.sysCtrlMask bits) := by
  intro hset
  refine hset ?_
  rw [mergeBits_and_of_subset (by decide : Regs.sysCtrlEn1to1 &&& OpMode.sysCtrlMask = _)]
  cases target with
  | standby => rw [← Except.ok.inj hbits]; decide
  | switching => rw [← Except.ok.inj hbits]; decide
  | bypass => exact absurd rfl htarget
  | unknown => cases hbits

variable [LoopFuel]

/-! ### Mode writes -/

/-- A request of standby or 2:1 meets the gate from any state. -/
theorem setOpMode_gate {target : OpMode} (htarget : target ≠ .bypass) :
    Proc.Keeps gateMonitor NoSample (setOpMode target) := by
  refine setOpMode_keeps calm_noSample.toModes (mark_noSample _) fun current bits hbits => ?_
  intro p m _
  refine ⟨fun _ hset => ?_, fun _ _ => trivial⟩
  exact absurd hset (not_en1to1Set_merge htarget hbits current)

/-- A request of 1:1 meets the gate when the last sample is in the window. -/
theorem setOpMode_bypass_gate :
    Proc.Keeps gateMonitor (fun _ m => InWindow m) (setOpMode .bypass) := by
  refine setOpMode_keeps calm_inWindow.toModes ?_ fun current bits _ => ?_
  · exact opKeeps_gate (fun vin => ∃ v : Int, vin = some v ∧ 4200000 ≤ v ∧ v < 6000000)
      nofun nofun
  · intro p m h
    refine ⟨fun _ _ => Or.inr h, fun r _ => ?_⟩
    obtain ⟨vin, heq, hwindow⟩ := h
    exact ⟨vin, (GateState.next_vin (by simp) m r).trans heq, hwindow⟩

/-- The reverse-current step leaves `EN_1TO1` as it was read. -/
theorem reverse_gate (field : String) :
    Proc.Keeps gateMonitor NoSample (update Regs.sysCtrl (bit 2) 0 field) := by
  refine update_keeps_of_read calm_noSample.toSteady
    (S := fun current m => m.sysRead = some current) (by decide) ?_ ?_ ?_
  · intro p m current _ _
    rfl
  · intro current m r h
    exact h
  · intro current p m _ h
    refine ⟨fun _ hset => Or.inl ⟨current, h, ?_⟩, fun r _ => ⟨trivial, ?_⟩⟩
    · -- the mode bits are outside the mask of this write
      have hsame := mergeBits_and_of_disjoint
        (by decide : Regs.sysCtrlEn1to1 &&& bit 2 = 0) current 0
      rw [en1to1Set, ← hsame]
      exact hset
    · rintro err rfl
      exact h

/-- The close requests standby, which the gate lets through. -/
theorem close_gate : Proc.Keeps gateMonitor NoSample
    (update Regs.sysCtrl OpMode.sysCtrlMask Regs.sysCtrlStandbyEn "close_standby") := by
  refine update_keeps calm_noSample.toSteady (by decide) fun current p m _ => ?_
  refine ⟨fun _ hset => ?_, fun _ _ => trivial⟩
  exact absurd hset (not_en1to1Set_merge (by decide : OpMode.standby ≠ .bypass) rfl current)

/-! ### Entering 1:1 -/

/-- A successful `Vin` sample is the one the monitor remembers. -/
theorem readAdc_vin_gate (p : Pump) (m : GateState) :
    (readAdc .vin).wp gateMonitor
      (fun outcome _ m' => ∀ value, outcome = .ok value → m'.vin = some value) p m := by
  refine Proc.wp_mono (readAdc_wp calm_noSample.toSettled (S := fun value m => m.vin = some value)
    vinPair_noSample ?_ ?_ trivial) fun _ _ _ h => h.2
  · intro p m raw _ _
    rfl
  · intro value
    have hcalm := calm_gate fun vin => True ∧ vin = some value
    exact hcalm.toSettled

/-- The way into 1:1 samples the input and looks at it before its request. -/
theorem enableBypass_gate : Proc.Keeps gateMonitor NoSample enableBypass := by
  refine ⟨fun p m _ => (Proc.wp_bind p m _ _ _).2 (Proc.wp_mono (readAdc_vin_gate p m) ?_)⟩
  intro outcome p m hsample
  cases outcome with
  | error err => trivial
  | ok vin =>
      -- the sample stays the last one while the battery is sampled
      have hcalm := calm_gate fun sample => sample = some vin
      refine (readAdcUv_keeps hcalm.toSettled (hcalm.pair .vbat (by decide))).wp_bind
        (hsample vin rfl)
        ?_ fun _ _ _ _ => trivial
      intro vbat p m hvin
      split
      · exact (Proc.Keeps.fail _).run p m trivial
      next hallowed =>
        simp only [bypassAllowedByVin, Bool.not_eq_true', decide_eq_false_iff_not, not_not]
          at hallowed
        refine setOpMode_bypass_gate.wp_bind (inWindow_of_chargeMode hvin hallowed) ?_
          fun _ _ _ _ => trivial
        exact fun _ p m _ =>
          (confirmMode_keeps calm_noSample.toModes _ fun _ _ h => h).run p m trivial

/-- The second and third stage request 1:1 on the sample that was judged before them. -/
theorem recoverClean_gate (taper : TaperRules gateMonitor NoSample) (p : Pump) (m : GateState)
    (h : InWindow m) : recoverClean.wp gateMonitor (fun _ _ _ => True) p m := by
  refine setOpMode_bypass_gate.wp_bind h ?_ fun _ _ _ _ => trivial
  intro _ p m h
  refine (settleAndReadStatus_keeps calm_inWindow.toModes).wp_bind h ?_ fun _ _ _ _ => trivial
  intro st p m h
  split
  · refine (calm_noSample.modify (by simp [Pump.Continues])).wp_bind trivial ?_
      fun _ _ _ _ => trivial
    intro _ p m _
    exact ((prepareNearFloatForCharge_keeps calm_noSample.toSettled taper false
      fun h => by cases h).bind
      fun _ => Proc.Keeps.pure _).run p m trivial
  · -- the masked stage requests 1:1 again, still in the window
    have hmasked := recoverMasked_keeps calm_inWindow.toModes
      (fun value =>
        fault_gate (fun vin => ∃ v : Int, vin = some v ∧ 4200000 ≤ v ∧ v < 6000000) value)
      setOpMode_bypass_gate
    exact Proc.wp_mono (hmasked.run p m h) fun _ _ _ _ => trivial

/-- A setpoint is not a request. -/
theorem writeIinLimit_gate (iinUa : Nat) (field : String) :
    Proc.Keeps gateMonitor NoSample (writeIinLimit iinUa field) :=
  writeIinLimit_keeps calm_noSample.toSteady fun code current _ =>
    opKeeps_gate (fun _ => True) nofun fun value heq => by simp [Regs.iinCtrl, Regs.sysCtrl] at heq

/-- Neither are the steps of the fault masks. -/
theorem faults_gate : FaultRules gateMonitor NoSample :=
  FaultRules.of_write calm_noSample.toSteady (fault_gate fun _ => True)

/-- Neither is the taper. -/
theorem taper_gate : TaperRules gateMonitor NoSample where
  vinPair := vinPair_noSample
  taper _ _ _ _ _ _ := writeIinLimit_gate _ _

/-- Neither is a configuration. -/
theorem configure_gate : Proc.Keeps gateMonitor NoSample configure :=
  configure_keeps calm_noSample.toModes
    { toFaultRules := faults_gate
      began := mark_noSample _
      ended := mark_noSample _
      standby := setOpMode_gate nofun
      reverse := reverse_gate
      adc := fun value => opKeeps_gate (fun _ => True) nofun
        fun other heq => by simp [Regs.adcCtrl, Regs.sysCtrl] at heq
      limit := fun p m code current _ _ => opKeeps_gate (fun _ => True) nofun
        fun other heq => by simp [Regs.iinCtrl, Regs.sysCtrl] at heq }

/-- Neither is a reset. -/
theorem softReset_gate : Proc.Keeps gateMonitor NoSample softReset :=
  softReset_keeps calm_noSample.toModes fun current => opKeeps_gate (fun _ => True) nofun
    fun other heq => by simp [Regs.bcOp2, Regs.sysCtrl] at heq

/-- After the reset, the recovery samples `Vin` anew. A failed sample counts as zero volts,
which admits no mode. -/
theorem recoverConfigured_gate : Proc.Keeps gateMonitor NoSample recoverConfigured := by
  refine configure_gate.discard.bind fun _ => ⟨fun p m _ => ?_⟩
  rw [Proc.wp_bind, Proc.wp_unwrapOr]
  refine Proc.wp_mono (readAdc_vin_gate p m) ?_
  intro outcome p m hsample
  rw [Proc.thenWp_ok]
  -- a failed sample counts as no input, which the 1:1 window excludes
  have hknown : outcome.toOption.getD 0 = 0 ∨ m.vin = some (outcome.toOption.getD 0) := by
    cases outcome with
    | ok vin => exact Or.inr (hsample vin rfl)
    | error err => exact Or.inl rfl
  generalize outcome.toOption.getD 0 = vin at hknown ⊢
  have hcalm := calm_gate fun sample => vin = 0 ∨ sample = some vin
  refine (readAdcUv_keeps hcalm.toSettled (hcalm.pair .vbat (by decide))).wp_bind hknown ?_
    fun _ _ _ _ => trivial
  intro vbat p m hknown
  split
  · exact (Proc.Keeps.fail _).run p m trivial
  next hmode =>
    have hbypass : chargeMode vin vbat = some .bypass := not_not.1 hmode
    refine recoverClean_gate taper_gate p m ?_
    -- so the sample was one the monitor has seen
    rcases hknown with rfl | hvin
    · have hwindow := (chargeMode_eq_bypass_iff 0 vbat).1 hbypass
      simp [chargeMinVinUv] at hwindow
    · exact inWindow_of_chargeMode hvin hbypass

/-- Every way of a charge start into a mode passes the gate. -/
theorem charge_gate : ChargeRules gateMonitor NoSample where
  toTaperRules := taper_gate
  toFaultRules := faults_gate
  reverse := reverse_gate
  standby := setOpMode_gate nofun
  switching := setOpMode_gate nofun
  enableBypass := enableBypass_gate
  recover := recover5vBypass_keeps calm_noSample vinPair_noSample
    (resetAndRecover_keeps calm_noSample.toModes softReset_gate recoverConfigured_gate)

/-! ### Every operation, every session -/

/-- Every operation respects the gate, from any session and any monitor state. -/
theorem pumpOp_gate (op : PumpOp) : Proc.Keeps gateMonitor NoSample op.run := by
  have hcalm := calm_noSample
  -- one case per operation; only the ones that request 1:1 sample first
  cases op with
  | configure => exact configure_gate.discard
  | enableSwitching =>
      exact (enableSwitching_keeps hcalm.toMoves charge_gate.switching).discard
  | enableBypass => exact enableBypass_gate.discard
  | enableSwitchingOrBypass =>
      exact (enableSwitchingOrBypass_keeps hcalm.toMoves charge_gate).discard
  | setCharging on => exact (setCharging_keeps hcalm charge_gate on).discard
  | standby => exact charge_gate.standby.discard
  | softReset => exact softReset_gate.discard
  | readAdc channel =>
      refine (readAdc_keeps hcalm.toSettled ?_).discard
      exact fun _ _ _ => ⟨trivial, fun _ _ => trivial⟩
  | status => exact (status_keeps hcalm.toModes).discard
  | close => exact (close_keeps close_gate fun _ _ _ => trivial).discard
  | setIinLimit iinUa =>
      refine ((writeIinLimit_gate iinUa "iin_limit").bind fun code => ?_).discard
      exact (Proc.Keeps.modify fun _ _ _ => trivial).bind fun _ => Proc.Keeps.pure code
  | setVbatFloat vbatUv =>
      refine ((hcalm.writeVerified (by decide) _ _).bind fun _ => ?_).discard
      exact (Proc.Keeps.modify fun _ _ _ => trivial).bind fun _ => Proc.Keeps.pure _
  | setAdcMode mode =>
      refine (setAdcMode_keeps hcalm.toSteady fun current => ?_).discard
      exact opKeeps_gate (fun _ => True) nofun
        fun other heq => by simp [Regs.adcCtrl, Regs.sysCtrl] at heq
  | clearLatchedFaults => exact (clearLatchedFaults_keeps hcalm.toSettled).discard
  | serviceWatchdog => exact (serviceWatchdog_keeps hcalm.toSettled).discard
  | readRegister addr => exact (readRegister_keeps hcalm.toModes addr).discard

/-- 1:1 gate safety: in every session, with every answer of the bus and cut short at any
point, each operation sets `EN_1TO1` only on a `Vin` sample in the bypass window. -/
theorem session_gate {pump : Pump} {log : List (Entry BusEffect Pump PumpOp)}
    (h : Session PumpOp.run pump log) : ∀ entry ∈ log, GateSafe entry.trace := by
  refine Session.forall_mem (P := fun _ _ t => GateSafe t) ?_ h
  intro op p t q hsteps
  exact hsteps.meets ((pumpOp_gate op).run p GateState.start trivial).prog

omit [LoopFuel] in
/-- The log of a charge start on the 5 V chip. -/
def fiveVoltStart : List (Entry BusEffect Pump PumpOp) :=
  [{ start := Pump.configuredDefault
     op := .setCharging true
     trace := (@PumpOp.run ⟨0⟩ (.setCharging true) Pump.configuredDefault).runWith
       Chip.answer Chip.fiveVolt |>.1 }]

omit [LoopFuel] in
/-- A charge that starts from 5 V requests 1:1 behind the gate. -/
theorem session_gate_fiveVoltStart : fiveVoltStart.Forall fun entry => GateSafe entry.trace := by
  obtain ⟨q, hsteps, -⟩ := Prog.steps_runWith Chip.answer
    (@PumpOp.run ⟨0⟩ (.setCharging true) Pump.configuredDefault) Chip.fiveVolt
  exact List.forall_iff_forall_mem.2 (@session_gate ⟨0⟩ _ _ (.cut hsteps))

end Ln8000
