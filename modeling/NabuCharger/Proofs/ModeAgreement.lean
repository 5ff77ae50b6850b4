import NabuCharger.Kmdf.Tick
import NabuCharger.Ln8000.Memory

/-!
# `Proofs.ModeAgreement`: the mode the driver decides on and the mode the pump requests

The kernel driver decides on a mode from `Vin` and the anchored cell voltage, which is that
of the fuel gauge when it is plausible (`Kmdf.Decides`). Then it calls `set_charging(true)`,
and the pump decides again, from `Vin` and the cell voltage it samples itself.

`steadyBus` is a bus without faults on which the input and the cell keep reading the same.
There `setCharging true` requests the mode `charge_mode` gives for the two samples of the
pump, and no other conducting one (`setCharging_requests`). 1:1 does not depend on the cell,
so the two decisions agree on it. They agree on 2:1 if and only if the input reaches the
admission gate of the cell voltage that the pump reads (`Kmdf.decisions_agree_iff`).
-/

set_option autoImplicit false

namespace Ln8000

open Effectful

/-- The conducting mode that an operation requests. -/
def requested : BusOp → List OpMode
  | .mark (.request mode) => if mode.conducting then [mode] else []
  | _ => []

/-- The conducting modes that a log of the bus requests, in order. -/
def requests (t : List (Event BusEffect)) : List OpMode := t.flatMap fun e => requested e.op

/-- Only `mode` was requested, and it was. -/
def Only (mode : OpMode) (asked : List OpMode) : Prop := asked ≠ [] ∧ ∀ w ∈ asked, w = mode

/-- A bus without faults whose two voltage channels hold these codes. Its state is what is
known of the registers, and what was requested so far. -/
def steadyBus (vin vbat : BitVec 16) : Machine BusEffect where
  State := Contents × List OpMode
  allow m
    | .readPair addr, r =>
        (addr = AdcChannel.vin.register → r = .ok vin) ∧
          (addr = AdcChannel.vbat.register → r = .ok vbat) ∧ memory.allow m.1 (.readPair addr) r
    | .read addr, r => memory.allow m.1 (.read addr) r
    | .write addr value, r => memory.allow m.1 (.write addr value) r
    | .reset, _ | .postResetDelay, _ | .mark _, _ => True
  require _ _ := True
  next m o r := (Contents.next m.1 o r, m.2 ++ requested o)

section
variable {vin vbat : BitVec 16}

/-- On the steady bus every exchange succeeds. -/
theorem opSure_steadyBus (o : BusOp) : OpSure (steadyBus vin vbat) o := by
  have hmemory := opSure_memory o
  cases o with
  | read addr => exact fun m r hr => hmemory m.1 r hr
  | readPair addr => exact fun m r hr => hmemory m.1 r hr.2.2
  | write addr value => exact fun m r hr => hmemory m.1 r hr
  | reset => trivial
  | postResetDelay => trivial
  | mark mk => trivial

/-- A register that is neither a status nor the reset register reads back what was written. -/
theorem readsBack_steadyBus {addr : RegAddr} (hstatus : isStatus addr = false)
    (haddr : addr ≠ Regs.bcOp2) : ReadsBack (steadyBus vin vbat) addr :=
  fun m value readBack hwrite hread =>
    readsBack_memory hstatus haddr m.1 value readBack hwrite hread

/-- The requests of the monitor are those of the log. -/
theorem after_requests (t : List (Event BusEffect)) (m : Contents × List OpMode) :
    ((steadyBus vin vbat).after m t).2 = m.2 ++ requests t := by
  induction t generalizing m with
  | nil => exact (List.append_nil m.2).symm
  | cons e t ih =>
      have hstep := ih (Contents.next m.1 e.op e.resp, m.2 ++ requested e.op)
      rw [requests, List.flatMap_cons, ← List.append_assoc]
      exact hstep

/-- The session is open, and `P` holds of the requests so far. -/
def OpenAsked (P : List OpMode → Prop) (p : Pump) (m : Contents × List OpMode) : Prop :=
  p.state ≠ .closed ∧ P m.2

/-- An exchange that requests no mode leaves the requests as they were. -/
theorem opKeeps_openAsked {P : List OpMode → Prop} {o : BusOp} (ho : requested o = []) :
    OpKeeps (steadyBus vin vbat) (OpenAsked P) o := by
  intro p m h
  refine ⟨trivial, fun r _ => ⟨h.1, ?_⟩⟩
  show P (m.2 ++ requested o)
  rw [ho, List.append_nil]
  exact h.2

/-- Calm exchanges request nothing. -/
theorem calm_openAsked (P : List OpMode → Prop) : Calm (steadyBus vin vbat) (OpenAsked P) where
  session _ _ _ hcontinues h := ⟨fun hclosed => h.1 (hcontinues.2 hclosed), h.2⟩
  reset := opKeeps_openAsked rfl
  read _ _ := opKeeps_openAsked rfl
  safety := opKeeps_openAsked rfl
  delay := opKeeps_openAsked rfl
  write _ _ _ := opKeeps_openAsked rfl
  pair _ _ := opKeeps_openAsked rfl

variable [LoopFuel]

/-- The fault-register updates request nothing. -/
theorem fault_asked (P : List OpMode → Prop) :
    FaultRules (steadyBus vin vbat) (OpenAsked P) :=
  FaultRules.of_write (calm_openAsked P).toSteady fun _ => opKeeps_openAsked rfl

/-- The current taper requests nothing. -/
theorem taper_asked (P : List OpMode → Prop) :
    TaperRules (steadyBus vin vbat) (OpenAsked P) where
  vinPair := opKeeps_openAsked rfl
  taper _ _ _ _ _ _ :=
    writeIinLimit_keeps (calm_openAsked P).toSteady fun _ _ _ => opKeeps_openAsked rfl

/-- Clearing the reverse-current bit requests nothing. -/
theorem reverse_asked (P : List OpMode → Prop) (field : String) :
    Proc.Keeps (steadyBus vin vbat) (OpenAsked P) (update Regs.sysCtrl (bit 2) 0 field) :=
  update_keeps (calm_openAsked P).toSteady (by decide) fun _ => opKeeps_openAsked rfl

/-- Standby is no request of a conducting mode. -/
theorem standby_asked (P : List OpMode → Prop) :
    Proc.Keeps (steadyBus vin vbat) (OpenAsked P) (setOpMode .standby) :=
  setOpMode_keeps (calm_openAsked P).toModes (opKeeps_openAsked rfl) fun _ _ _ =>
    opKeeps_openAsked rfl

/-- Configuration requests nothing but what the property allows. -/
theorem configure_asked (P : List OpMode → Prop) :
    Proc.Keeps (steadyBus vin vbat) (OpenAsked P) configure :=
  configure_keeps (calm_openAsked P).toModes
    { toFaultRules := fault_asked P
      reverse := reverse_asked P
      adc := fun _ => opKeeps_openAsked rfl
      limit := fun _ _ _ _ _ _ => opKeeps_openAsked rfl
      began := opKeeps_openAsked rfl
      ended := opKeeps_openAsked rfl
      standby := standby_asked P }

/-! ### Samples -/

/-- A channel of the steady bus reads the word it holds. -/
theorem readAdc_steady (P : List OpMode → Prop) {channel : AdcChannel} {raw : BitVec 16}
    (hraw : ∀ (m : Contents × List OpMode) r,
      (steadyBus vin vbat).allow m (.readPair channel.register) (.ok r) → r = raw)
    {p : Pump} {m : Contents × List OpMode} (h : OpenAsked P p m) :
    (readAdc channel).wp (steadyBus vin vbat)
      (fun outcome p' m' => OpenAsked P p' m' ∧ outcome = .ok (channel.decode raw)) p m := by
  have hpause : ∀ value field, Sure (steadyBus vin vbat) (OpenAsked P)
      (update Regs.timerCtrl Regs.timerCtrlPauseAdc value field) := fun value field =>
    update_sure (calm_openAsked P).toRetries (opSure_steadyBus _) (fun _ => opSure_steadyBus _)
      (readsBack_steadyBus (by decide) (by decide)) (opKeeps_openAsked rfl) fun _ =>
        opKeeps_openAsked rfl
  exact readAdc_wp_sure (calm_openAsked P).toRetries (hpause _ _) (opSure_steadyBus _)
    (opKeeps_openAsked rfl) hraw (hpause _ _).keeps h

/-- The input reads what the bus holds. -/
theorem readAdc_vin_steady (P : List OpMode → Prop) {p : Pump} {m : Contents × List OpMode}
    (h : OpenAsked P p m) :
    (readAdc .vin).wp (steadyBus vin vbat)
      (fun outcome p' m' => OpenAsked P p' m' ∧ outcome = .ok (AdcChannel.vin.decode vin)) p m :=
  readAdc_steady P (fun _ _ hr => Except.ok.inj (hr.1 rfl)) h

/-- So does the cell. -/
theorem readAdcUv_vbat_steady (P : List OpMode → Prop) {p : Pump} {m : Contents × List OpMode}
    (h : OpenAsked P p m) :
    (readAdcUv .vbat).wp (steadyBus vin vbat)
      (fun outcome p' m' => OpenAsked P p' m' ∧
        outcome = .ok (AdcChannel.vbat.decode vbat).toNat) p m := by
  have hread : (readAdc .vbat).wp (steadyBus vin vbat)
      (fun outcome p' m' => OpenAsked P p' m' ∧ outcome = .ok (AdcChannel.vbat.decode vbat)) p m :=
    readAdc_steady P (fun _ _ hr => Except.ok.inj (hr.2.1 rfl)) h
  refine (Proc.wp_unwrapOr_bind (M := steadyBus vin vbat) p m _ _ _ _).2 (Proc.wp_mono hread ?_)
  rintro outcome p m ⟨h, rfl⟩
  exact (Proc.wp_pure _ p m _).2 ⟨h, rfl⟩

/-! ### Requests -/

/-- No other conducting mode than `want` was requested so far. -/
abbrev NoOther (want : OpMode) (asked : List OpMode) : Prop := ∀ w ∈ asked, w = want

/-- A request of `want`. -/
theorem setOpMode_requests {want : OpMode} (hwant : want.conducting = true) {p : Pump}
    {m : Contents × List OpMode} (h : OpenAsked (NoOther want) p m) :
    (setOpMode want).wp (steadyBus vin vbat)
      (fun _ p' m' => OpenAsked (Only want) p' m') p m := by
  obtain ⟨bits, hbits⟩ : ∃ bits, want.sysCtrlBits = .ok bits := by
    cases want with
    | switching => exact ⟨_, rfl⟩
    | bypass => exact ⟨_, rfl⟩
    | standby => exact ⟨_, rfl⟩
    | unknown => cases hwant
  refine (Proc.wp_bind (M := steadyBus vin vbat) p m _ _ _).2
    (ensureOpen_wp h.1 ((Proc.thenWp_ok _ _ _ _ _).2 ?_))
  rw [hbits]
  refine (Proc.wp_bind (M := steadyBus vin vbat) p m _ _ _).2
    ((Proc.wp_ofExcept (M := steadyBus vin vbat) _ p m _).2 ?_)
  refine (Proc.thenWp_ok _ _ _ _ _).2 ((Proc.wp_bind (M := steadyBus vin vbat) p m _ _ _).2 ?_)
  refine (mark_wp (M := steadyBus vin vbat) _ _ p m).2
    ⟨trivial, fun _ _ => (Proc.thenWp_ok _ _ _ _ _).2 ?_⟩
  -- the mark is the request, and it goes out before the write
  have hasked : OpenAsked (Only want) p
      (Contents.next m.1 (.mark (.request want)) (), m.2 ++ requested (.mark (.request want))) := by
    have hone : requested (.mark (.request want)) = [want] := by rw [requested, if_pos hwant]
    refine ⟨h.1, by simp [hone], ?_⟩
    intro w hw
    rw [hone, List.mem_append, List.mem_singleton] at hw
    exact hw.elim (h.2 w) id
  have hrest : Proc.Keeps (steadyBus vin vbat) (OpenAsked (Only want)) (do
      update Regs.sysCtrl OpMode.sysCtrlMask bits "op_mode"
      Proc.modify fun p => { p with opMode := want } : PumpM Unit) := by
    have hwrite : Proc.Keeps (steadyBus vin vbat) (OpenAsked (Only want))
        (update Regs.sysCtrl OpMode.sysCtrlMask bits "op_mode") :=
      update_keeps (calm_openAsked _).toSteady (by decide) fun _ => opKeeps_openAsked rfl
    exact hwrite.bind fun _ => Proc.Keeps.modify fun p m h => (calm_openAsked _).opMode p m want h
  exact hrest.run p _ hasked

/-- So does asking again. -/
theorem setOpMode_only {want : OpMode} (hwant : want.conducting = true) :
    Proc.Keeps (steadyBus vin vbat) (OpenAsked (Only want)) (setOpMode want) :=
  ⟨fun _ _ h => setOpMode_requests hwant ⟨h.1, h.2.2⟩⟩

/-- Switching to 2:1 requests 2:1 and nothing else. -/
theorem enableSwitching_requests {p : Pump} {m : Contents × List OpMode}
    (h : OpenAsked (NoOther .switching) p m) :
    enableSwitching.wp (steadyBus vin vbat)
      (fun _ p' m' => OpenAsked (Only .switching) p' m') p m := by
  have c := @calm_openAsked vin vbat (Only .switching)
  have hconfirm := confirmMode_keeps c.toModes .switching c.switching
  refine (Proc.wp_bind (M := steadyBus vin vbat) p m _ _ _).2
    (Proc.wp_mono (setOpMode_requests rfl h) ?_)
  intro outcome p m h
  cases outcome with
  | ok _ => exact hconfirm.run p m h
  | error err => exact h

/-- The recovery of the 5 V bypass requests nothing but 1:1. -/
theorem recover5vBypass_only :
    Proc.Keeps (steadyBus vin vbat) (OpenAsked (Only .bypass)) recover5vBypass := by
  have c := @calm_openAsked vin vbat (Only .bypass)
  have hclean := recoverClean_keeps c.toModes (taper_asked _) (fun _ => opKeeps_openAsked rfl)
    (setOpMode_only rfl)
  have hrest := recoverConfigured_keeps c.toModes (taper_asked _) (configure_asked _) hclean
  have hreset := softReset_keeps c.toModes fun _ => opKeeps_openAsked rfl
  exact recover5vBypass_keeps c (opKeeps_openAsked rfl)
    (resetAndRecover_keeps c.toModes hreset hrest)

/-- Entering 1:1 in its window. -/
theorem enableBypass_requests
    (hmode : chargeMode (AdcChannel.vin.decode vin) (AdcChannel.vbat.decode vbat).toNat =
      some .bypass) {p : Pump} {m : Contents × List OpMode}
    (h : OpenAsked (NoOther .bypass) p m) :
    enableBypass.wp (steadyBus vin vbat)
      (fun _ p' m' => OpenAsked (Only .bypass) p' m') p m := by
  have c := @calm_openAsked vin vbat (Only .bypass)
  have hconfirm := confirmMode_keeps c.toModes .bypass c.configured
  refine (Proc.wp_bind (M := steadyBus vin vbat) p m _ _ _).2
    (Proc.wp_mono (readAdc_vin_steady _ h) ?_)
  rintro outcome p m ⟨h, rfl⟩
  refine (Proc.thenWp_ok _ _ _ _ _).2 ((Proc.wp_bind (M := steadyBus vin vbat) p m _ _ _).2 ?_)
  refine Proc.wp_mono (readAdcUv_vbat_steady _ h) ?_
  rintro outcome p m ⟨h, rfl⟩
  -- the samples that chose 1:1 also pass the gate of 1:1, as it reads the same registers
  have hallowed : (!bypassAllowedByVin (AdcChannel.vin.decode vin)
      (AdcChannel.vbat.decode vbat).toNat) = false := by
    rw [bypassAllowedByVin, hmode]
    rfl
  rw [Proc.thenWp_ok, hallowed]
  refine (Proc.wp_bind (M := steadyBus vin vbat) p m _ _ _).2
    (Proc.wp_mono (setOpMode_requests rfl h) ?_)
  intro outcome p m h
  cases outcome with
  | ok _ => exact hconfirm.run p m h
  | error err => exact h

/-- The request of a charge start, once the mode is chosen. -/
theorem requestMode_requests {want : OpMode}
    (hmode : chargeMode (AdcChannel.vin.decode vin) (AdcChannel.vbat.decode vbat).toNat =
      some want) {p : Pump} {m : Contents × List OpMode} (h : OpenAsked (NoOther want) p m) :
    (requestMode want).wp (steadyBus vin vbat)
      (fun _ p' m' => OpenAsked (Only want) p' m') p m := by
  rcases chargeMode_conducting hmode with rfl | rfl
  · exact enableSwitching_requests h
  · refine (Proc.wp_modify_bind (M := steadyBus vin vbat) p m _ _ _).2 ?_
    refine (Proc.wp_attempt_bind (M := steadyBus vin vbat) _ m _ _ _).2 ?_
    refine Proc.wp_mono (enableBypass_requests hmode ⟨h.1, h.2⟩) ?_
    intro outcome p m h
    cases outcome with
    | ok mode => exact (Proc.wp_pure (M := steadyBus vin vbat) _ p m mode).2 h
    | error err => exact recover5vBypass_only.run p m h

/-- Preparing an elevated start succeeds on the steady bus. -/
theorem prepareElevated_sure (P : List OpMode → Prop) (want : OpMode) :
    Sure (steadyBus vin vbat) (OpenAsked P) (prepareElevated want) := by
  have c := @calm_openAsked vin vbat P
  refine (prepareNearFloatForCharge_sure c.toSettled (taper_asked P) true
    fun _ => fault_asked P).bind fun _ => ?_
  refine (discard_sure (clearLatchedFaults_keeps c.toSettled)).bind fun _ => ?_
  exact Sure.when fun _ => discard_sure ((fault_asked P).fault _ _ _ (by decide))

/-- A charge start requests the mode that was chosen, and no other. -/
theorem startCharging_requests {want : OpMode}
    (hmode : chargeMode (AdcChannel.vin.decode vin) (AdcChannel.vbat.decode vbat).toNat =
      some want) {p : Pump} {m : Contents × List OpMode} (h : OpenAsked (NoOther want) p m) :
    (startCharging want).wp (steadyBus vin vbat)
      (fun _ p' m' => OpenAsked (Only want) p' m') p m := by
  have c := @calm_openAsked vin vbat (NoOther want)
  have hwatchdog : Sure (steadyBus vin vbat) (OpenAsked (NoOther want))
      (Proc.when (!p.config.watchdogEnabled)
        (Proc.discard (update Regs.timerCtrl (bit 7) 0 "watchdog_force_off"))) :=
    Sure.when fun _ => discard_sure (c.update (by decide) _ _ _)
  have hprepare : Sure (steadyBus vin vbat) (OpenAsked (NoOther want))
      (Proc.when (want != .bypass) (prepareElevated want)) :=
    Sure.when fun _ => prepareElevated_sure _ _
  refine (Proc.wp_get_bind (M := steadyBus vin vbat) p m _ _).2 ?_
  refine hwatchdog.wp_bind h fun _ p m h => ?_
  refine (Proc.wp_modify_bind (M := steadyBus vin vbat) p m _ _ _).2 ?_
  refine hprepare.wp_bind (c.bypassStage p m 0 h) fun _ p m h => ?_
  refine (Proc.wp_attempt_bind (M := steadyBus vin vbat) p m _ _ _).2 ?_
  refine Proc.wp_mono (requestMode_requests hmode h) ?_
  intro outcome p m h
  -- the request is made: what follows is bookkeeping, the taper, or standby
  have d := @calm_openAsked vin vbat (Only want)
  cases outcome with
  | ok mode =>
      have hrest : Proc.Keeps (steadyBus vin vbat) (OpenAsked (Only want)) (do
          Proc.modify fun p =>
            { p with
              opMode := mode
              state := if mode = .switching then .switching else .configured }
          Proc.when (mode == .bypass) (prepareNearFloatForCharge false)
          pure mode : PumpM OpMode) := by
        refine Proc.Keeps.bind (d.modify fun p => ⟨rfl, fun hclosed => ?_⟩) fun _ => ?_
        · simp only at hclosed
          split at hclosed
          · cases hclosed
          · cases hclosed
        · refine (Proc.Keeps.when fun _ => ?_).bind fun _ => Proc.Keeps.pure mode
          exact prepareNearFloatForCharge_keeps d.toSettled (taper_asked _) false nofun
      exact hrest.run p m h
  | error err =>
      have hrest : Proc.Keeps (steadyBus vin vbat) (OpenAsked (Only want)) (do
          Proc.when (want != .bypass) (Proc.discard (setOpMode .standby))
          Proc.fail err : PumpM OpMode) :=
        (Proc.Keeps.when fun _ => (standby_asked _).discard).bind fun _ => Proc.Keeps.fail err
      exact hrest.run p m h

/-- What a charge start requests, for the mode that the two samples admit. -/
structure Requested (chosen : Option OpMode) (asked : List OpMode) : Prop where
  nothing : chosen = none → asked = []
  only : ∀ want, chosen = some want → Only want asked

omit [LoopFuel] in
/-- A default stands aside for a value. Reading it off by evaluation would have the kernel unfold
the value too. -/
theorem getD_toOption_ok {ε α : Type} (a d : α) :
    ((Except.ok a : Except ε α).toOption).getD d = a := rfl

/-- The choice between the modes requests what `charge_mode` gives for the samples. -/
theorem chargeFromSamples_requested {p : Pump} {m : Contents × List OpMode}
    (h : OpenAsked (· = []) p m) :
    chargeFromSamples.wp (steadyBus vin vbat)
      (fun _ p' m' => OpenAsked (Requested
        (chargeMode (AdcChannel.vin.decode vin) (AdcChannel.vbat.decode vbat).toNat)) p' m')
      p m := by
  refine (Proc.wp_unwrapOr_bind (M := steadyBus vin vbat) p m _ _ _ _).2 ?_
  refine Proc.wp_mono (readAdc_vin_steady _ h) ?_
  rintro outcome p m ⟨h, rfl⟩
  refine (Proc.wp_bind (M := steadyBus vin vbat) p m _ _ _).2 ?_
  refine Proc.wp_mono (readAdcUv_vbat_steady _ h) ?_
  rintro outcome p m ⟨h, rfl⟩
  rw [Proc.thenWp_ok, getD_toOption_ok]
  -- no mode: standby, which requests nothing; a mode: that one and no other
  cases hmode : chargeMode (AdcChannel.vin.decode vin) (AdcChannel.vbat.decode vbat).toNat with
  | none =>
      have hrest : Proc.Keeps (steadyBus vin vbat) (OpenAsked (Requested none)) (do
          Proc.discard (setOpMode .standby)
          Proc.fail (.modeNotReached OpMode.standby.code 0) : PumpM OpMode) :=
        (standby_asked _).discard.bind fun _ => Proc.Keeps.fail _
      exact hrest.run p m ⟨h.1, fun _ => h.2, nofun⟩
  | some want =>
      have hnone : OpenAsked (NoOther want) p m := by
        refine ⟨h.1, fun w hw => ?_⟩
        rw [show m.2 = [] from h.2] at hw
        cases hw
      refine Proc.wp_mono (startCharging_requests hmode hnone) fun _ _ _ h => ?_
      refine ⟨h.1, nofun, fun mode hchosen => ?_⟩
      rw [← Option.some.inj hchosen]
      exact h.2

/-- A charge start on a steady bus requests what `charge_mode` gives for its samples. -/
theorem setCharging_requested {p : Pump} {m : Contents × List OpMode}
    (h : OpenAsked (· = []) p m) :
    (setCharging true).wp (steadyBus vin vbat)
      (fun _ p' m' => OpenAsked (Requested
        (chargeMode (AdcChannel.vin.decode vin) (AdcChannel.vbat.decode vbat).toNat)) p' m')
      p m := by
  have hreverse : Sure (steadyBus vin vbat) (OpenAsked (· = []))
      (update Regs.sysCtrl (bit 2) 0 "disable_reverse_current") :=
    update_sure (calm_openAsked _).toRetries (opSure_steadyBus _) (fun _ => opSure_steadyBus _)
      (readsBack_steadyBus (by decide) (by decide)) (opKeeps_openAsked rfl)
      fun _ => opKeeps_openAsked rfl
  exact hreverse.wp_bind h fun _ _ _ h => chargeFromSamples_requested h

/-- So does every complete run of it. -/
theorem setCharging_requests {pump : Pump} (hopen : pump.state ≠ .closed)
    {t : List (Event BusEffect)} {out : Except PumpError OpMode × Pump}
    (hrun : Prog.Yields (setCharging true pump) t out) {contents : Contents}
    (hbus : (steadyBus vin vbat).Allowed (contents, []) t) :
    Requested (chargeMode (AdcChannel.vin.decode vin) (AdcChannel.vbat.decode vbat).toNat)
      (requests t) := by
  have hstart : OpenAsked (· = []) pump (contents, []) := ⟨hopen, rfl⟩
  have hwp := @setCharging_requested vin vbat _ pump (contents, []) hstart
  obtain ⟨-, hend⟩ := Prog.Yields.post (M := steadyBus vin vbat) hrun hwp.prog hbus
  rw [after_requests, List.nil_append] at hend
  exact hend

end

end Ln8000

namespace Kmdf

open Effectful Ln8000

section
variable [LoopFuel]

/-- The driver decides on `mode`, for an input at `vin` and a cell that the pump reads as
`vbatUv`, and turns the charge on. -/
inductive Decides (vin : Int) (vbatUv : Nat) (mode : OpMode) : Prop
  /-- A tick that finds the chip in another mode. -/
  | tick (ctx : Context) (obs : Observation) (hvin : obs.vbusUv = vin)
      (hvbat : obs.sample.vbatUv = vbatUv) (hdesired : (ctx.decide obs).desired = some mode)
      (hother : modeOk (some mode) obs.status.opMode = false)
  /-- The landing after a negotiation that found the bus at `found`. -/
  | landing (s s' : Held) (found : Int) (t : List (Event DevEffect))
      (h : Prog.Yields (landingMode found (anchorCellVbatUv s.fgVbattUv vbatUv) s) t
        (.ok (vin, some mode), s'))

/-- The decision of the landing is made on the bus it leaves behind. -/
theorem landingMode_decided (found : Int) (cellVbatUv : Nat) (s : Held) (m : Unit) :
    (landingMode found cellVbatUv).wp (Machine.free DevEffect)
      (fun outcome _ _ => ∀ vin mode, outcome = .ok (vin, mode) →
        mode = chargeMode vin cellVbatUv) s m := by
  -- both branches answer with the mode of the voltage they return
  have hanswer : ∀ vin mode (s : Held) (m : Unit), mode = chargeMode vin cellVbatUv →
      (pure (vin, mode) : HeldM (Int × Option OpMode)).wp (Machine.free DevEffect)
        (fun outcome _ _ => ∀ vin mode, outcome = .ok (vin, mode) →
          mode = chargeMode vin cellVbatUv) s m := by
    intro vin mode s m hmode
    refine (Proc.wp_pure (M := Machine.free DevEffect) _ s m _).2 fun vin' mode' heq => ?_
    obtain ⟨rfl, rfl⟩ := Prod.mk.inj (Except.ok.inj heq)
    exact hmode
  have hfree : ∀ {α : Type} (x : HeldM α), Proc.Keeps (Machine.free DevEffect)
      (fun _ _ => True) x := fun x =>
    Proc.Keeps.deaf (fun _ _ => trivial) (fun _ _ _ => rfl) fun _ _ _ h => h
  -- only above 5 V, and short of 2:1, is the bus corrected and sampled again
  refine Proc.wp_ite (fun _ => ?_) fun _ => hanswer found _ s m rfl
  refine (hfree _).wp_bind trivial (fun _ s m _ => ?_) fun _ _ _ _ => nofun
  refine (hfree _).wp_bind trivial (fun again s m _ => ?_) fun _ _ _ _ => nofun
  exact hanswer _ _ s m rfl

/-- Tick and landing decide by `charge_mode`, on the anchored cell voltage. The 2:1 that a
tick only keeps is not turned on again. -/
theorem Decides.chargeMode {vin : Int} {vbatUv : Nat} {mode : OpMode}
    (h : Decides vin vbatUv mode) :
    ∃ fgUv, Ln8000.chargeMode vin (anchorCellVbatUv fgUv vbatUv) = some mode := by
  -- the tick and the landing both ask `chargeMode`, each with the cell voltage it has
  cases h with
  | tick ctx obs hvin hvbat hdesired hother =>
      refine ⟨ctx.fgVbattUv, ?_⟩
      have hmode : desiredMode obs (anchorCellVbatUv ctx.fgVbattUv obs.sample.vbatUv) =
          some mode := hdesired
      rw [desiredMode, hvin, hvbat] at hmode
      -- a pump that is kept in 2:1 is not a decision of this kind
      by_cases hkept : obs.pumpAlive = true ∧
          max (windowFloorUv (anchorCellVbatUv ctx.fgVbattUv vbatUv)) elevatedMinVinUv ≤
            obs.sample.vbusUv
      · rw [if_pos hkept] at hmode
        have hswitching : obs.status.opMode = .switching := by
          have halive := hkept.1
          rw [Observation.pumpAlive, Bool.and_eq_true] at halive
          exact of_decide_eq_true halive.1
        rw [hswitching, ← hmode] at hother
        cases hother
      · rw [if_neg hkept] at hmode
        exact hmode
  | landing s s' found t h =>
      refine ⟨s.fgVbattUv, ?_⟩
      have hpost := Proc.post_free (fun m => landingMode_decided found _ s m) h
      exact (hpost vin (some mode) rfl).symm

/-- The driver decides on a mode for an input and a cell that the pump reads as `vin` and
`vbat`, with any cell voltage of the fuel gauge, and turns the charge on. On a bus that keeps
reading the same, the pump requests that mode and no other conducting one, if and only if it
is 1:1 or the input reaches the admission gate of the cell voltage the pump reads. -/
theorem decisions_agree_iff {vin vbat : BitVec 16} {mode : OpMode}
    (hdecides : Decides (AdcChannel.vin.decode vin) (AdcChannel.vbat.decode vbat).toNat mode)
    {pump : Pump} (hopen : pump.state ≠ .closed) {t : List (Event BusEffect)}
    {out : Except PumpError OpMode × Pump} (hrun : Prog.Yields (setCharging true pump) t out)
    {contents : Contents} (hbus : (steadyBus vin vbat).Allowed (contents, []) t) :
    Only mode (requests t) ↔ mode = .bypass ∨
      (minVinForSwitchingUv (AdcChannel.vbat.decode vbat).toNat : Int) ≤
        AdcChannel.vin.decode vin := by
  have hrequested := setCharging_requests hopen hrun hbus
  generalize AdcChannel.vin.decode vin = vin at *
  generalize (AdcChannel.vbat.decode vbat).toNat = vbatUv at *
  obtain ⟨fgUv, hdecided⟩ := hdecides.chargeMode
  have honly : Only mode (requests t) ↔ Ln8000.chargeMode vin vbatUv = some mode := by
    constructor
    · intro h
      cases hchosen : Ln8000.chargeMode vin vbatUv with
      | none => exact absurd (hrequested.nothing hchosen) h.1
      | some want =>
          obtain ⟨w, hw⟩ := List.exists_mem_of_ne_nil _ h.1
          rw [← (hrequested.only want hchosen).2 w hw, h.2 w hw]
    · exact hrequested.only mode
  rw [honly]
  rcases chargeMode_conducting hdecided with rfl | rfl
  · rw [chargeMode_eq_switching_iff]
    exact ⟨.inr, fun h => h.resolve_left nofun⟩
  · -- 1:1 is decided by the input alone
    rw [chargeMode_eq_bypass_iff] at hdecided
    rw [chargeMode_eq_bypass_iff]
    exact iff_of_true hdecided (.inl rfl)

end

/-! ### Runs -/

/-- What the steady bus may answer is decidable. -/
def decideAllow (vin vbat : BitVec 16) : ∀ (m : Contents × List OpMode) (o : BusOp)
    (r : BusEffect.Resp o), Decidable ((steadyBus vin vbat).allow m o r)
  | m, .read addr, .ok value =>
      inferInstanceAs (Decidable (isStatus addr = true ∨ m.1 addr = none ∨ m.1 addr = some value))
  | _, .write _ _, .ok _ => isTrue trivial
  | _, .readPair addr, .ok raw =>
      decidable_of_iff ((addr = AdcChannel.vin.register → raw = vin) ∧
          (addr = AdcChannel.vbat.register → raw = vbat))
        ⟨fun h => ⟨fun haddr => congrArg Except.ok (h.1 haddr),
          fun haddr => congrArg Except.ok (h.2 haddr), trivial⟩,
        fun h => ⟨fun haddr => Except.ok.inj (h.1 haddr), fun haddr => Except.ok.inj (h.2.1 haddr)⟩⟩
  | _, .read _, .error _ => isFalse id
  | _, .write _ _, .error _ => isFalse id
  | _, .readPair _, .error _ => isFalse fun h => h.2.2
  | _, .reset, _ | _, .postResetDelay, _ | _, .mark _, _ => isTrue trivial

instance (vin vbat : BitVec 16) (m : Contents × List OpMode) (t : List (Event BusEffect)) :
    Decidable ((steadyBus vin vbat).Allowed m t) :=
  @Machine.decidableAllowed _ (steadyBus vin vbat) (decideAllow vin vbat) m t

/-- A charge start on a chip, from a configured session. -/
def startRun (chip : Chip) :
    List (Event BusEffect) × Chip × Option (Except PumpError OpMode × Pump) :=
  (@setCharging ⟨0⟩ true Pump.configuredDefault).runWith Chip.answer chip

/-- It is a run that the bus allows. -/
theorem startRun_yields {chip : Chip} {vin vbat : BitVec 16}
    (hreturns : (startRun chip).2.2.isSome = true)
    (hallowed : (steadyBus vin vbat).Allowed (fun _ => none, []) (startRun chip).1) :
    ∃ t out, Prog.Yields (@setCharging ⟨0⟩ true Pump.configuredDefault) t out ∧
      t = (startRun chip).1 ∧ (steadyBus vin vbat).Allowed (fun _ => none, []) t := by
  obtain ⟨out, hout⟩ := Option.isSome_iff_exists.1 hreturns
  exact ⟨_, out, Prog.yields_runWith (E := BusEffect) Chip.answer _ chip out hout, rfl,
    hallowed⟩

/-- A tick that finds the chip in standby. -/
def standbyObs (vbatUv vinUv : Int) : Observation where
  status := { sysSts := 0x01, opMode := .standby, safetySts := 0, fault1Sts := 0, fault2Sts := 0,
              ldoSts := 0 }
  tsMs := 60000
  vbat := .ok vbatUv
  vbus := .ok vinUv
  iin := .ok 0
  temp := .ok 250

/-- An input of 5 V without a fuel gauge. -/
theorem decisions_agree_fiveVolt : ∃ t out,
    Prog.Yields (@setCharging ⟨0⟩ true Pump.configuredDefault) t out ∧
    (Only .bypass (requests t) ↔ OpMode.bypass = .bypass ∨
      (minVinForSwitchingUv (AdcChannel.vbat.decode 0xB70C).toNat : Int) ≤
        AdcChannel.vin.decode 0x1390) := by
  obtain ⟨t, out, hrun, -, hbus⟩ := @startRun_yields Chip.fiveVolt 0x1390 0xB70C
    (by decide +kernel) (by decide +kernel)
  have hdecides : @Decides ⟨0⟩ (AdcChannel.vin.decode 0x1390)
      (AdcChannel.vbat.decode 0xB70C).toNat .bypass :=
    @Decides.tick ⟨0⟩ _ _ _ Context.new (standbyObs 3900000 5008000) rfl rfl (by decide) rfl
  exact ⟨t, out, hrun, @decisions_agree_iff ⟨0⟩ _ _ _ hdecides _ (by decide) t out hrun _ hbus⟩

/-- A gauge at 3.7 V, a cell that the pump reads as 4.1 V, and an input of 7.9 V: the tick
decides on 2:1, and the pump requests no conducting mode at all. -/
theorem not_decisions_agree : ¬∀ (vin vbat : BitVec 16) (mode : OpMode),
    @Decides ⟨0⟩ (AdcChannel.vin.decode vin) (AdcChannel.vbat.decode vbat).toNat mode →
    ∀ (pump : Pump), pump.state ≠ .closed → ∀ t out,
      Prog.Yields (@setCharging ⟨0⟩ true pump) t out →
      (steadyBus vin vbat).Allowed (fun _ => none, []) t → Only mode (requests t) := by
  intro hall
  obtain ⟨t, out, hrun, ht, hbus⟩ := @startRun_yields (Chip.sampling 494 820 8 877) 0x1EE0
    0xB734 (by decide +kernel) (by decide +kernel)
  have hdecides : @Decides ⟨0⟩ (AdcChannel.vin.decode 0x1EE0)
      (AdcChannel.vbat.decode 0xB734).toNat .switching :=
    @Decides.tick ⟨0⟩ _ _ _ { Context.new with fgVbattUv := 3700000 }
      (standbyObs 4100000 7904000) rfl rfl (by decide) rfl
  have hasked := (hall _ _ _ hdecides _ (by decide) t out hrun hbus).1
  refine hasked ?_
  rw [ht]
  decide +kernel

end Kmdf
