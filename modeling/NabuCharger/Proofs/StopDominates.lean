import NabuCharger.Kmdf.Bench
import NabuCharger.Kmdf.DriverRules

/-!
# `Proofs.StopDominates`: an over-temperature tick ends in standby

A tick is *hot* when the chip reports a conducting mode and the die temperature is usable and
at or above the stop threshold (`overTemp`). Such a tick has to request standby, and nothing
after the protection step may request a conducting mode.

`stopMonitor` watches a whole run of the driver for it. It learns that a tick is hot from the
inputs of the protection step, and it forgets it when the tick returns. Two things decide
whether the driver keeps to it:

- the protection step looks at the temperature only if the sample calls the input present.
  A critical fault bit or a `Vin` of zero turns that flag off (`guardSees`);
- a landing turns the charge on without asking what the protection step decided.

`stop_dominates` says that nothing else does: in every run from the loaded driver, in which
the hot ticks see their input and have no landing due, the monitor is met. The step lemma is
`protect_stop`. From there on the tick is in one of two invariants, `Quenched` after a change
and `Cool` otherwise, and a charge is started only from `Cool`.
-/

set_option autoImplicit false

namespace Kmdf

open Effectful Ln8000

/-! ### The monitor -/

/-- What the property remembers of a tick. -/
structure StopState where
  /-- The protection step saw an over-temperature in a conducting mode. -/
  hot : Bool
  /-- Standby was requested since. -/
  stopped : Bool
  deriving DecidableEq, Repr

/-- A conducting mode, and a usable die temperature at or above the stop threshold. -/
def overTemp (inputs : GuardInputs) : Bool :=
  inputs.status.opMode.conducting && dieTempUsable inputs.sample
    && decide (inputs.limits.tempStopDc ≤ inputs.sample.dieTempDc)

/-- No critical fault is reported, and `Vin` does not read zero. -/
def guardSees (inputs : GuardInputs) : Bool :=
  !inputs.status.hasCriticalFault && decide (0 < inputs.sample.vbusUv)

/-- The monitor after an exchange. -/
def StopState.next (m : StopState) : (o : DevEffect.Op) → DevEffect.Resp o → StopState
  | .inl (.mark (.request .standby)), _ => { m with stopped := true }
  | .inr (.point (.guard inputs)), _ => { hot := overTemp inputs, stopped := false }
  | .inr (.point .tickDone), _ => { m with hot := false }
  | _, _ => m

/-- In a hot tick no conducting mode is requested, and standby is. -/
def stopRequire (m : StopState) : DevEffect.Op → Prop
  | .inl (.mark (.request mode)) => m.hot = true → mode.conducting = false
  | .inr (.point .tickDone) => m.hot = true → m.stopped = true
  | _ => True

/-- A hot tick sees its input, and no landing is due in it. -/
def stopAllow (m : StopState) : DevEffect.Op → Prop
  | .inr (.point (.guard inputs)) => overTemp inputs = true → guardSees inputs = true
  | .inr (.point .landing) => m.hot = false
  | _ => True

/-- The monitor of the stop. -/
abbrev stopMonitor : Machine DevEffect where
  State := StopState
  allow m o _ := stopAllow m o
  require := stopRequire
  next := StopState.next

/-- The same obligation without an assumption. -/
def unconditionalStop : Machine DevEffect := { stopMonitor with allow := fun _ _ _ => True }

/-- Before the first tick. -/
def StopState.start : StopState := { hot := false, stopped := false }

/-! ### Invariants of a tick -/

/-- Between the ticks, and in a tick that is not hot. -/
def Cool (p : Pump) (m : StopState) : Prop := p.state ≠ .closed ∧ m.hot = false

/-- After a protection step that changed something: a hot tick has requested standby. -/
def Quenched (p : Pump) (m : StopState) : Prop :=
  p.state ≠ .closed ∧ (m.hot = true → m.stopped = true)

/-- Between the ticks: no hot tick is open. -/
abbrev CoolDriver : DriverState → StopState → Prop := whenPump Cool fun m => m.hot = false

/-- After the body of a tick. -/
abbrev QuenchedDriver : DriverState → StopState → Prop :=
  whenPump Quenched fun m => m.hot = true → m.stopped = true

/-- Without a hot tick nothing needs to be stopped. -/
theorem Cool.quenched {p : Pump} {m : StopState} (h : Cool p m) : Quenched p m := by
  refine ⟨h.1, fun hot => ?_⟩
  rw [h.2] at hot
  cases hot

/-- Between the ticks no hot tick is open. -/
theorem not_hot_of_coolDriver {s : DriverState} {m : StopState} (h : CoolDriver s m) :
    m.hot = false :=
  whenPump_elim (fun _ (hp : Cool _ m) => hp.2) (fun hcool => hcool) h

/-- After the protection step a hot tick has been stopped. -/
theorem stopped_of_quenchedDriver {s : DriverState} {m : StopState} (h : QuenchedDriver s m) :
    m.hot = true → m.stopped = true :=
  whenPump_elim (fun _ (hp : Quenched _ m) => hp.2) (fun hstopped => hstopped) h

/-- Without a hot tick nothing needs to be stopped, pump or no pump. -/
theorem quenchedDriver_of_cool {s : DriverState} {m : StopState} (h : CoolDriver s m) :
    QuenchedDriver s m := by
  refine whenPump_mono (fun p hp => Cool.quenched hp) (fun hcool hot => ?_) h
  rw [hcool] at hot
  cases hot

/-- An invariant of an open session and the monitor. -/
def OpenWith (A : StopState → Prop) (p : Pump) (m : StopState) : Prop :=
  p.state ≠ .closed ∧ A m

/-! ### What the steps do to the monitor -/

/-- The monitor passes over every operation of the bus but a mode request. -/
theorem opKeeps_stop {I : Pump → StopState → Prop} {o : BusOp}
    (ho : ∀ mode, o ≠ .mark (.request mode)) : OpKeeps stopMonitor.onLeft I o := by
  intro p m h
  cases o with
  | mark mk =>
      cases mk with
      | request mode => exact absurd rfl (ho mode)
      | configureBegin => exact ⟨trivial, fun _ _ => h⟩
      | configured => exact ⟨trivial, fun _ _ => h⟩
  | read addr => exact ⟨trivial, fun _ _ => h⟩
  | write addr value => exact ⟨trivial, fun _ _ => h⟩
  | reset => exact ⟨trivial, fun _ _ => h⟩
  | readPair addr => exact ⟨trivial, fun _ _ => h⟩
  | postResetDelay => exact ⟨trivial, fun _ _ => h⟩

/-- Calm exchanges do not move the monitor. -/
theorem calm_stop (A : StopState → Prop) : Calm stopMonitor.onLeft (OpenWith A) where
  session _ _ _ hp h := ⟨fun hclosed => h.1 (hp.2 hclosed), h.2⟩
  reset := opKeeps_stop nofun
  read _ _ := opKeeps_stop nofun
  safety := opKeeps_stop nofun
  delay := opKeeps_stop nofun
  write _ _ _ := opKeeps_stop nofun
  pair _ _ := opKeeps_stop nofun

/-- The host tells the monitor nothing. -/
theorem hostKeeps_stop {σ : Type} {J : σ → StopState → Prop} {o : HostOp}
    (ho : o.silent = true) : HostKeeps stopMonitor J o := by
  intro s m h
  cases o with
  | point p => cases ho
  | spmi o => exact ⟨trivial, fun _ _ => h⟩
  | now => exact ⟨trivial, fun _ _ => h⟩
  | pollGauge => exact ⟨trivial, fun _ _ => h⟩
  | readChargeRegs => exact ⟨trivial, fun _ _ => h⟩
  | writeFccRaw raw => exact ⟨trivial, fun _ _ => h⟩
  | initializeBattery => exact ⟨trivial, fun _ _ => h⟩

section
variable [LoopFuel]

/-- A mode request meets the obligation if it is not conducting, or if no tick is hot. -/
theorem setOpMode_stop {A : StopState → Prop} (target : OpMode)
    (hreq : ∀ m, A m → m.hot = true → target.conducting = false)
    (hA : ∀ m, A m → A { m with stopped := true }) :
    Proc.Keeps stopMonitor.onLeft (OpenWith A) (setOpMode target) := by
  refine setOpMode_keeps (calm_stop A).toModes ?_ fun current bits _ => opKeeps_stop nofun
  intro p m h
  refine ⟨hreq m h.2, fun r _ => ⟨h.1, ?_⟩⟩
  cases target with
  | standby => exact hA m h.2
  | unknown => exact h.2
  | bypass => exact h.2
  | switching => exact h.2

/-- Standby may be requested at any time. -/
theorem standby_stop {A : StopState → Prop} (hA : ∀ m, A m → A { m with stopped := true }) :
    Proc.Keeps stopMonitor.onLeft (OpenWith A) standby :=
  setOpMode_stop .standby (fun _ _ _ => rfl) hA

/-- A read-modify-write outside the safety register does not move the monitor. -/
theorem update_stop {A : StopState → Prop} {addr : RegAddr} (haddr : addr ≠ Regs.safetySts)
    (mask value : Byte) (field : String) :
    Proc.Keeps stopMonitor.onLeft (OpenWith A) (update addr mask value field) :=
  update_keeps (calm_stop A).toSteady haddr fun _ => opKeeps_stop nofun

/-- A write of the input limit does not move the monitor. -/
theorem writeIinLimit_stop {A : StopState → Prop} (iinUa : Nat) (field : String) :
    Proc.Keeps stopMonitor.onLeft (OpenWith A) (writeIinLimit iinUa field) :=
  writeIinLimit_keeps (calm_stop A).toSteady fun _ _ _ => opKeeps_stop nofun

/-- Setting the input limit does not move the monitor. -/
theorem setIinLimit_stop {A : StopState → Prop} (iinUa : Nat) :
    Proc.Keeps stopMonitor.onLeft (OpenWith A) (setIinLimit iinUa) :=
  setIinLimit_keeps (writeIinLimit_stop iinUa _) fun _ _ h => h

/-! ### Charge start outside a hot tick -/

/-- Outside a hot tick every mode may be requested. -/
theorem setOpMode_cool (target : OpMode) :
    Proc.Keeps stopMonitor.onLeft Cool (setOpMode target) := by
  refine setOpMode_stop (A := fun m => m.hot = false) target (fun m h hot => ?_) fun m h => h
  rw [h] at hot
  cases hot

omit [LoopFuel] in
/-- Calm exchanges open no hot tick. -/
theorem calm_cool : Calm stopMonitor.onLeft Cool := calm_stop fun m => m.hot = false

omit [LoopFuel] in
/-- Calm exchanges leave a stopped tick stopped. -/
theorem calm_quenched : Calm stopMonitor.onLeft Quenched :=
  calm_stop fun m => m.hot = true → m.stopped = true

/-- The fault-register updates open no hot tick. -/
theorem faults_cool : FaultRules stopMonitor.onLeft Cool :=
  FaultRules.of_write calm_cool.toSteady fun _ => opKeeps_stop nofun

/-- The current taper opens no hot tick. -/
theorem taper_cool : TaperRules stopMonitor.onLeft Cool where
  vinPair := opKeeps_stop nofun
  taper _ _ _ _ _ _ := writeIinLimit_stop _ _

/-- Configuration opens no hot tick. -/
theorem configure_cool : Proc.Keeps stopMonitor.onLeft Cool configure :=
  configure_keeps calm_cool.toModes
    { toFaultRules := faults_cool
      began := opKeeps_stop nofun
      ended := opKeeps_stop nofun
      standby := setOpMode_cool .standby
      reverse := fun _ => update_stop (by decide) _ _ _
      adc := fun _ => opKeeps_stop nofun
      limit := fun _ _ _ _ _ _ => opKeeps_stop nofun }

/-- A soft reset opens no hot tick. -/
theorem softReset_cool : Proc.Keeps stopMonitor.onLeft Cool softReset :=
  softReset_keeps calm_cool.toModes fun _ => opKeeps_stop nofun

/-- A charge start opens no hot tick. Its mode requests are allowed because none is open. -/
theorem charge_cool : ChargeRules stopMonitor.onLeft Cool where
  toTaperRules := taper_cool
  toFaultRules := faults_cool
  reverse _ := update_stop (by decide) _ _ _
  standby := setOpMode_cool .standby
  switching := setOpMode_cool .switching
  enableBypass := enableBypass_keeps calm_cool.toModes (opKeeps_stop nofun) (setOpMode_cool .bypass)
  recover := by
    refine recover5vBypass_keeps calm_cool (opKeeps_stop nofun) ?_
    refine resetAndRecover_keeps calm_cool.toModes softReset_cool ?_
    refine recoverConfigured_keeps calm_cool.toModes taper_cool configure_cool ?_
    exact recoverClean_keeps calm_cool.toModes taper_cool (fun _ => opKeeps_stop nofun)
      (setOpMode_cool .bypass)

/-! ### The driver in and outside a hot tick -/

omit [LoopFuel] in
/-- The driver outside the body of a tick opens no hot tick. -/
theorem driver_cool : DriverRules stopMonitor CoolDriver :=
  driverRules_whenPump calm_cool (opKeeps_stop nofun) fun _ => hostKeeps_stop

omit [LoopFuel] in
/-- What follows the protection step in a tick leaves a stopped tick stopped. -/
theorem driver_quenched : DriverRules stopMonitor QuenchedDriver :=
  driverRules_whenPump calm_quenched (opKeeps_stop nofun) fun _ => hostKeeps_stop

/-- A charge start from the driver opens no hot tick. -/
theorem start_cool : StartRules stopMonitor (heldOf CoolDriver) where
  toHeldRules := driver_cool.held
  charge _ := charge_cool
  configure _ := configure_cool
  softReset _ := softReset_cool

/-- A landing opens no hot tick. -/
theorem land_cool : LandRules stopMonitor CoolDriver where
  toDriverRules := driver_cool
  start := start_cool
  five := by
    refine Proc.Keeps.get.bind fun s => Proc.Keeps.bind (Proc.Keeps.perform fun s m h => ?_)
      fun _ => ?_
    · exact ⟨trivial, fun _ _ => h⟩
    · exact (onPump_keeps fun s => setIinLimit_stop _).discard

/-! ### The protection step -/

omit [LoopFuel] in
/-- An over-temperature that sees its input is a stop, whatever else the sample says. -/
theorem action_of_overTemp {obs : Observation} {inputs : GuardInputs}
    (hstatus : inputs.status = obs.status) (hsample : inputs.sample = obs.sample)
    (hhot : overTemp inputs = true) (hsees : guardSees inputs = true) :
    inputs.action = .stop "die_temp_stop" := by
  rw [overTemp, Bool.and_eq_true, Bool.and_eq_true, decide_eq_true_eq] at hhot
  rw [guardSees, Bool.and_eq_true, Bool.not_eq_true', decide_eq_true_eq] at hsees
  obtain ⟨⟨hmode, husable⟩, hstop⟩ := hhot
  obtain ⟨hfault, hvin⟩ := hsees
  rw [hstatus] at hmode hfault
  have hpresent : inputs.sample.inputPresent = true := by
    rw [hsample] at hvin ⊢
    exact Observation.inputPresent_of_conducting hmode hfault hvin
  exact (evaluate_eq_stop_iff _ _ _ _).2 ⟨hpresent, husable, hstop⟩

/-- The pump is open, and a hot tick has to stop. -/
def MustStop (inputs : GuardInputs) (s : Held) (m : StopState) : Prop :=
  s.pump.state ≠ .closed ∧ (m.hot = true → inputs.action = .stop "die_temp_stop")

/-- What the protection step leaves: standby in a hot tick, after a change, and no hot tick
without one. -/
def AfterProtect : Bool → Held → StopState → Prop
  | true => heldOf QuenchedDriver
  | false => heldOf CoolDriver

omit [LoopFuel] in
/-- What the protection step leaves survives the steps after it, by cases on whether it changed
anything. -/
theorem afterProtect_rules (changed : Bool) : HeldRules stopMonitor (AfterProtect changed) := by
  cases changed with
  | true => exact driver_quenched.held
  | false => exact driver_cool.held

omit [LoopFuel] in
/-- What the protection step leaves does not depend on the clock fields. -/
theorem afterProtect_timeless (changed : Bool) : Held.Timeless (AfterProtect changed) := by
  cases changed with
  | true => exact DriverState.Timeless.held (P := QuenchedDriver) whenPump_timeless
  | false => exact DriverState.Timeless.held (P := CoolDriver) whenPump_timeless

omit [LoopFuel] in
/-- What the protection step leaves does not depend on the window. -/
theorem afterProtect_windowless (changed : Bool) : Held.Windowless (AfterProtect changed) := by
  cases changed with
  | true => exact fun _ _ _ _ _ hs => hs
  | false => exact fun _ _ _ _ _ hs => hs

/-- Standby quenches a hot tick: the session is open, so the request is made. -/
theorem standby_quenches (p : Pump) (m : StopState) (hopen : p.state ≠ .closed) :
    standby.wp stopMonitor.onLeft (fun _ p' m' => Quenched p' m') p m := by
  -- once standby is requested the rest of the update keeps the stop
  have hafter : Proc.Keeps stopMonitor.onLeft (OpenWith fun m => m.stopped = true) (do
      update Regs.sysCtrl OpMode.sysCtrlMask Regs.sysCtrlStandbyEn "op_mode"
      Proc.modify fun p => { p with opMode := .standby }) := by
    refine (update_stop (by decide) _ _ _).bind fun _ => ?_
    exact (calm_stop _).modify (by simp [Pump.Continues])
  unfold standby setOpMode
  rw [Proc.wp_bind]
  refine ensureOpen_wp hopen ?_
  rw [Proc.thenWp_ok, Proc.wp_bind, Proc.wp_ofExcept, OpMode.sysCtrlBits, Proc.thenWp_ok,
    Proc.wp_bind, mark_wp]
  refine ⟨fun _ => rfl, fun _ _ => ?_⟩
  refine Proc.wp_mono (hafter.run p _ ⟨hopen, rfl⟩) ?_
  intro outcome p m h
  exact ⟨h.1, fun _ => h.2⟩

/-- Outside a hot tick the protection step keeps to it. -/
theorem applyGuard_cool (inputs : GuardInputs) (s : Held) (m : StopState)
    (hstrikes : s.bypassDeniedStrikes = inputs.deniedStrikes) (hs : heldOf CoolDriver s m) :
    (applyGuard inputs.action inputs.vbusUv inputs.sample.vbatUv inputs.limits).wp stopMonitor
      (fun _ s' m' => heldOf CoolDriver s' m') s m :=
  applyGuard_wp (N := stopMonitor) (J := heldOf CoolDriver)
    (fun _ _ _ hs => hs) (fun toUa _ _ => setIinLimit_stop toUa)
    (fun _ => charge_cool.enableBypass) (fun _ => charge_cool.standby) s m hstrikes hs

/-- In a hot tick it requests standby. -/
theorem applyGuard_stop (inputs : GuardInputs) (s : Held) (m : StopState)
    (hopen : s.pump.state ≠ .closed) (hstop : inputs.action = .stop "die_temp_stop") :
    (applyGuard inputs.action inputs.vbusUv inputs.sample.vbatUv inputs.limits).wp stopMonitor
      (fun _ s' m' => heldOf QuenchedDriver s' m') s m := by
  rw [hstop, applyGuard, Proc.wp_bind, Proc.wp_modify, Proc.thenWp_ok, Proc.wp_discard, onPump,
    Proc.wp_onPart, Proc.wp_inl]
  exact standby_quenches s.pump m hopen

/-- The step lemma: after the protection step, a hot tick has requested standby, or the tick
is not hot. -/
theorem protect_stop (obs : Observation) (s : Held) (m : StopState)
    (hs : heldOf CoolDriver s m) :
    (protect obs).wp stopMonitor
      (fun outcome s' m' => ∃ changed, outcome = .ok changed ∧ AfterProtect changed s' m') s m := by
  refine driver_cool.held.protect_wp (fun _ _ _ hs => hs) (A := MustStop)
    ?_ ?_ ?_ driver_quenched.held s m hs
  · -- the point of the step opens the tick
    intro s m applied hs
    refine ⟨trivial, fun _ hsees => ⟨hs.1, fun hhot => ?_⟩⟩
    exact action_of_overTemp rfl rfl hhot (hsees hhot)
  · intro inputs s m _ _ hstrikes _ hmust
    by_cases hhot : m.hot = true
    · exact applyGuard_stop inputs s m hmust.1 (hmust.2 hhot)
    · have hcool : m.hot = false := by simpa using hhot
      refine Proc.wp_mono (applyGuard_cool inputs s m hstrikes ⟨hmust.1, hcool⟩) ?_
      exact fun _ s m h => Cool.quenched h
  · -- no change: the tick is not hot
    intro inputs s m _ _ hsame hmust
    refine ⟨hmust.1, ?_⟩
    cases hhot : m.hot with
    | false => rfl
    | true =>
        rw [hmust.2 hhot] at hsame
        cases hsame

/-! ### A tick -/

/-- Setting the converter's mode opens no hot tick. -/
theorem setAdcMode_cool (mode : AdcMode) (s : Held) :
    Proc.Keeps stopMonitor.onLeft (onPumpOf (heldOf CoolDriver) s) (setAdcMode mode) :=
  setAdcMode_keeps calm_cool.toSteady fun _ => opKeeps_stop nofun

/-- Keeping the converter awake opens no hot tick. -/
theorem keepAdcAwake_cool (obs : Observation) :
    Proc.Keeps stopMonitor (heldOf CoolDriver) (keepAdcAwake obs) := by
  refine keepAdcAwake_keeps setAdcMode_cool ?_ ?_ obs
  · exact fun _ _ _ _ hs => hs
  · exact fun _ _ _ hs => ⟨trivial, fun _ _ => hs⟩

/-- With the pump in hand, a tick leads from no hot tick to a quenched one. -/
theorem tickOnPump_stop (gauge : GaugePoll) (s : Held) (m : StopState)
    (hs : heldOf CoolDriver s m) :
    (tickOnPump gauge).wp stopMonitor (fun _ s' m' => heldOf QuenchedDriver s' m') s m := by
  refine driver_cool.held.tickOnPump_wp (L := fun _ => heldOf CoolDriver)
    (fun _ => driver_cool.held) (fun obs s m hs => (keepAdcAwake_cool obs).run s m hs) ?_
    (fun s m h => Cool.quenched h) gauge s m hs
  intro obs s m hs
  -- the standby of a correction is allowed also in a hot tick
  have hstandby : ∀ changed s,
      Proc.Keeps stopMonitor.onLeft (onPumpOf (AfterProtect changed) s) standby := by
    intro changed s
    cases changed with
    | true => exact standby_stop fun m h _ => rfl
    | false => exact charge_cool.standby
  refine Proc.wp_mono (act_wp (protect_stop obs) afterProtect_rules afterProtect_timeless
    afterProtect_windowless hstandby start_cool s m hs) ?_
  rintro _ s m ⟨changed, h⟩
  cases changed with
  | true => exact h
  | false => exact Cool.quenched h

/-- A landing that is due must not be in a hot tick, and it leaves none. -/
theorem telemetryTick_stop : Proc.Keeps stopMonitor CoolDriver telemetryTick := by
  refine land_cool.telemetryTick (Q := QuenchedDriver) (R := QuenchedDriver) driver_quenched
    whenPump_timeless whenPump_timeless tickOnPump_stop ?_ ?_ (fun _ _ h => h)
    (fun _ _ h => quenchedDriver_of_cool h) ?_
  · exact fun s m _ hs => quenchedDriver_of_cool hs
  · -- the landing
    intro s m hs
    refine ⟨trivial, fun _ hcool => ?_⟩
    exact whenPump_mono (fun p hp => ⟨hp.1, hcool⟩) (fun _ => hcool) hs
  · -- the tick returns
    intro s m hs
    refine ⟨?_, fun _ _ => whenPump_mono (fun p hp => ⟨hp.1, rfl⟩) (fun _ => rfl) hs⟩
    exact stopped_of_quenchedDriver hs

/-! ### Every entry point, every run -/

omit [LoopFuel] in
/-- The first point of a landing between the ticks. -/
theorem landing_cool (s : DriverState) (m : StopState) (hs : CoolDriver s m) :
    stopMonitor.require m (.inr (.point .landing)) ∧
      ∀ a, stopMonitor.allow m (.inr (.point .landing)) a →
        CoolDriver s (stopMonitor.next m (.inr (.point .landing)) a) :=
  ⟨trivial, fun _ _ => hs⟩

/-- No hot tick is open. -/
def NotHot (m : StopState) : Prop := m.hot = false

/-- What is left of `Cool` when a pump is opened or closed. -/
def NoHotTick (_ : Pump) (m : StopState) : Prop := NotHot m

omit [LoopFuel] in
/-- Calm exchanges open no hot tick, on an open session or a closed one. -/
theorem calm_noHotTick : Calm stopMonitor.onLeft NoHotTick where
  session _ _ _ _ h := h
  reset := opKeeps_stop nofun
  read _ _ := opKeeps_stop nofun
  safety := opKeeps_stop nofun
  delay := opKeeps_stop nofun
  write _ _ _ := opKeeps_stop nofun
  pair _ _ := opKeeps_stop nofun

omit [LoopFuel] in
/-- A driver without a hot tick stays one as long as no hot tick opens. -/
theorem coolDriver_of_not_hot {s : DriverState} {m m' : StopState} (hs : CoolDriver s m)
    (hhot : m'.hot = false) : CoolDriver s m' :=
  whenPump_mono (fun _ hp => ⟨hp.1, hhot⟩) (fun _ => hhot) hs

/-- Closing a session opens no hot tick. -/
theorem close_noHotTick : Proc.Keeps stopMonitor.onLeft NoHotTick close :=
  close_keeps (update_keeps calm_noHotTick.toSteady (by decide) fun _ => opKeeps_stop nofun)
    fun _ _ h => h

/-- Preparing the hardware opens no hot tick. -/
theorem prepareHardware_cool (key : Option Registry) (usbinId : Option Nat) :
    Proc.Keeps stopMonitor CoolDriver (prepareHardware key usbinId) := by
  refine land_cool.prepareHardware whenPump_timeless landing_cool key ?_ usbinId
  intro s m hs
  have hreset : ∀ m, NotHot m → stopMonitor.onLeft.require m .reset ∧
      ∀ r, stopMonitor.onLeft.allow m .reset r → NotHot (stopMonitor.onLeft.next m .reset r) :=
    fun m hm => ⟨trivial, fun _ _ => hm⟩
  have hread : ∀ m, NotHot m → stopMonitor.onLeft.require m (.read Regs.deviceId) ∧
      ∀ r, stopMonitor.onLeft.allow m (.read Regs.deviceId) r →
        NotHot (stopMonitor.onLeft.next m (.read Regs.deviceId) r) :=
    fun m hm => ⟨trivial, fun _ _ => hm⟩
  have hprobed : ∀ m, NotHot m → Cool (Pump.probed (readParameters key).config) m :=
    fun m hm => ⟨by simp [Pump.probed], hm⟩
  -- outside a tick nothing is hot, so every transfer of the pump is allowed
  have hopened := preparePump_wp hreset hread hprobed
    (fun p m hp => close_noHotTick.run p m hp.2) configure_cool
    (setOpMode_cool .standby) m (not_hot_of_coolDriver hs)
  refine (Prog.wp_inl _ _ _ _).2 (Prog.wp_mono hopened ?_)
  rintro opened m' ⟨herror, hok⟩
  exact ⟨fun code hcode => coolDriver_of_not_hot hs (herror code hcode), hok⟩

/-- Releasing the hardware opens no hot tick. -/
theorem releaseHardware_cool : Proc.Keeps stopMonitor CoolDriver releaseHardware := by
  refine driver_cool.releaseHardware (Q := fun _ m => m.hot = false) ?_ ?_ fun _ _ h => h
  · intro s m hs
    have hstandby : Proc.Keeps stopMonitor (heldOf CoolDriver)
        (Proc.discard (onPump standby) : HeldM Unit) :=
      (onPump_keeps fun _ => charge_cool.standby).discard
    refine hstandby.wp_bind hs ?_ fun e => nomatch e
    intro _ s m hs
    exact (onPump_keeps (J := fun s => NoHotTick s.pump) fun _ => close_noHotTick).discard.run
      s m hs.2
  · exact fun s m _ hs => not_hot_of_coolDriver hs

/-- Every entry point meets the obligation between the ticks, and leaves no hot tick open. -/
theorem driverOp_stop (op : DriverOp) : Proc.Keeps stopMonitor CoolDriver op.run := by
  cases op with
  | tick => exact telemetryTick_stop
  | getStatus => exact driver_cool.handleGetStatus.discard
  | readReg addr => exact (driver_cool.handleReadReg addr).discard
  | writeReg addr value =>
      exact (driver_cool.handleWriteReg fun _ => opKeeps_stop nofun).discard
  | setLimits iinUa vbatUv =>
      refine (handleSetLimits_keeps iinUa vbatUv ?_ fun _ => ?_).discard
      · exact setGuardCurrent_keeps (fun _ => setIinLimit_stop iinUa) fun _ _ _ hs => hs
      · exact setVbatFloat_keeps calm_cool.toSettled fun _ _ hp => hp
  | setMode mode => exact (land_cool.handleSetMode mode).discard
  | setCharge on => exact (land_cool.handleSetCharge on).discard
  | runHvdcp command =>
      exact (land_cool.handleRunHvdcp whenPump_timeless landing_cool command).discard
  | deviceAdd => exact driver_cool.modify fun s => ⟨⟨rfl, rfl, rfl, rfl, rfl⟩, rfl⟩
  | prepare key usbinId => exact prepareHardware_cool key usbinId
  | release => exact releaseHardware_cool

/-- The over-temperature stop dominates in every run from the loaded driver whose hot ticks
see their input and have no landing due: standby is requested, and no conducting mode
is. -/
theorem stop_dominates {log : List (Entry DevEffect DriverState DriverOp)}
    (h : Session DriverOp.run DriverState.new log) :
    stopMonitor.Meets StopState.start (exchanges log) :=
  h.meets driverOp_stop StopState.start rfl

end

/-! ### The critical fault that hides the input -/

/-- The obligation can be checked. -/
def decidableStopRequire (m : StopState) : (o : DevEffect.Op) → Decidable (stopRequire m o)
  | .inl (.mark (.request mode)) =>
      inferInstanceAs (Decidable (m.hot = true → mode.conducting = false))
  | .inr (.point .tickDone) => inferInstanceAs (Decidable (m.hot = true → m.stopped = true))
  | .inl (.mark .configureBegin) | .inl (.mark .configured) | .inl (.read _)
  | .inl (.write _ _) | .inl .reset | .inl (.readPair _) | .inl .postResetDelay =>
      isTrue trivial
  | .inr (.point (.guard _)) | .inr (.point .landing) | .inr (.point (.fiveVLanding _))
  | .inr (.point (.adcAwake _)) | .inr (.spmi _) | .inr .now | .inr .pollGauge
  | .inr .readChargeRegs | .inr (.writeFccRaw _) | .inr .initializeBattery => isTrue trivial

instance (m : StopState) (t : List (Event DevEffect)) : Decidable (unconditionalStop.Meets m t) :=
  @Machine.decidableMeets _ unconditionalStop decidableStopRequire (fun _ _ _ => isTrue trivial)
    m t

/-- A chip at 70.0 °C on a 9 V input, with the overvoltage of `VAC` latched. -/
def hotChip : Chip := (Chip.sampling 562 780 100 774).setReg Regs.fault1Sts (bit 3)

/-- The landing of the preparation starts 2:1, and the tick after it finds the chip hot. -/
def hotLog : List (Entry DevEffect DriverState DriverOp) :=
  driverLog (.around hotChip) [.prepare none none, .tick]

/-- The same chip without the fault: the tick sees its input and stops. -/
def seenLog : List (Entry DevEffect DriverState DriverOp) :=
  driverLog (.around (Chip.sampling 562 780 100 774)) [.prepare none none, .tick]

/-- The run in which the hot tick sees its input. -/
theorem stop_dominates_seenLog : stopMonitor.Meets StopState.start (exchanges seenLog) := by
  rw [seenLog]
  exact @stop_dominates ⟨0⟩ _ (session_driverLog _ _)

/-- Without the condition the stop does not dominate: the latched fault turns the input of the
sample off, and the tick returns with the pump in 2:1. -/
theorem not_stop_dominates :
    ¬∀ log, Session (@DriverOp.run ⟨0⟩) DriverState.new log →
      unconditionalStop.Meets StopState.start (exchanges log) := by
  intro hall
  have hsession : Session (@DriverOp.run ⟨0⟩) DriverState.new hotLog := by
    rw [hotLog]
    exact session_driverLog _ _
  have hviolated : ¬unconditionalStop.Meets StopState.start (exchanges hotLog) := by
    decide +kernel
  exact hviolated (hall hotLog hsession)

end Kmdf
