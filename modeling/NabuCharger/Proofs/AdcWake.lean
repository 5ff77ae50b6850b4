import NabuCharger.Kmdf.Bench
import NabuCharger.Kmdf.CellRules

/-!
# `Proofs.AdcWake`: the flag of the ADC mode and the register

A sleeping ADC reads zero, so the tick wakes it when the hardware reports an input that the
samples do not show, and remembers so in `adc_awake`. The mode itself stands in `ADC_CTRL`, and
two other writers go there: `configure` ends with auto-hibernation, and a soft reset clears the
register. Neither looks at the flag.

`Wakes` ties the flag to what the bus knows of the register. The tick keeps it, whatever the
charge start does beside (`telemetryTick_wakes`), as long as the run is `undisturbed`: it resets
nothing and configures nothing while the flag is set. `adc_awake_normal` is the result for every
such run, and `not_adc_awake_normal` a run that is not one: the ADC sleeps, the flag says it is
awake, and no later tick wakes it.
-/

set_option autoImplicit false

namespace Ln8000

open Effectful

/-- The bits of `ADC_CTRL` that `setAdcMode` writes. -/
def adcModeMask : Byte := 0x07 <<< 5

/-- The mode bits of `ADC_CTRL` are known, and they are those of Normal. -/
def AdcNormal (known : Option Byte) : Prop :=
  known.map (fun value => value &&& adcModeMask) = some (AdcMode.normal.code <<< 5)

instance (known : Option Byte) : Decidable (AdcNormal known) :=
  inferInstanceAs (Decidable (_ = _))

/-- Setting the mode leaves Normal behind, whatever the other bits are. -/
theorem adcNormal_mergeBits (current : Byte) :
    AdcNormal (some (mergeBits current adcModeMask (AdcMode.normal.code <<< 5))) :=
  congrArg some ((mergeBits_and_self current adcModeMask _).trans (by decide))

/-- The operation rewrites the mode of the ADC without regard to the flag. -/
def BusOp.disturbs : BusOp → Bool
  | .write addr value => isSoftReset addr value
  | .mark .configureBegin => true
  | _ => false

end Ln8000

namespace Kmdf

open Effectful Ln8000

/-! ### What is watched -/

/-- The tick cannot use its samples, and the hardware reports no unplugged input. -/
def GuardInputs.starved (inputs : GuardInputs) : Bool :=
  !(inputs.sample.vbatValid && decide (inputs.sample.vbusUv > 0)) && !vacUnplugged inputs.status

/-- Exactly then the wake is asked for. -/
theorem starved_of (obs : Observation) (s : Held) (applied : Option Nat) :
    (GuardInputs.of obs s applied).starved = true ↔
      adcWakeNeeded obs.inputReadingsUsable obs.vacUnplug = some true := by
  have husable : obs.inputReadingsUsable =
      (obs.sample.vbatValid && decide (obs.sample.vbusUv > 0)) := by
    unfold Observation.inputReadingsUsable
    cases hvbus : obs.vbus with
    | ok value => rw [Except.toBool, Bool.and_true]
    | error err =>
        -- a failed read counts as zero
        have hzero : obs.sample.vbusUv = 0 := by
          show (obs.vbus.toOption.getD 0).toNat = 0
          rw [hvbus]
          rfl
        rw [hzero, Except.toBool, Bool.and_false, Bool.false_and]
        simp
  rw [husable]
  show (!(obs.sample.vbatValid && decide (obs.sample.vbusUv > 0))
    && !vacUnplugged obs.status) = true ↔ adcWakeNeeded _ (vacUnplugged obs.status) = some true
  cases vacUnplugged obs.status <;>
    cases obs.sample.vbatValid && decide (obs.sample.vbusUv > 0) <;> decide

/-- No reset and no `configure` while the flag is set, which the state follows. -/
def undisturbed : Machine DevEffect where
  State := Bool
  allow awake
    | .inl o, _ => o.disturbs = true → awake = false
    | .inr _, _ => True
  require _ _ := True
  next awake
    | .inr (.point (.adcAwake set)), _ => set
    | _, _ => awake

/-- Whether a tick was starved. -/
def starving : Machine DevEffect where
  State := Bool
  allow _ _ _ := True
  require _ _ := True
  next starved
    | .inr (.point (.guard inputs)), _ => starved || inputs.starved
    | _, _ => starved

/-- The bus with `ADC_CTRL` as a memory, and the two watches. -/
abbrev wakeBus : Machine DevEffect :=
  (((cellBus Regs.adcCtrl).alongside HostEffect).both undisturbed).both starving

/-- The monitor keeps the control register of the converter as a cell. -/
theorem cellView_wakeBus : CellView wakeBus.onLeft Regs.adcCtrl fun m => m.1.1 where
  ne_bcOp2 := by decide
  answers _ _ _ hr := hr.1.1
  next _ _ _ := rfl
  require_read _ := ⟨⟨trivial, trivial⟩, trivial⟩
  next_read _ _ := rfl

/-- The flag is the one the watch has seen, and while it is set the register shows Normal. `C` is
what else is known of the flag and the starved ticks. -/
def Wakes (C : Bool → Bool → Prop) (s : DriverState) (m : wakeBus.State) : Prop :=
  m.1.2 = s.adcAwake ∧ (s.adcAwake = true → AdcNormal m.1.1) ∧ C s.adcAwake m.2

variable {C : Bool → Bool → Prop}

/-- An operation that spares the register and is no disturbance. -/
theorem opKeeps_wakes (s : Held) {o : BusOp} (hspares : o.spares Regs.adcCtrl = true) :
    OpKeeps wakeBus.onLeft (onPumpOf (heldOf (Wakes C)) s) o := by
  intro p m h
  refine ⟨⟨⟨trivial, trivial⟩, trivial⟩, fun r _ => ⟨h.1, fun hawake => ?_, h.2.2⟩⟩
  have hsame : nextCell Regs.adcCtrl m.1.1 o = m.1.1 := nextCell_of_spares hspares _
  exact (congrArg AdcNormal hsame).mpr (h.2.1 hawake)

/-- While the flag is clear, no operation matters. -/
theorem opKeeps_wakes_asleep {s : Held} (hasleep : s.adcAwake = false) (o : BusOp) :
    OpKeeps wakeBus.onLeft (onPumpOf (heldOf (Wakes C)) s) o := by
  intro p m h
  refine ⟨⟨⟨trivial, trivial⟩, trivial⟩, fun r _ => ⟨h.1, fun hawake => ?_, h.2.2⟩⟩
  have hset : s.adcAwake = true := hawake
  rw [hasleep] at hset
  cases hset

/-- While it is set, a disturbance is not allowed. -/
theorem opKeeps_wakes_disturbs (s : Held) {o : BusOp} (hdisturbs : o.disturbs = true) :
    OpKeeps wakeBus.onLeft (onPumpOf (heldOf (Wakes C)) s) o := by
  cases hawake : s.adcAwake with
  | false => exact opKeeps_wakes_asleep hawake o
  | true =>
      intro p m h
      refine ⟨⟨⟨trivial, trivial⟩, trivial⟩, fun r hr => ?_⟩
      have hclear : m.1.2 = false := hr.1.2 hdisturbs
      rw [show m.1.2 = s.adcAwake from h.1, hawake] at hclear
      cases hclear

/-- What is kept of the converter is an invariant of these registers. -/
theorem rules_wakes : CellRules wakeBus (Wakes C) where
  timeless := by
    intro s s' m h hs
    rw [Wakes, h.adcAwake]
    exact hs
  strikeless _ _ _ hs := hs
  windowless _ _ _ _ _ hs := hs
  session _ _ _ _ _ hs := hs
  host o ho s m hs := by
    refine ⟨⟨⟨trivial, trivial⟩, trivial⟩, fun r _ => ?_⟩
    cases o with
    | point p => cases ho
    | _ => exact hs
  quiet s o ho := opKeeps_wakes s (spares_of_quietOp ho).2

/-- The setpoint of the current is another register. -/
theorem iinWrite_wakes (s : Held) (value : Byte) :
    OpKeeps wakeBus.onLeft (onPumpOf (heldOf (Wakes C)) s) (.write Regs.iinCtrl value) :=
  opKeeps_wakes s (by rw [BusOp.spares, isSoftReset_of_ne (by decide)]; decide)

section
variable [LoopFuel]

/-- So a write of the setpoint leaves the converter alone. -/
theorem writeIinLimit_wakes (s : Held) (iinUa : Nat) (field : String) :
    Proc.Keeps wakeBus.onLeft (onPumpOf (heldOf (Wakes C)) s) (writeIinLimit iinUa field) :=
  writeIinLimit_keeps (rules_wakes.calm s).toSteady fun _ _ _ => iinWrite_wakes s _

/-- So does a new limit. -/
theorem setIinLimit_wakes (s : Held) (iinUa : Nat) :
    Proc.Keeps wakeBus.onLeft (onPumpOf (heldOf (Wakes C)) s) (setIinLimit iinUa) :=
  setIinLimit_keeps (writeIinLimit_wakes s _ _) fun _ _ h => h

/-- A `configure` does not begin while the flag is set, and while it is clear the register may
hold anything. -/
theorem configure_wakes (s : Held) :
    Proc.Keeps wakeBus.onLeft (onPumpOf (heldOf (Wakes C)) s) configure := by
  have hbegan : OpKeeps wakeBus.onLeft (onPumpOf (heldOf (Wakes C)) s) (.mark .configureBegin) :=
    opKeeps_wakes_disturbs s rfl
  cases hawake : s.adcAwake with
  | false =>
      have hany := opKeeps_wakes_asleep (C := C) hawake
      exact configure_keeps (rules_wakes.calm s).toModes
        { toFaultRules := rules_wakes.faultRules s
          reverse := rules_wakes.reverse s
          adc := fun _ => hany _
          limit := fun _ _ _ _ _ _ => hany _
          began := hbegan
          ended := hany _
          standby := rules_wakes.setOpMode s .standby }
  | true =>
      refine ⟨fun p m h => ensureOpen_keeps.wp_bind h ?_ fun _ _ _ h => h⟩
      intro _ p m h
      refine (Proc.wp_bind p m _ _ _).2 ((mark_wp .configureBegin _ p m).2 ⟨(hbegan p m h).1, ?_⟩)
      intro r hr
      -- the mark is not allowed here
      have hclear : m.1.2 = false := hr.1.2 rfl
      rw [show m.1.2 = s.adcAwake from h.1, hawake] at hclear
      cases hclear

/-- So do all the steps that write setpoints. -/
theorem steps_wakes : CellSteps wakeBus (Wakes C) where
  toCellRules := rules_wakes
  taper s _ _ tapered field _ _ := writeIinLimit_wakes s tapered field
  configure := configure_wakes
  softReset s := softReset_keeps (rules_wakes.calm s).toModes fun current =>
    opKeeps_wakes_disturbs s (isSoftReset_set current)

/-- So does the setpoint for 5 V. -/
theorem set5vCurrent_wakes : Proc.Keeps wakeBus (heldOf (Wakes C)) set5vCurrent := by
  refine Proc.Keeps.get.bind fun s => Proc.Keeps.bind ?_ fun _ => ?_
  · exact Proc.Keeps.perform (M := wakeBus) fun s m hs =>
      ⟨⟨⟨trivial, trivial⟩, trivial⟩, fun _ _ => hs⟩
  · exact (onPump_keeps fun s => setIinLimit_wakes s _).discard

/-! ### The tick -/

/-- Setting the mode succeeds, and nothing but the register changes. -/
theorem setAdcMode_wp (mode : AdcMode) (s : Held) (m : wakeBus.State) :
    (onPump (setAdcMode mode)).wp wakeBus
      (fun outcome s' m' => outcome = .ok (.ok ()) ∧ s'.adcAwake = s.adcAwake ∧
        m'.1.2 = m.1.2 ∧ m'.2 = m.2 ∧
        ∃ current, m'.1.1 = some (mergeBits current adcModeMask (mode.code <<< 5))) s m := by
  -- the write is a merge into what the register was found to hold
  have hset : (setAdcMode mode).wp wakeBus.onLeft
      (fun outcome _ m' => outcome = .ok () ∧ m'.1.2 = m.1.2 ∧ m'.2 = m.2 ∧
        ∃ current, m'.1.1 = some (mergeBits current adcModeMask (mode.code <<< 5))) s.pump m := by
    refine cellView_wakeBus.update_wp (R := fun _ m' => m'.1.2 = m.1.2 ∧ m'.2 = m.2 ∧
      ∃ current, m'.1.1 = some (mergeBits current adcModeMask (mode.code <<< 5)))
      (fun _ _ _ _ h => h) (fun _ => ⟨⟨trivial, trivial⟩, trivial⟩) ?_
    exact fun current => ⟨rfl, rfl, current, rfl⟩
  unfold onPump
  rw [Proc.wp_onPart, Proc.wp_inl]
  exact Proc.wp_mono hset fun _ _ _ h => ⟨congrArg Except.ok h.1, rfl, h.2⟩

/-- What the wake leaves: a tick that asks for it finds the flag set. -/
def Woken (D : Bool → Prop) (obs : Observation) (awake starved : Bool) : Prop :=
  D starved ∧ (adcWakeNeeded obs.inputReadingsUsable obs.vacUnplug = some true → awake = true)

/-- After the wake-up of a tick the converter runs, unless a transfer failed in between. -/
theorem keepAdcAwake_wakes {D : Bool → Prop} (obs : Observation) (s : Held) (m : wakeBus.State)
    (hs : heldOf (Wakes fun _ => D) s m) :
    (keepAdcAwake obs).wp wakeBus (fun _ s' m' => heldOf (Wakes (Woken D obs)) s' m') s m := by
  have hkept : ∀ {awake : Option Bool}, awake ≠ some true →
      adcWakeNeeded obs.inputReadingsUsable obs.vacUnplug = awake →
      heldOf (Wakes (Woken D obs)) s m :=
    fun hne hneeded => ⟨hs.1, hs.2.1, hs.2.2, fun htrue => absurd (hneeded ▸ htrue) hne⟩
  refine (Proc.wp_get_bind s m _ _).2 ?_
  -- no wish, a converter to wake, or one to put to sleep
  cases hneeded : adcWakeNeeded obs.inputReadingsUsable obs.vacUnplug with
  | none => exact (Proc.wp_pure _ s m ()).2 (hkept (by decide) hneeded)
  | some needed =>
      cases needed with
      | true =>
          cases hawake : s.adcAwake with
          | true =>
              exact (Proc.wp_pure _ s m ()).2 ⟨hs.1, hs.2.1, hs.2.2, fun _ => hawake⟩
          | false =>
              -- the flag goes up only after the mode write went through, and then the cell holds
              -- the normal mode
              refine (Proc.wp_bind s m _ _ _).2 (Proc.wp_mono (setAdcMode_wp .normal s m) ?_)
              rintro _ s' m' ⟨rfl, -, -, hstarved, current, hcell⟩
              refine (Proc.thenWp_ok _ _ _ _ _).2 ((Proc.wp_modify_bind s' m' _ _ _).2 ?_)
              refine (Proc.wp_perform _ m' (E := DevEffect) _ _).2
                ⟨⟨⟨trivial, trivial⟩, trivial⟩, fun _ _ => ⟨rfl, fun _ => ?_, ?_, fun _ => rfl⟩⟩
              · exact (congrArg AdcNormal hcell).mpr (adcNormal_mergeBits current)
              · exact (congrArg D hstarved).mpr hs.2.2
      | false =>
          cases hawake : s.adcAwake with
          | false => exact (Proc.wp_pure _ s m ()).2 (hkept (by decide) hneeded)
          | true =>
              refine (Proc.wp_bind s m _ _ _).2
                (Proc.wp_mono (setAdcMode_wp .autoHibernate s m) ?_)
              rintro _ s' m' ⟨rfl, -, -, hstarved, -⟩
              refine (Proc.thenWp_ok _ _ _ _ _).2 ((Proc.wp_modify_bind s' m' _ _ _).2 ?_)
              refine (Proc.wp_perform _ m' (E := DevEffect) _ _).2
                ⟨⟨⟨trivial, trivial⟩, trivial⟩, fun _ _ => ⟨rfl, fun hset => ?_, ?_, ?_⟩⟩
              · cases hset
              · exact (congrArg D hstarved).mpr hs.2.2
              · intro htrue
                rw [hneeded] at htrue
                cases htrue

/-- The protection step marks a starved tick, and does not touch the ADC. -/
theorem protect_wakes {D : Bool → Prop} {obs : Observation}
    (hC : ∀ awake starved now, D starved → (now = true → awake = true) →
      C awake (starved || now)) (s : Held) (m : wakeBus.State)
    (hs : heldOf (Wakes (Woken D obs)) s m) :
    (protect obs).wp wakeBus
      (fun outcome s' m' => ∃ changed, outcome = .ok changed ∧ heldOf (Wakes C) s' m') s m := by
  have hheld := (rules_wakes (C := C)).driver.held
  refine (rules_wakes.driver.held).protect_wp rules_wakes.strikeless
    (A := fun _ => heldOf (Wakes C)) (K := fun _ => heldOf (Wakes C)) ?_ ?_
    (fun _ _ _ _ _ _ hs => hs) hheld s m hs
  · intro s m applied hs
    -- the mark of the protection step says whether the tick was starved
    refine ⟨⟨⟨trivial, trivial⟩, trivial⟩, fun _ _ => ⟨hs.1, hs.2.1, ?_⟩⟩
    exact hC _ _ _ hs.2.2.1 fun hnow => hs.2.2.2 ((starved_of obs s applied).1 hnow)
  · intro inputs s m _ _ hstrikes _ hs
    exact applyGuard_wp rules_wakes.strikeless (fun toUa _ s => setIinLimit_wakes s toUa)
      rules_wakes.enableBypass (fun s => rules_wakes.setOpMode s .standby) s m hstrikes hs

/-- A tick keeps the invariant, and a starved one leaves the flag set: `hD` and `hC` say what
becomes of the starved ticks counted so far, in a tick that is not starved and in one that
may be. -/
theorem telemetryTick_wakes {D : Bool → Prop} (hD : ∀ awake starved, D starved → C awake starved)
    (hC : ∀ awake starved now, D starved → (now = true → awake = true) →
      C awake (starved || now)) (s : DriverState) (m : wakeBus.State)
    (hs : Wakes (fun _ => D) s m) :
    telemetryTick.wp wakeBus (fun _ s' m' => Wakes C s' m') s m := by
  refine steps_wakes.telemetryTick_wp set5vCurrent_wakes rules_wakes
    (fun _ _ hs => ⟨hs.1, hs.2.1, hD _ _ hs.2.2⟩) (L := fun obs => Wakes (Woken D obs))
    (fun _ => rules_wakes.driver.held) keepAdcAwake_wakes (fun obs => protect_wakes hC) ?_ ?_ s m hs
  · exact fun _ _ hs => ⟨⟨⟨trivial, trivial⟩, trivial⟩, fun _ _ => hs⟩
  · exact fun _ _ hs => ⟨⟨⟨trivial, trivial⟩, trivial⟩, fun _ _ => hs⟩

end

/-! ### The other entry points -/

/-- No diagnostic write goes to the register. -/
def SparesAdc (_ : DriverState) : DriverOp → Prop
  | .writeReg addr _ => addr ≠ Regs.adcCtrl
  | _ => True

/-- A diagnostic write of another register may still be a reset. -/
theorem diagnostic_wakes {addr : RegAddr} (haddr : addr ≠ Regs.adcCtrl) (value : Byte) (s : Held) :
    OpKeeps wakeBus.onLeft (onPumpOf (heldOf (Wakes C)) s) (.write addr value) := by
  cases hreset : isSoftReset addr value with
  | true => exact opKeeps_wakes_disturbs s hreset
  | false =>
      refine opKeeps_wakes s ?_
      rw [BusOp.spares, hreset, bne_iff_ne.2 haddr]
      rfl

section
variable [LoopFuel]

/-- Closing a session leaves the ADC alone. -/
theorem close_wakes (s : Held) :
    Proc.Keeps wakeBus.onLeft (onPumpOf (heldOf (Wakes C)) s) close :=
  close_keeps (update_keeps (rules_wakes.calm s).toSteady (by decide) fun _ =>
    rules_wakes.quiet s _ (quietOp_write (by decide) (by decide) (by decide) _)) fun _ _ h => h

/-- The start of the hardware leaves what is known of the converter. -/
theorem prepareHardware_wakes (key : Option Registry) (usbinId : Option Nat) :
    Proc.Keeps wakeBus (Wakes C) (prepareHardware key usbinId) := by
  have hland : LandRules wakeBus (Wakes C) := steps_wakes.land set5vCurrent_wakes
  refine hland.prepareHardware rules_wakes.timeless
    (fun _ _ hs => ⟨⟨⟨trivial, trivial⟩, trivial⟩, fun _ _ => hs⟩) key ?_ usbinId
  intro s m hs
  -- the pump is not read, so its programs keep the invariant of the driver state
  let held : Held := { s.toContext with pump := Pump.probed (readParameters key).config }
  have hreset : ∀ m, Wakes C s m → wakeBus.onLeft.require m .reset ∧
      ∀ r, wakeBus.onLeft.allow m .reset r → Wakes C s (wakeBus.onLeft.next m .reset r) :=
    fun _ hs => ⟨⟨⟨trivial, trivial⟩, trivial⟩, fun _ _ => hs⟩
  refine (Prog.wp_inl _ _ _ _).2 (Prog.wp_mono (preparePump_wp (M := wakeBus.onLeft)
    (I := fun _ m => Wakes C s m) hreset
    (fun _ hs => ⟨⟨⟨trivial, trivial⟩, trivial⟩, fun _ _ => hs⟩) (fun _ hs => hs)
    (close_wakes held).run (configure_wakes held) (rules_wakes.setOpMode held .standby) m hs) ?_)
  exact fun opened m' h => h

/-- So does its release. -/
theorem releaseHardware_wakes : Proc.Keeps wakeBus (Wakes C) releaseHardware := by
  have hbody : Proc.Keeps wakeBus (heldOf (Wakes C)) (do
      Proc.discard (onPump standby)
      Proc.discard (onPump close) : HeldM Unit) :=
    (onPump_keeps fun s => rules_wakes.setOpMode s .standby).discard.bind fun _ =>
      (onPump_keeps close_wakes).discard
  exact rules_wakes.driver.releaseHardware (Q := Wakes C) (fun s m hs => hbody.run s m hs)
    (fun _ _ _ hs => hs) fun _ _ hs => hs

/-- Nothing is asked of the starved ticks here. -/
abbrev anyTick : Bool → Bool → Prop := fun _ _ => True

/-- What any operation of the driver leaves of the converter. -/
theorem driverOp_wakes (op : DriverOp) (s : DriverState) (m : wakeBus.State)
    (hspares : SparesAdc s op) (hs : Wakes anyTick s m) :
    op.run.wp wakeBus (fun _ s' m' => Wakes anyTick s' m') s m := by
  have hland : LandRules wakeBus (Wakes anyTick) := steps_wakes.land set5vCurrent_wakes
  -- one case per entry point; only a tick wakes the converter, and only `writeReg` could disturb it
  cases op with
  | tick =>
      exact telemetryTick_wakes (D := fun _ => True) (fun _ _ _ => trivial)
        (fun _ _ _ _ _ => trivial) s m hs
  | getStatus => exact hland.handleGetStatus.discard.run s m hs
  | readReg addr => exact (hland.handleReadReg addr).discard.run s m hs
  | writeReg addr value =>
      exact (hland.handleWriteReg (diagnostic_wakes hspares value)).discard.run s m hs
  | setLimits iinUa vbatUv =>
      have hlimits : Proc.Keeps wakeBus (Wakes anyTick) (handleSetLimits iinUa vbatUv) :=
        handleSetLimits_keeps iinUa vbatUv
          (setGuardCurrent_keeps (fun s => setIinLimit_wakes s iinUa) fun _ _ _ hs => hs)
          fun s => rules_wakes.setVbatFloat s fun _ _ h => h
      exact hlimits.discard.run s m hs
  | setMode mode => exact (hland.handleSetMode mode).discard.run s m hs
  | setCharge on => exact (hland.handleSetCharge on).discard.run s m hs
  | runHvdcp command =>
      exact (steps_wakes.handleRunHvdcp set5vCurrent_wakes (fun _ _ hs =>
        ⟨⟨⟨trivial, trivial⟩, trivial⟩, fun _ _ => hs⟩) command).discard.run s m hs
  | deviceAdd =>
      rw [DriverOp.run, Proc.wp_modify]
      exact hs
  | prepare key usbinId => exact (prepareHardware_wakes key usbinId).run s m hs
  | release => exact releaseHardware_wakes.run s m hs

end

/-! ### Runs -/

/-- The protection step of a starved tick. -/
def isStarved (e : Event DevEffect) : Bool :=
  match e.op with
  | .inr (.point (.guard inputs)) => inputs.starved
  | _ => false

/-- One exchange is enough to have been starved. -/
theorem next_starving (e : Event DevEffect) (starved : Bool) :
    starving.next starved e.op e.resp = (starved || isStarved e) := by
  obtain ⟨op, resp⟩ := e
  cases op with
  | inl o => exact (Bool.or_false starved).symm
  | inr o =>
      cases o with
      | point p =>
          cases p with
          | guard inputs => rfl
          | _ => exact (Bool.or_false starved).symm
      | _ => exact (Bool.or_false starved).symm

/-- So a trace is, if one of its exchanges was. -/
theorem after_starving (t : List (Event DevEffect)) : ∀ starved : Bool,
    starving.after starved t = (starved || t.any isStarved) := by
  induction t with
  | nil => exact fun starved => (Bool.or_false starved).symm
  | cons e t ih =>
      intro starved
      refine (ih _).trans ?_
      rw [next_starving, List.any_cons, Bool.or_assoc]

/-- The count of starved passes assumes nothing of the bus. -/
theorem allowed_starving (t : List (Event DevEffect)) : ∀ starved, starving.Allowed starved t :=
  starving.allowed_of_trusting (fun _ _ _ => trivial) t

/-- The bus on which transfers of `ADC_CTRL` succeed and a read returns what was written. -/
abbrev adcBus : Machine DevEffect := (cellBus Regs.adcCtrl).alongside HostEffect

/-- In the trace of a driver that was just loaded, transfers of `ADC_CTRL` succeed, and a read
returns what was written. -/
def AdcWorks (t : List (Event DevEffect)) : Prop := adcBus.Allowed none t

/-- Nothing resets or configures the pump while `adc_awake` is set. -/
def Undisturbed (t : List (Event DevEffect)) : Prop := undisturbed.Allowed false t

/-- What is known of `ADC_CTRL` after such a trace. -/
def adcCtrlAfter (t : List (Event DevEffect)) : Option Byte := adcBus.after none t

/-- What the three watches know after a trace. -/
def watched (known : Option Byte) (awake starved : Bool) (t : List (Event DevEffect)) :
    wakeBus.State :=
  ((adcBus.after known t, undisturbed.after awake t), starving.after starved t)

/-- Where the monitor is after a trace can be computed. -/
theorem after_wakeBus (known : Option Byte) (awake starved : Bool) (t : List (Event DevEffect)) :
    wakeBus.after ((known, awake), starved) t = watched known awake starved t :=
  (Machine.after_both t _).trans (congrArg (Prod.mk · _) (Machine.after_both t _))

/-- The monitor allows a trace whose bus and surroundings are as assumed. -/
theorem allowed_wakeBus {known : Option Byte} {awake : Bool} {t : List (Event DevEffect)}
    (hbus : adcBus.Allowed known t) (hundisturbed : undisturbed.Allowed awake t)
    (starved : Bool) : wakeBus.Allowed ((known, awake), starved) t :=
  Machine.allowed_both.2 ⟨Machine.allowed_both.2 ⟨hbus, hundisturbed⟩, allowed_starving t starved⟩

section
variable [LoopFuel]

/-- The run lemma: a run leaves the converter as its operations do. -/
theorem run_wakes {log : List (Entry DevEffect DriverState DriverOp)} {s' : DriverState}
    (h : Run DriverOp.run DriverState.new log s')
    (hspares : ∀ entry ∈ log, SparesAdc entry.start entry.op)
    (hbus : AdcWorks (exchanges log)) (hundisturbed : Undisturbed (exchanges log)) :
    Wakes anyTick s' (watched none false false (exchanges log)) := by
  have hstart : Wakes anyTick DriverState.new ((none, false), false) :=
    ⟨rfl, fun hset => Bool.noConfusion hset, trivial⟩
  have hend := h.keeps_where (M := wakeBus) (C := SparesAdc) driverOp_wakes hspares _ hstart
    (allowed_wakeBus hbus hundisturbed false)
  exact (congrArg (Wakes anyTick s') (after_wakeBus _ _ _ _)).mp hend

/-- A starved tick that starts in the invariant ends with the register in Normal. -/
theorem telemetryTick_starved {s : DriverState} {m : wakeBus.State} (hs : Wakes anyTick s m)
    {t : List (Event DevEffect)} {out : Except Empty Unit × DriverState}
    (htick : Prog.Yields (telemetryTick s) t out) (hbus : adcBus.Allowed m.1.1 t)
    (hundisturbed : undisturbed.Allowed m.1.2 t) (hstarved : t.any isStarved = true) :
    AdcNormal (adcBus.after m.1.1 t) := by
  -- the tick is watched from its own start: no tick before it counts as starved
  have hwp := telemetryTick_wakes (D := fun starved => starved = false)
    (C := fun awake starved => starved = true → awake = true)
    (fun _ _ hfalse htrue => absurd (hfalse ▸ htrue) (by decide))
    (fun _ _ _ hfalse hnow htrue => hnow (by rw [hfalse] at htrue; exact htrue)) s
    ((m.1.1, m.1.2), false) ⟨hs.1, hs.2.1, rfl⟩
  have hend := Prog.Yields.post htick hwp.prog (allowed_wakeBus hbus hundisturbed false)
  have hset := (congrArg (Wakes _ out.2) (after_wakeBus _ _ _ _)).mp hend
  have hseen : starving.after false t = true := (after_starving t false).trans hstarved
  exact hset.2.1 (hset.2.2 hseen)

/-- In every run from the loaded driver, on a bus where transfers of `ADC_CTRL` succeed: if
nothing resets or configures the pump while `adc_awake` is set, then the register shows Normal
whenever the flag is set, and after every starved tick. -/
theorem adc_awake_normal {log : List (Entry DevEffect DriverState DriverOp)} {s' : DriverState}
    (h : Run DriverOp.run DriverState.new log s')
    (hspares : ∀ entry ∈ log, SparesAdc entry.start entry.op) (hbus : AdcWorks (exchanges log))
    (hundisturbed : Undisturbed (exchanges log)) :
    (s'.adcAwake = true → AdcNormal (adcCtrlAfter (exchanges log))) ∧
    ∀ before entry, log = before ++ [entry] → entry.op = .tick →
      entry.trace.any isStarved = true → AdcNormal (adcCtrlAfter (exchanges log)) := by
  refine ⟨(run_wakes h hspares hbus hundisturbed).2.1, ?_⟩
  rintro before entry rfl htick hstarved
  obtain ⟨out, hrun, hlast, -⟩ := h.last
  rw [exchanges_concat] at hbus hundisturbed ⊢
  obtain ⟨hbus, hlastbus⟩ := (Machine.allowed_append _).1 hbus
  obtain ⟨hundisturbed, hlastundisturbed⟩ := (Machine.allowed_append _).1 hundisturbed
  -- the run before the tick left the shadow and the register in step
  have hstart := run_wakes hrun (fun e he => hspares e (List.mem_append_left _ he)) hbus
    hundisturbed
  rw [htick] at hlast
  refine (congrArg AdcNormal (Machine.after_append _ _ _ _)).mpr ?_
  exact telemetryTick_starved hstart hlast hlastbus hlastundisturbed hstarved

end

/-- Whether an answer agrees with the known register can be computed. -/
def decideAdcBus : ∀ (known : Option Byte) (o : DevEffect.Op) (r : DevEffect.Resp o),
    Decidable (adcBus.allow known o r)
  | known, .inl o, r => decidableCellAnswers Regs.adcCtrl known o r
  | _, .inr _, _ => isTrue trivial

instance (t : List (Event DevEffect)) : Decidable (AdcWorks t) :=
  @Machine.decidableAllowed _ adcBus decideAdcBus none t

/-- Whether an exchange disturbs the converter can be computed. -/
def decideUndisturbed : ∀ (awake : Bool) (o : DevEffect.Op) (r : DevEffect.Resp o),
    Decidable (undisturbed.allow awake o r)
  | awake, .inl o, _ => inferInstanceAs (Decidable (o.disturbs = true → awake = false))
  | _, .inr _, _ => isTrue trivial

instance (t : List (Event DevEffect)) : Decidable (Undisturbed t) :=
  @Machine.decidableAllowed _ undisturbed decideUndisturbed false t

instance (s : DriverState) : (op : DriverOp) → Decidable (SparesAdc s op)
  | .writeReg addr _ => inferInstanceAs (Decidable (addr ≠ Regs.adcCtrl))
  | .tick | .getStatus | .readReg _ | .setLimits _ _ | .setMode _ | .setCharge _ | .runHvdcp _
  | .deviceAdd | .prepare _ _ | .release => isTrue trivial

-- a statement about a concrete log is not to be evaluated while it is read
attribute [irreducible] AdcWorks Undisturbed adcCtrlAfter

/-- A chip whose ADC sleeps: every channel reads zero, and no input is reported unplugged. -/
def sleepingChip : Chip := Chip.sampling 0 0 0 0

/-- The first tick of the driver wakes the ADC. -/
theorem adc_awake_normal_first_tick :
    (driverLeaves (.around sleepingChip) [.prepare none none, .tick]).map
        (fun s => s.adcAwake) = some true ∧
      AdcNormal (adcCtrlAfter
        (exchanges (driverLog (.around sleepingChip) [.prepare none none, .tick]))) := by
  have hawake : (driverLeaves (.around sleepingChip) [.prepare none none, .tick]).map
      (fun s => s.adcAwake) = some true := by decide +kernel
  obtain ⟨s, hleaves, hset⟩ := Option.map_eq_some_iff.1 hawake
  have hspares : ((driverLog (.around sleepingChip) [.prepare none none, .tick]).all
      fun entry => decide (SparesAdc entry.start entry.op)) = true := by decide +kernel
  exact ⟨hawake, (@adc_awake_normal ⟨0⟩ _ s (run_driverLog hleaves)
    (fun entry hentry => of_decide_eq_true (List.all_eq_true.1 hspares entry hentry))
    (by decide +kernel) (by decide +kernel)).1 hset⟩

/-- The hardware goes away and comes back. The flag outlives it, the new `configure` puts the ADC
to sleep, and the next tick finds the flag set. -/
def restarted : List DriverOp := [.prepare none none, .tick, .release, .prepare none none, .tick]

/-- A restarted driver on a chip whose converter sleeps leaves the flag up outside the normal
mode. -/
theorem not_adc_awake_normal : ¬∀ (log : List (Entry DevEffect DriverState DriverOp))
    (s : DriverState), Run (@DriverOp.run ⟨0⟩) DriverState.new log s →
      (∀ entry ∈ log, SparesAdc entry.start entry.op) → AdcWorks (exchanges log) →
      (s.adcAwake = true → AdcNormal (adcCtrlAfter (exchanges log))) ∧
      ∀ before entry, log = before ++ [entry] → entry.op = .tick →
        entry.trace.any isStarved = true → AdcNormal (adcCtrlAfter (exchanges log)) := by
  intro hall
  have hawake : (driverLeaves (.around sleepingChip) restarted).map (fun s => s.adcAwake) =
      some true := by decide +kernel
  have hspares : ((driverLog (.around sleepingChip) restarted).all
      fun entry => decide (SparesAdc entry.start entry.op)) = true := by decide +kernel
  have hbus : AdcWorks (exchanges (driverLog (.around sleepingChip) restarted)) := by
    decide +kernel
  -- the shadow says awake, and the register holds another mode
  have hsleeps : ¬AdcNormal (adcCtrlAfter
      (exchanges (driverLog (.around sleepingChip) restarted))) := by decide +kernel
  obtain ⟨s, hleaves, hset⟩ := Option.map_eq_some_iff.1 hawake
  exact hsleeps ((hall _ s (run_driverLog hleaves) (fun entry hentry =>
    of_decide_eq_true (List.all_eq_true.1 hspares entry hentry)) hbus).1 hset)

end Kmdf
