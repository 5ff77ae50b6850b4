import NabuCharger.Kmdf.Bench
import NabuCharger.Kmdf.CellRules
import NabuCharger.Proofs.GuardCurrents

/-!
# `Proofs.CurrentCeiling`: the programmed current and the maximum of the guard

The input current stands in `IIN_CTRL`. It is written by the guard, by the taper near float, by
`configure` after a reset, by `SET_LIMITS` and by the landing at 5 V, and `SET_LIMITS` moves the
maximum of the guard with it.

`UnderMax` is what every order of these writers keeps: the register shows no more than the
maximum, and the profile, which the taper and `configure` write again later, becomes no more than
it in the chip. Two writers do not keep to it. The landing writes 2.7 A whatever the maximum is,
and the guard may order its floor, which a request can leave above the maximum. `KeepsToMax` is
the condition on these two (`setpoint_under_max`).
-/

set_option autoImplicit false

namespace Kmdf

open Effectful Ln8000

/-! ### What is ordered -/

/-- Rounding a request to the current grid keeps the order of requests. -/
theorem iinOnGrid_mono {a b : Nat} (h : a ≤ b) : iinOnGrid a ≤ iinOnGrid b :=
  Nat.mul_le_mul_right _ (min_le_min_right _ (Nat.div_le_div_right h))

/-- A landing at 5 V finds a maximum of at least the current it writes, and the guard orders its
floor only if the chip makes no more than the maximum of it. -/
def KeepsToMax : DevEffect.Op → Prop
  | .inr (.point (.fiveVLanding iinMaxUa)) => 2700000 ≤ iinMaxUa
  | .inr (.point (.guard inputs)) =>
      inputs.orderedUa = some inputs.limits.iinFloorUa →
        iinOnGrid inputs.limits.iinFloorUa ≤ inputs.limits.iinMaxUa
  | _ => True

/-- A restore goes to the floor, if not to a current under the maximum. -/
theorem restoreIinUa_cases (limits : GuardLimits) :
    limits.restoreIinUa = limits.iinFloorUa ∨ limits.restoreIinUa ≤ limits.iinMaxUa := by
  unfold GuardLimits.restoreIinUa
  split
  · exact Or.inr le_rfl
  · split
    · exact Or.inl rfl
    · exact Or.inr (by omega)

/-- So does every order of the guard, the taper being under the maximum. -/
theorem orderedUa_under_max {inputs : GuardInputs}
    (hmax : inputs.limits.iinTargetUa ≤ inputs.limits.iinMaxUa)
    (hkeeps : KeepsToMax (.inr (.point (.guard inputs))))
    (htaper : ∀ setpoint, inputs.deliberateIinUa = some setpoint →
      iinOnGrid setpoint ≤ inputs.limits.iinMaxUa)
    {toUa : Nat} (h : inputs.orderedUa = some toUa) : iinOnGrid toUa ≤ inputs.limits.iinMaxUa := by
  have hfloor : toUa = inputs.limits.iinFloorUa → iinOnGrid toUa ≤ inputs.limits.iinMaxUa := by
    rintro rfl
    exact hkeeps h
  have hunder : toUa ≤ inputs.limits.iinMaxUa → iinOnGrid toUa ≤ inputs.limits.iinMaxUa :=
    (iinOnGrid_le toUa).trans
  unfold GuardInputs.orderedUa at h
  -- a cut and a fold-back to the floor are under the maximum; only a restore can go up
  cases haction : inputs.action with
  | none => rw [haction] at h; cases h
  | stop reason => rw [haction] at h; cases h
  | fallbackToBypass reason =>
      rw [haction] at h
      have hresolved : (resolveBypass inputs.vbusUv inputs.sample.vbatUv inputs.deniedStrikes
        inputs.limits).current = some toUa := h
      refine hfloor ?_
      unfold resolveBypass at hresolved
      split at hresolved
      · cases hresolved
      · split at hresolved
        · cases hresolved
        · exact (Option.some.inj hresolved).symm
  | reduceCurrent ceilingUa reason =>
      rw [haction] at h
      obtain rfl : ceilingUa = toUa := Option.some.inj h
      obtain ⟨-, -, hfold, -⟩ := evaluate_eq_reduceCurrent haction
      have hband := GuardLimits.bandIinUa_eq_min inputs.limits
      refine hunder ?_
      rcases foldCeiling_eq_some hfold with h | h <;> omega
  | restoreCurrent ceilingUa reason =>
      rw [haction] at h
      obtain rfl : ceilingUa = toUa := Option.some.inj h
      obtain ⟨-, -, hceiling, -⟩ := evaluate_eq_restoreCurrent haction
      have hrestore := restoreIinUa_cases inputs.limits
      -- a restore goes to the configured current, or to the setpoint if that is less
      cases hdeliberate : inputs.deliberateIinUa with
      | none =>
          rw [hdeliberate] at hceiling
          rcases hrestore with h | h
          · exact hfloor (hceiling.trans h)
          · exact hunder (hceiling ▸ h)
      | some setpoint =>
          rw [hdeliberate] at hceiling
          have hmin : ceilingUa = min inputs.limits.restoreIinUa setpoint := hceiling
          rcases le_total inputs.limits.restoreIinUa setpoint with hle | hle
          · rw [min_eq_left hle] at hmin
            rcases hrestore with h | h
            · exact hfloor (hmin.trans h)
            · exact hunder (hmin ▸ h)
          · rw [min_eq_right hle] at hmin
            rw [hmin]
            exact htaper setpoint hdeliberate

/-! ### What every writer keeps -/

/-- The condition, as a watch. -/
def maxWatch : Machine DevEffect where
  State := Unit
  allow _ o _ := KeepsToMax o
  require _ _ := True
  next _ _ _ := ()

/-- The bus with `IIN_CTRL` as a memory, and the condition. -/
abbrev ceilingBus : Machine DevEffect :=
  iinBus.both maxWatch

/-- The ceiling bus sees the current-limit register as the cell it watches. -/
theorem cellView_ceilingBus : CellView ceilingBus.onLeft Regs.iinCtrl fun m => m.1 where
  ne_bcOp2 := by decide
  answers _ _ _ hr := hr.1
  next _ _ _ := rfl
  require_read _ := ⟨trivial, trivial⟩
  next_read _ _ := rfl

/-- The register, if it was written since the last reset, and the profile are within the maximum.
`C` is what else is known of the limits. -/
def UnderMax (C : GuardLimits → Prop) (s : DriverState) (m : ceilingBus.State) : Prop :=
  C s.limits ∧ (∀ value, m.1 = some value → decodeIinLimit value ≤ s.limits.iinMaxUa) ∧
    ∀ p, s.pump = some p → iinOnGrid p.config.iinLimitUa ≤ s.limits.iinMaxUa

variable {C : GuardLimits → Prop}

/-- An exchange that spares the limit register keeps the cell under the maximum. -/
theorem opKeeps_underMax (s : Held) {o : BusOp} (hspares : o.spares Regs.iinCtrl = true) :
    OpKeeps ceilingBus.onLeft (onPumpOf (heldOf (UnderMax C)) s) o := by
  intro p m h
  refine ⟨⟨trivial, trivial⟩, fun r _ => ⟨h.1, fun value hvalue => ?_, h.2.2⟩⟩
  have hsame : nextCell Regs.iinCtrl m.1 o = m.1 := nextCell_of_spares hspares _
  exact h.2.1 value (hsame.symm.trans hvalue)

/-- A current within the maximum may be written. -/
theorem iinWrite_underMax (s : Held) {iinUa : Nat} {code : Byte}
    (hcode : encodeIinLimit iinUa = .ok code)
    (hmax : ∀ p m, onPumpOf (heldOf (UnderMax C)) s p m → iinOnGrid iinUa ≤ s.limits.iinMaxUa)
    (current : Byte) : OpKeeps ceilingBus.onLeft (onPumpOf (heldOf (UnderMax C)) s)
      (.write Regs.iinCtrl (mergeBits current 0x7F code)) := by
  intro p m h
  refine ⟨⟨trivial, trivial⟩, fun r _ => ⟨h.1, fun value hvalue => ?_, h.2.2⟩⟩
  have hwritten := cellView_ceilingBus.cell_write m (mergeBits current 0x7F code) r
  obtain rfl := Option.some.inj (hwritten.symm.trans hvalue)
  rw [decode_mergeBits hcode]
  exact hmax p m h

/-- The maximum survives every exchange but a write of the limit register. -/
theorem rules_underMax : CellRules ceilingBus (UnderMax C) where
  timeless := by
    intro s s' m h hs
    rw [UnderMax, h.limits, h.pump]
    exact hs
  strikeless _ _ _ hs := hs
  windowless _ _ _ _ _ hs := hs
  session s p p' m h hs := by
    refine ⟨hs.1, hs.2.1, fun q hq => ?_⟩
    obtain rfl := Option.some.inj hq
    rw [h.1]
    exact hs.2.2 p rfl
  host o ho s m hs := by
    refine ⟨⟨trivial, trivial⟩, fun r _ => ?_⟩
    cases o with
    | point p => cases ho
    | _ => exact hs
  quiet s o ho := opKeeps_underMax s (spares_of_quietOp ho).1

section
variable [LoopFuel]

/-- A limit write keeps the cell under the maximum when the request rounds to no more than it. -/
theorem writeIinLimit_underMax (s : Held) {iinUa : Nat} (field : String)
    (hmax : ∀ p m, onPumpOf (heldOf (UnderMax C)) s p m → iinOnGrid iinUa ≤ s.limits.iinMaxUa) :
    Proc.Keeps ceilingBus.onLeft (onPumpOf (heldOf (UnderMax C)) s) (writeIinLimit iinUa field) :=
  writeIinLimit_keeps (rules_underMax.calm s).toSteady fun _ current hcode =>
    iinWrite_underMax s hcode hmax current

/-- An order within the maximum becomes the profile too. -/
theorem setIinLimit_underMax (s : Held) {iinUa : Nat}
    (hmax : ∀ p m, onPumpOf (heldOf (UnderMax C)) s p m → iinOnGrid iinUa ≤ s.limits.iinMaxUa) :
    Proc.Keeps ceilingBus.onLeft (onPumpOf (heldOf (UnderMax C)) s) (setIinLimit iinUa) := by
  refine setIinLimit_keeps (writeIinLimit_underMax s _ hmax) fun p m h => ⟨h.1, h.2.1, ?_⟩
  intro q hq
  obtain rfl := Option.some.inj hq
  exact hmax p m h

/-- Every step of the driver that writes the limit cell keeps it under the maximum. -/
theorem steps_underMax : CellSteps ceilingBus (UnderMax C) where
  toCellRules := rules_underMax
  taper s p m tapered field h hlow :=
    -- the taper writes less than the profile, which is within the maximum
    writeIinLimit_underMax s field fun _ _ _ => (iinOnGrid_mono hlow.le).trans (h.2.2 p rfl)
  configure s := by
    have hadc : ∀ value, OpKeeps ceilingBus.onLeft (onPumpOf (heldOf (UnderMax C)) s)
        (.write Regs.adcCtrl value) := fun value =>
      opKeeps_underMax s (by rw [BusOp.spares, isSoftReset_of_ne (by decide)]; decide)
    exact configure_keeps (rules_underMax.calm s).toModes
      { toFaultRules := rules_underMax.faultRules s
        reverse := rules_underMax.reverse s
        adc := hadc
        limit := fun p m code current h hcode =>
          iinWrite_underMax s hcode (fun _ _ _ => h.2.2 p rfl) current
        began := opKeeps_underMax s rfl
        ended := opKeeps_underMax s rfl
        standby := rules_underMax.setOpMode s .standby }
  softReset s := by
    refine softReset_keeps (rules_underMax.calm s).toModes fun current p m h => ?_
    refine ⟨⟨trivial, trivial⟩, fun r _ => ⟨h.1, fun value hvalue => ?_, h.2.2⟩⟩
    -- nothing is known of the register after a reset
    have hreset : nextCell Regs.iinCtrl m.1 (.write Regs.bcOp2 (current ||| bit 0)) = none :=
      if_pos (isSoftReset_set current)
    cases hreset.symm.trans hvalue

/-- A landing at 5 V finds a maximum of at least the current it writes. -/
theorem set5vCurrent_underMax : Proc.Keeps ceilingBus (heldOf (UnderMax C)) set5vCurrent := by
  refine ⟨fun s m hs => (Proc.wp_get_bind s m _ _).2 ?_⟩
  refine (Proc.wp_perform_bind (E := DevEffect) s m _ _ _).2 ⟨⟨trivial, trivial⟩, fun _ hr => ?_⟩
  have hmax : 2700000 ≤ s.limits.iinMaxUa := hr.2
  have hset : Proc.Keeps ceilingBus
      (heldOf (UnderMax fun limits => C limits ∧ 2700000 ≤ limits.iinMaxUa))
      (onPump (setIinLimit 2700000)) :=
    onPump_keeps fun s => setIinLimit_underMax s fun _ _ h => (iinOnGrid_le _).trans h.1.2
  refine Proc.wp_mono (hset.discard.run s _ ⟨⟨hs.1, hmax⟩, hs.2⟩) ?_
  exact fun _ _ _ h => ⟨h.1.1, h.2⟩

/-! ### The entry points -/

/-- What the limits of a driver in order are known for. -/
abbrev TargetUnder (limits : GuardLimits) : Prop := limits.iinTargetUa ≤ limits.iinMaxUa

/-- The orders of the protection step are within the maximum. -/
theorem protect_underMax (obs : Observation) (s : Held) (m : ceilingBus.State)
    (hs : heldOf (UnderMax TargetUnder) s m) :
    (protect obs).wp ceilingBus (fun outcome s' m' => ∃ changed, outcome = .ok changed ∧
      heldOf (UnderMax TargetUnder) s' m') s m := by
  have hheld := (rules_underMax (C := TargetUnder)).driver.held
  refine hheld.protect_wp rules_underMax.strikeless
    (A := fun inputs s m => (∀ toUa, inputs.orderedUa = some toUa →
      iinOnGrid toUa ≤ inputs.limits.iinMaxUa) ∧ TargetUnder inputs.limits ∧
        heldOf (UnderMax fun limits => limits = inputs.limits) s m)
    (K := fun _ => heldOf (UnderMax TargetUnder)) ?_ ?_ ?_ hheld s m hs
  · intro s m applied hs
    refine ⟨⟨trivial, trivial⟩, fun _ hkeeps => ⟨fun toUa hordered => ?_, hs.1, rfl, hs.2⟩⟩
    refine orderedUa_under_max hs.1 hkeeps.2 (fun setpoint hsetpoint => ?_) hordered
    -- the taper is below the profile
    have htaper : s.pump.taperSetpointUa obs.sample.vbatUv obs.sample.vbusUv
        (decide (obs.status.fault1Sts &&& Regs.fault1VbatOv ≠ 0)) = some setpoint := hsetpoint
    unfold Pump.taperSetpointUa at htaper
    split at htaper
    · cases htaper
    · rw [← Option.some.inj htaper]
      exact (iinOnGrid_mono (min_le_left _ _)).trans (hs.2.2 s.pump rfl)
  · rintro inputs s m - - hstrikes - ⟨hordered, htarget, hs⟩
    have hset : ∀ toUa, inputs.orderedUa = some toUa → ∀ s : Held,
        Proc.Keeps ceilingBus.onLeft
          (onPumpOf (heldOf (UnderMax fun limits => limits = inputs.limits)) s)
          (setIinLimit toUa) := by
      refine fun toUa hto s => setIinLimit_underMax s fun _ _ h => ?_
      have hsame : s.limits = inputs.limits := h.1
      rw [hsame]
      exact hordered toUa hto
    refine Proc.wp_mono (applyGuard_wp rules_underMax.strikeless hset rules_underMax.enableBypass
      (fun s => rules_underMax.setOpMode s .standby) s m hstrikes hs) fun _ s' _ h => ⟨?_, h.2⟩
    have hsame : s'.limits = inputs.limits := h.1
    exact (congrArg TargetUnder hsame).mpr htarget
  · rintro inputs s m - - - ⟨-, htarget, hs⟩
    have hsame : s.limits = inputs.limits := hs.1
    exact ⟨(congrArg TargetUnder hsame).mpr htarget, hs.2⟩

/-- A telemetry tick, which calls the guard, keeps the cell and the target under the maximum. -/
theorem telemetryTick_underMax :
    Proc.Keeps ceilingBus (UnderMax TargetUnder) telemetryTick := by
  have hheld := (rules_underMax (C := TargetUnder)).driver.held
  have hwake : ∀ obs, Proc.Keeps ceilingBus (heldOf (UnderMax TargetUnder)) (keepAdcAwake obs) := by
    refine keepAdcAwake_keeps (fun mode s => ?_) (fun _ _ _ _ hs => hs)
      fun _ _ _ hs => ⟨⟨trivial, trivial⟩, fun _ _ => hs⟩
    refine setAdcMode_keeps (rules_underMax.calm s).toSteady fun current => ?_
    exact opKeeps_underMax s (by rw [BusOp.spares, isSoftReset_of_ne (by decide)]; decide)
  exact steps_underMax.telemetryTick set5vCurrent_underMax
    (L := fun _ => UnderMax TargetUnder) (fun _ => hheld)
    (fun obs s m hs => (hwake obs).run s m hs) protect_underMax
    (fun _ _ hs => ⟨⟨trivial, trivial⟩, fun _ _ => hs⟩)
    fun _ _ hs => ⟨⟨trivial, trivial⟩, fun _ _ => hs⟩

/-- A request moves the register, the profile and the maximum together. -/
theorem setGuardCurrent_underMax (iinUa : Nat) :
    Proc.Keeps ceilingBus (heldOf (UnderMax TargetUnder)) (setGuardCurrent iinUa) := by
  refine Proc.Keeps.ite (fun _ => Proc.Keeps.pure _) fun _ => ⟨fun s m hs => ?_⟩
  rw [Proc.wp_bind]
  unfold onPump
  rw [Proc.wp_onPart, Proc.wp_inl]
  -- a request off the grid writes nothing
  cases hcode : encodeIinLimit iinUa with
  | error err =>
      refine setIinLimit_wp_error hcode ((Proc.thenWp_ok _ _ _ _ _).2 ?_)
      exact (Proc.wp_pure _ s m _).2 hs
  | ok code =>
      have hset := cellView_ceilingBus.setIinLimit_wp hcode (p := s.pump) (m := m)
        (R := fun _ m' => ∃ current, m'.1 = some (mergeBits current 0x7F code))
        (fun _ _ _ _ h => h) (fun _ => ⟨trivial, trivial⟩) fun current => ⟨current, rfl⟩
      refine Proc.wp_mono hset ?_
      rintro _ p' m' ⟨rfl, p₁, ⟨current, hcell⟩, rfl⟩
      refine (Proc.thenWp_ok _ _ _ _ _).2 ((Proc.wp_modify_bind (M := ceilingBus) _ m' _ _ _).2 ?_)
      -- the code that went out stands for the request rounded to the grid
      have happlied : decodeIinLimit code = iinOnGrid iinUa := decode_encodeIinLimit hcode rfl
      refine (Proc.wp_pure (M := ceilingBus) _ _ m' _).2
        ⟨le_rfl, fun value hvalue => ?_, fun q hq => ?_⟩
      · obtain rfl := Option.some.inj (hcell.symm.trans hvalue)
        show decodeIinLimit (mergeBits current 0x7F code) ≤ decodeIinLimit code
        rw [decode_mergeBits hcode, happlied]
      · obtain rfl := Option.some.inj hq
        show iinOnGrid iinUa ≤ decodeIinLimit code
        rw [happlied]

/-- Releasing the hardware keeps the cell and the target under the maximum. -/
theorem releaseHardware_underMax :
    Proc.Keeps ceilingBus (UnderMax TargetUnder) releaseHardware := by
  have hclose : ∀ s : Held, Proc.Keeps ceilingBus.onLeft
      (onPumpOf (heldOf (UnderMax TargetUnder)) s) close := fun s =>
    close_keeps (update_keeps (rules_underMax.calm s).toSteady (by decide) fun _ =>
      rules_underMax.quiet s _ (quietOp_write (by decide) (by decide) (by decide) _))
      fun p m h => ⟨h.1, h.2.1, fun q hq => Option.some.inj hq ▸ h.2.2 p rfl⟩
  have hbody : Proc.Keeps ceilingBus (heldOf (UnderMax TargetUnder)) (do
      Proc.discard (onPump standby)
      Proc.discard (onPump close) : HeldM Unit) :=
    (onPump_keeps fun s => rules_underMax.setOpMode s .standby).discard.bind fun _ =>
      (onPump_keeps hclose).discard
  exact rules_underMax.driver.releaseHardware (Q := UnderMax TargetUnder)
    (fun s m hs => hbody.run s m hs) (fun _ _ _ hs => hs)
    fun _ _ hs => ⟨hs.1, hs.2.1, fun _ hq => by cases hq⟩

/-- No diagnostic write, and no new pump. -/
def OnConfigured : DriverOp → Prop
  | .writeReg _ _ | .prepare _ _ => False
  | _ => True

/-- Each driver operation on a configured driver keeps the invariant, by cases on the operation. -/
theorem driverOp_underMax (op : DriverOp) (s : DriverState) (m : ceilingBus.State)
    (hop : OnConfigured op) (hs : UnderMax TargetUnder s m) :
    op.run.wp ceilingBus (fun _ s' m' => UnderMax TargetUnder s' m') s m := by
  have hland : LandRules ceilingBus (UnderMax TargetUnder) :=
    steps_underMax.land set5vCurrent_underMax
  -- one case per entry point; `writeReg` and `prepare` are not among these runs
  cases op with
  | tick => exact telemetryTick_underMax.run s m hs
  | getStatus => exact hland.handleGetStatus.discard.run s m hs
  | readReg addr => exact (hland.handleReadReg addr).discard.run s m hs
  | writeReg addr value => exact hop.elim
  | setLimits iinUa vbatUv =>
      have hlimits : Proc.Keeps ceilingBus (UnderMax TargetUnder)
          (handleSetLimits iinUa vbatUv) := by
        refine handleSetLimits_keeps iinUa vbatUv (setGuardCurrent_underMax iinUa) fun s => ?_
        refine rules_underMax.setVbatFloat s fun p m h => ⟨h.1, h.2.1, fun q hq => ?_⟩
        exact Option.some.inj hq ▸ h.2.2 p rfl
      exact hlimits.discard.run s m hs
  | setMode mode => exact (hland.handleSetMode mode).discard.run s m hs
  | setCharge on => exact (hland.handleSetCharge on).discard.run s m hs
  | runHvdcp command =>
      exact (steps_underMax.handleRunHvdcp set5vCurrent_underMax
        (fun _ _ hs => ⟨⟨trivial, trivial⟩, fun _ _ => hs⟩) command).discard.run s m hs
  | deviceAdd =>
      rw [DriverOp.run, Proc.wp_modify]
      exact hs
  | prepare key usbinId => exact hop.elim
  | release => exact releaseHardware_underMax.run s m hs

end

/-! ### Runs -/

/-- A configured driver whose profile limit is within the maximum. -/
structure ConfiguredUnderMax (s : DriverState) : Prop where
  limits : s.limits.isConsistent = true
  pump : ∃ p, s.pump = some p ∧ p.config.iinLimitUa ≤ s.limits.iinMaxUa

/-- In this trace, transfers of `IIN_CTRL` succeed, and a read returns what was written in it. -/
def IinWorks (t : List (Event DevEffect)) : Prop := iinBus.Allowed none t

/-- What the trace wrote to `IIN_CTRL` last, unless it reset the chip since. -/
def iinCtrlAfter (t : List (Event DevEffect)) : Option Byte := iinBus.after none t

/-- The watch allows every trace whose exchanges each keep to the maximum. -/
theorem allowed_maxWatch {t : List (Event DevEffect)} (h : ∀ e ∈ t, KeepsToMax e.op) :
    maxWatch.Allowed () t := by
  induction t with
  | nil => trivial
  | cons e t ih =>
      obtain ⟨hhere, hrest⟩ := List.forall_mem_cons.1 h
      exact ⟨hhere, ih hrest⟩

/-- In every run of a configured driver whose profile is within the maximum, on a bus where
transfers of `IIN_CTRL` succeed: if every landing at 5 V and every order of the floor keeps to the
maximum, then the current that stands in the register is within the maximum in force. -/
theorem setpoint_under_max [LoopFuel] {s s' : DriverState}
    {log : List (Entry DevEffect DriverState DriverOp)} (h : Run DriverOp.run s log s')
    (hs : ConfiguredUnderMax s) (hops : ∀ entry ∈ log, OnConfigured entry.op)
    (hbus : IinWorks (exchanges log)) (hkeeps : ∀ e ∈ exchanges log, KeepsToMax e.op) :
    ∀ value, iinCtrlAfter (exchanges log) = some value →
      decodeIinLimit value ≤ s'.limits.iinMaxUa := by
  obtain ⟨p, hpump, hprofile⟩ := hs.pump
  have hstart : UnderMax TargetUnder s (none, ()) := by
    refine ⟨GuardLimits.target_le_max_of_isConsistent hs.limits, ?_, fun q hq => ?_⟩
    · intro value hvalue
      cases hvalue
    obtain rfl := Option.some.inj (hpump.symm.trans hq)
    exact (iinOnGrid_le _).trans hprofile
  have hend := h.keeps_where (M := ceilingBus) (C := fun _ => OnConfigured)
    (fun op s m => driverOp_underMax op s m) hops _ hstart
    (Machine.allowed_both.2 ⟨hbus, allowed_maxWatch hkeeps⟩)
  exact ((congrArg (UnderMax TargetUnder s') (Machine.after_both _ _)).mp hend).2.1

instance (t : List (Event DevEffect)) : Decidable (IinWorks t) :=
  @Machine.decidableAllowed _ iinBus decideIinBus none t

instance : (o : DevEffect.Op) → Decidable (KeepsToMax o)
  | .inl _ => isTrue trivial
  | .inr (.point (.fiveVLanding iinMaxUa)) => inferInstanceAs (Decidable (2700000 ≤ iinMaxUa))
  | .inr (.point (.guard inputs)) =>
      inferInstanceAs (Decidable (inputs.orderedUa = some inputs.limits.iinFloorUa →
        iinOnGrid inputs.limits.iinFloorUa ≤ inputs.limits.iinMaxUa))
  | .inr (.point .tickDone) | .inr (.point .landing) | .inr (.point (.adcAwake _))
  | .inr (.spmi _) | .inr .now | .inr .pollGauge | .inr .readChargeRegs
  | .inr (.writeFccRaw _) | .inr .initializeBattery => isTrue trivial

instance : (op : DriverOp) → Decidable (OnConfigured op)
  | .writeReg _ _ | .prepare _ _ => isFalse id
  | .tick | .getStatus | .readReg _ | .setLimits _ _ | .setMode _ | .setCharge _ | .runHvdcp _
  | .deviceAdd | .release => isTrue trivial

-- a statement about a concrete log is not to be evaluated while it is read
attribute [irreducible] IinWorks iinCtrlAfter

/-- A driver with the default limits, and a pump of the default profile. -/
def configuredDriver : DriverState := { Context.new with pump := some Pump.configuredDefault }

/-- The configured driver starts with its cell under the configured maximum. -/
theorem configuredDriver_underMax : ConfiguredUnderMax configuredDriver :=
  ⟨by decide, _, rfl, by decide⟩

/-- A request of this current, and a landing on a 5 V input. -/
def cappedLanding (iinUa : Nat) : List DriverOp := [.setLimits iinUa 0, .runHvdcp 1]

/-- The run of a landing that asks for `iinUa`. -/
def cappedLandingLog (iinUa : Nat) : List (Entry DevEffect DriverState DriverOp) :=
  Session.execute Bench.answer (@DriverOp.run ⟨0⟩) (.around Chip.fiveVolt) configuredDriver
    (cappedLanding iinUa)

/-- The driver state that landing leaves, when it returns. -/
def cappedLandingLeaves (iinUa : Nat) : Option DriverState :=
  Run.leaves Bench.answer (@DriverOp.run ⟨0⟩) (.around Chip.fiveVolt) configuredDriver
    (cappedLanding iinUa)

/-- A landing that leaves a state is a run of driver operations. -/
theorem run_cappedLanding {iinUa : Nat} {s : DriverState} (h : cappedLandingLeaves iinUa = some s) :
    Run (@DriverOp.run ⟨0⟩) configuredDriver (cappedLandingLog iinUa) s :=
  Run.of_leaves (E := DevEffect) Bench.answer (@DriverOp.run ⟨0⟩) _ (.around Chip.fiveVolt) _ s h

/-- A maximum of 3 A leaves room for the landing. -/
theorem setpoint_under_max_three_amps :
    (cappedLandingLeaves 3000000).map (fun s => s.limits.iinMaxUa) = some 3000000 ∧
      ∀ value, iinCtrlAfter (exchanges (cappedLandingLog 3000000)) = some value →
        decodeIinLimit value ≤ 3000000 := by
  have hmax : (cappedLandingLeaves 3000000).map (fun s => s.limits.iinMaxUa) = some 3000000 := by
    decide +kernel
  have hops : ((cappedLandingLog 3000000).all fun entry => decide (OnConfigured entry.op)) =
      true := by decide +kernel
  have hkeeps : ((exchanges (cappedLandingLog 3000000)).all fun e => decide (KeepsToMax e.op)) =
      true := by decide +kernel
  obtain ⟨s, hleaves, hlimit⟩ := Option.map_eq_some_iff.1 hmax
  refine ⟨hmax, fun value hvalue => ?_⟩
  rw [← hlimit]
  exact @setpoint_under_max ⟨0⟩ _ s _ (run_cappedLanding hleaves) configuredDriver_underMax
    (fun entry hentry => of_decide_eq_true (List.all_eq_true.1 hops entry hentry))
    (by decide +kernel)
    (fun e he => of_decide_eq_true (List.all_eq_true.1 hkeeps e he)) value hvalue

/-- A maximum of 2 A does not: the landing puts 2.7 A into the register. -/
theorem not_setpoint_under_max : ¬∀ (s s' : DriverState)
    (log : List (Entry DevEffect DriverState DriverOp)), Run (@DriverOp.run ⟨0⟩) s log s' →
      ConfiguredUnderMax s → (∀ entry ∈ log, OnConfigured entry.op) → IinWorks (exchanges log) →
      ∀ value, iinCtrlAfter (exchanges log) = some value →
        decodeIinLimit value ≤ s'.limits.iinMaxUa := by
  intro hall
  have hmax : (cappedLandingLeaves 2000000).map (fun s => s.limits.iinMaxUa) = some 2000000 := by
    decide +kernel
  have hops : ((cappedLandingLog 2000000).all fun entry => decide (OnConfigured entry.op)) =
      true := by decide +kernel
  have hbus : IinWorks (exchanges (cappedLandingLog 2000000)) := by decide +kernel
  have hsetpoint : (iinCtrlAfter (exchanges (cappedLandingLog 2000000))).map decodeIinLimit =
      some 2700000 := by decide +kernel
  obtain ⟨s, hleaves, hlimit⟩ := Option.map_eq_some_iff.1 hmax
  obtain ⟨value, hvalue, hdecoded⟩ := Option.map_eq_some_iff.1 hsetpoint
  have hunder := hall _ s _ (run_cappedLanding hleaves) configuredDriver_underMax
    (fun entry hentry => of_decide_eq_true (List.all_eq_true.1 hops entry hentry)) hbus value hvalue
  rw [hlimit, hdecoded] at hunder
  exact absurd hunder (by decide)

end Kmdf
