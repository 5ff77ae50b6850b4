import NabuCharger.Kmdf.Bench
import NabuCharger.Kmdf.DriverRules
import NabuCharger.Proofs.GuardCurrents

/-!
# `Proofs.LimitsInOrder`: the protection limits stay in order

`GuardLimits.isConsistent` asks for ordered thresholds and for a floor below the target below
the maximum. Two properties are about who keeps it.

**One value.** `applyParameter` and `applyParameterLenient` each have their own table of names
and bounds. `candidate_eq` compares the tables, and `applyParameter_refines` says what follows:
the strict path takes a value exactly if the lenient one takes it and leaves the set in order.

**Every run.** The registry is applied as a set and checked as one. `SET_LIMITS` puts the target
and the maximum to the current the chip took, and does not look at the floor, which came from the
registry. `limits_in_order` is the condition on the requests that makes up for it.
-/

set_option autoImplicit false

namespace Ln8000.GuardLimits

/-! ### One value -/

/-- The two tables agree: same names, same bounds, same fields. -/
theorem candidate_eq (limits : GuardLimits) (name : String) (value : Nat) :
    limits.candidate name value =
      if (limits.applyParameterLenient name value).2 = true then
        some (limits.applyParameterLenient name value).1
      else none := by
  unfold candidate applyParameterLenient
  split_ifs <;> simp_all

/-- A value is taken by the strict path if and only if the lenient one takes it on a copy and the
copy is in order. The copy is then what the limits become, and otherwise they stay. -/
theorem applyParameter_refines (limits : GuardLimits) (name : String) (value : Nat) :
    ((limits.applyParameter name value).2 = true ↔
      (limits.applyParameterLenient name value).2 = true ∧
        (limits.applyParameterLenient name value).1.isConsistent = true) ∧
    ((limits.applyParameter name value).2 = true →
      (limits.applyParameter name value).1 = (limits.applyParameterLenient name value).1) ∧
    ((limits.applyParameter name value).2 = false →
      (limits.applyParameter name value).1 = limits) := by
  rw [applyParameter, candidate_eq]
  by_cases hknown : (limits.applyParameterLenient name value).2 = true
  · rw [if_pos hknown]
    -- the strict reader takes a value only if the limits stay in order
    by_cases hordered : (limits.applyParameterLenient name value).1.isConsistent = true
    · simp [hknown, hordered]
    · simp [hknown, hordered]
  · rw [if_neg hknown]
    simp [hknown]

/-! ### The current of a request -/

/-- The limits after a current was applied: it is the new target and the new maximum. -/
def cappedAt (limits : GuardLimits) (iinUa : Nat) : GuardLimits :=
  { limits with iinMaxUa := iinUa, iinTargetUa := iinUa }

/-- The floor decides whether the limits stay in order. -/
theorem isConsistent_cappedAt {limits : GuardLimits} (h : limits.isConsistent = true)
    (iinUa : Nat) : (limits.cappedAt iinUa).isConsistent = true ↔ limits.iinFloorUa ≤ iinUa := by
  simp only [isConsistent, Bool.and_eq_true, decide_eq_true_eq] at h
  obtain ⟨⟨⟨hreduce, hbypass⟩, -⟩, -⟩ := h
  have hcapped : (limits.cappedAt iinUa).isConsistent = decide (limits.iinFloorUa ≤ iinUa) := by
    show (decide (limits.tempReduceDc < limits.tempBypassDc)
      && decide (limits.tempBypassDc < limits.tempStopDc)
      && decide (limits.iinFloorUa ≤ iinUa) && decide (iinUa ≤ iinUa)) = _
    simp [hreduce, hbypass]
  rw [hcapped, decide_eq_true_eq]

end Ln8000.GuardLimits

namespace Kmdf

open Effectful Ln8000

/-! ### Every run -/

/-- The limits are in order, whatever else there is. -/
def InOrder (s : DriverState) (_ : Unit) : Prop := s.limits.isConsistent = true

/-- A request that does not cap below the floor in force: there is no pump to take it, the
encoder rejects the current (zero asks for none), or the chip's rounding of it is at least the
floor. -/
def RespectsFloor (s : DriverState) : DriverOp → Prop
  | .setLimits iinUa _ =>
      s.pump = none ∨ iinUa < Regs.iinMinUa ∨ s.limits.iinFloorUa ≤ iinOnGrid iinUa
  | _ => True

/-- The free machine requires nothing of the bus and keeps no record. -/
theorem busDeaf_free : BusDeaf (Machine.free DevEffect) := ⟨fun _ _ => trivial, fun _ _ _ => rfl⟩

/-- The order of the limits does not depend on the pump. -/
theorem pumpBlind_inOrder : PumpBlind (heldOf InOrder) := fun _ _ _ h => h

/-- The order of the limits does not depend on the clock fields. -/
theorem timeless_inOrder : DriverState.Timeless InOrder := by
  intro s s' m h hs
  show s'.limits.isConsistent = true
  rw [h.limits]
  exact hs

/-- The order of the limits survives every step of the driver. -/
theorem driver_inOrder : DriverRules (Machine.free DevEffect) InOrder :=
  busDeaf_free.driver pumpBlind_inOrder
    (fun s s' m h hs => timeless_inOrder s s' m h.toAlike hs)
    fun _ _ _ _ hs => ⟨trivial, fun _ _ => hs⟩

section
variable [LoopFuel]

/-- The order of the limits survives a landing. -/
theorem land_inOrder : LandRules (Machine.free DevEffect) InOrder :=
  busDeaf_free.land driver_inOrder pumpBlind_inOrder fun _ _ _ hs => ⟨trivial, fun _ _ => hs⟩


/-- A tick leaves the limits alone. -/
theorem telemetryTick_inOrder : Proc.Keeps (Machine.free DevEffect) InOrder telemetryTick := by
  have hheld := driver_inOrder.held
  have hfree : Held.Timeless (heldOf InOrder) := timeless_inOrder.held
  -- the guard reads the limits and does not write them
  have hprotect : ∀ obs s m, heldOf InOrder s m → (protect obs).wp (Machine.free DevEffect)
      (fun outcome s' m' => ∃ changed, outcome = .ok changed ∧ heldOf InOrder s' m') s m := by
    intro obs s m hs
    refine hheld.protect_wp (fun _ _ _ hs => hs) (A := fun _ => heldOf InOrder)
      (K := fun _ => heldOf InOrder) (fun _ _ _ hs => ⟨trivial, fun _ _ => hs⟩) ?_
      (fun _ _ _ _ _ _ hs => hs) hheld s m hs
    intro inputs s m _ _ hstrikes _ hs
    exact applyGuard_wp (fun _ _ _ hs => hs) (fun _ _ s => busDeaf_free.pump pumpBlind_inOrder s _)
      (fun s => busDeaf_free.pump pumpBlind_inOrder s _)
      (fun s => busDeaf_free.pump pumpBlind_inOrder s _) s m hstrikes hs
  have hwake : ∀ obs, Proc.Keeps (Machine.free DevEffect) (heldOf InOrder) (keepAdcAwake obs) :=
    keepAdcAwake_keeps (fun _ s => busDeaf_free.pump pumpBlind_inOrder s _)
      (fun _ _ _ _ hs => hs) fun _ _ _ hs => ⟨trivial, fun _ _ => hs⟩
  -- nor does anything else in a tick: the limits come from the registry and from `setLimits`
  have hbody : ∀ gauge s m, heldOf InOrder s m → (tickOnPump gauge).wp (Machine.free DevEffect)
      (fun _ s' m' => heldOf InOrder s' m') s m := by
    intro gauge s m hs
    refine hheld.tickOnPump_wp (L := fun _ => heldOf InOrder) (fun _ => hheld)
      (fun obs s m hs => (hwake obs).run s m hs) ?_ (fun _ _ hs => hs) gauge s m hs
    intro obs s m hs
    refine Proc.wp_mono (act_wp (hprotect obs) (fun _ => hheld) (fun _ => hfree)
      (fun _ _ _ _ _ _ hs => hs)
      (fun _ s => busDeaf_free.pump pumpBlind_inOrder s _) land_inOrder.start s m hs) ?_
    rintro outcome s m ⟨changed, hs⟩
    exact hs
  exact land_inOrder.telemetryTick driver_inOrder timeless_inOrder timeless_inOrder hbody
    (fun _ _ _ hs => hs) (fun _ _ hs => ⟨trivial, fun _ _ => hs⟩) (fun _ _ hs => hs)
    (fun _ _ hs => hs) fun _ _ hs => ⟨trivial, fun _ _ => hs⟩

omit [LoopFuel] in
/-- A current that was written is one the encoder took, and what came back is its rounding. -/
theorem decodeIinLimit_of_encode {iinUa : Nat} {code : Byte}
    (h : encodeIinLimit iinUa = .ok code) :
    Regs.iinMinUa ≤ iinUa ∧ decodeIinLimit code = iinOnGrid iinUa :=
  ⟨(encodeIinLimit_isOk_iff iinUa).1 ⟨code, h⟩, decode_encodeIinLimit h rfl⟩

/-- The code a limit request answers with is the one of the encoder. -/
theorem setIinLimit_code (iinUa : Nat) (p : Pump) (m : (Machine.free DevEffect).onLeft.State) :
    (setIinLimit iinUa).wp (Machine.free DevEffect).onLeft
      (fun outcome _ _ => ∀ code, outcome = .ok code → encodeIinLimit iinUa = .ok code) p m := by
  have hupdate : ∀ code, Proc.Keeps (Machine.free DevEffect).onLeft (fun _ _ => True)
      (update Regs.iinCtrl 0x7F code "iin_limit") := fun code =>
    Proc.Keeps.deaf (fun _ _ => trivial) (fun _ _ _ => rfl) fun _ _ _ _ => trivial
  unfold setIinLimit writeIinLimit
  rw [Proc.wp_bind, Proc.wp_bind, Proc.wp_ofExcept]
  -- the code that is returned is the one the encoder made
  cases hencode : encodeIinLimit iinUa with
  | error err =>
      rw [Proc.thenWp_error, Proc.thenWp_error]
      exact fun _ h => by cases h
  | ok code =>
      rw [Proc.thenWp_ok, Proc.wp_bind]
      refine Proc.wp_mono ((hupdate code).run p m trivial) ?_
      intro outcome p m _
      cases outcome with
      | error err =>
          rw [Proc.thenWp_error, Proc.thenWp_error]
          exact fun _ h => by cases h
      | ok _ =>
          rw [Proc.thenWp_ok, Proc.wp_pure, Proc.thenWp_ok, Proc.wp_modify_bind, Proc.wp_pure]
          exact fun _ h => h

/-- The current half of a request leaves the limits as they are, or caps them at what the chip
makes of a current the encoder took. -/
theorem setGuardCurrent_limits (iinUa : Nat) (s : Held) (m : (Machine.free DevEffect).State) :
    (setGuardCurrent iinUa).wp (Machine.free DevEffect)
      (fun _ s' _ => s'.limits = s.limits ∨
        Regs.iinMinUa ≤ iinUa ∧ s'.limits = s.limits.cappedAt (iinOnGrid iinUa)) s m := by
  refine Proc.wp_ite (fun _ => ?_) fun _ => ?_
  · rw [Proc.wp_pure]
    exact Or.inl rfl
  unfold onPump
  rw [Proc.wp_bind, Proc.wp_onPart, Proc.wp_inl]
  refine Proc.wp_mono (setIinLimit_code iinUa s.pump m) ?_
  intro outcome p m hcode
  cases outcome with
  -- the write failed: the limits are kept
  | error err =>
      rw [Proc.thenWp_ok, Proc.wp_pure]
      exact Or.inl rfl
  | ok code =>
      obtain ⟨hmin, hgrid⟩ := decodeIinLimit_of_encode (hcode code rfl)
      rw [Proc.thenWp_ok, Proc.wp_modify_bind, Proc.wp_pure]
      exact Or.inr ⟨hmin, congrArg s.limits.cappedAt hgrid⟩

/-- A request that respects the floor in force leaves the limits in order. -/
theorem handleSetLimits_inOrder {iinUa vbatUv : Nat} {s : DriverState}
    (m : (Machine.free DevEffect).State) (hfloor : RespectsFloor s (.setLimits iinUa vbatUv))
    (hs : s.limits.isConsistent = true) :
    (handleSetLimits iinUa vbatUv).wp (Machine.free DevEffect) (fun _ s' m' => InOrder s' m')
      s m := by
  have hfloat : Proc.Keeps (Machine.free DevEffect).onLeft (fun _ _ => True)
      (setVbatFloat vbatUv) :=
    Proc.Keeps.deaf (fun _ _ => trivial) (fun _ _ _ => rfl) fun _ _ _ _ => trivial
  have hsecond : ∀ answer, Proc.Keeps (Machine.free DevEffect) (heldOf InOrder)
      (setFloatVoltage vbatUv answer) := by
    intro answer
    refine Proc.Keeps.ite (fun _ => Proc.Keeps.pure _) fun _ => ?_
    refine (onPump_keeps fun s => busDeaf_free.pump pumpBlind_inOrder s _).bind fun outcome => ?_
    cases outcome <;> exact Proc.Keeps.pure _
  have hborrow : (withPump do
      let answer ← setGuardCurrent iinUa
      setFloatVoltage vbatUv answer).wp (Machine.free DevEffect)
        (fun _ s' m' => InOrder s' m') s m := by
    -- the state of the request is the one the condition is about
    refine withPump_wp (P := fun s' _ => s' = s) ?_ (fun s' _ _ h => by rw [h]; exact hs) s m rfl
    intro held m hheld
    have hlimits : held.limits = s.limits := by rw [← hheld]; rfl
    have hpump : s.pump = some held.pump := (congrArg DriverState.pump hheld).symm
    rw [Proc.wp_bind]
    refine Proc.wp_mono (setGuardCurrent_limits iinUa held m) ?_
    intro outcome held' m' hcapped
    have hkept : held'.limits.isConsistent = true := by
      rcases hcapped with hsame | ⟨hmin, hcapped⟩
      · rw [hsame, hlimits]
        exact hs
      · rw [hcapped, hlimits, GuardLimits.isConsistent_cappedAt hs]
        rcases hfloor with hnone | hlow | hfloor
        · rw [hnone] at hpump
          cases hpump
        · omega
        · exact hfloor
    cases outcome with
    | error e => exact e.elim
    | ok answer => exact (hsecond answer).run held' m' hkept
  rw [handleSetLimits, Proc.wp_bind]
  refine Proc.wp_mono hborrow ?_
  intro outcome s' m' hs'
  cases outcome with
  | error e => exact e.elim
  | ok answer =>
      rw [Proc.thenWp_ok, Proc.wp_pure]
      exact hs'

/-- The settings of a new pump are in order, whatever the registry holds. -/
theorem prepareHardware_inOrder (key : Option Registry) (usbinId : Option Nat) :
    Proc.Keeps (Machine.free DevEffect) InOrder (prepareHardware key usbinId) := by
  refine land_inOrder.prepareHardware timeless_inOrder (fun _ _ hs => ⟨trivial, fun _ _ => hs⟩)
    key ?_ usbinId
  intro s m hs
  have hordered := readParameters_isConsistent key
  exact Prog.wp_free _ (fun opened m' => ⟨fun _ _ => hs, fun _ _ => hordered⟩) m

/-- Releasing the hardware leaves the limits in order. -/
theorem releaseHardware_inOrder :
    Proc.Keeps (Machine.free DevEffect) InOrder releaseHardware := by
  have hpump : ∀ (x : PumpM Unit) (s : Held), Proc.Keeps (Machine.free DevEffect).onLeft
      (onPumpOf (heldOf InOrder) s) x := fun x s => busDeaf_free.pump pumpBlind_inOrder s x
  refine driver_inOrder.releaseHardware (Q := InOrder) ?_ (fun _ _ _ hs => hs) fun _ _ hs => hs
  intro s m hs
  have hbody : Proc.Keeps (Machine.free DevEffect) (heldOf InOrder) (do
      Proc.discard (onPump standby)
      Proc.discard (onPump close) : HeldM Unit) :=
    (onPump_keeps (hpump standby)).discard.bind fun _ => (onPump_keeps (hpump close)).discard
  exact hbody.run s m hs

/-- Every entry point keeps the limits in order, a request to cap them one that respects the
floor. -/
theorem driverOp_inOrder (op : DriverOp) (s : DriverState)
    (m : (Machine.free DevEffect).State) (hfloor : RespectsFloor s op) (hs : InOrder s m) :
    op.run.wp (Machine.free DevEffect) (fun _ s' m' => InOrder s' m') s m := by
  have hland : ∀ s m, InOrder s m →
      (Machine.free DevEffect).require m (.inr (.point .landing)) ∧
      ∀ a, (Machine.free DevEffect).allow m (.inr (.point .landing)) a →
        InOrder s ((Machine.free DevEffect).next m (.inr (.point .landing)) a) :=
    fun _ _ hs => ⟨trivial, fun _ _ => hs⟩
  -- one case per entry point; `setLimits` is the one that changes a limit
  cases op with
  | tick => exact telemetryTick_inOrder.run s m hs
  | getStatus => exact driver_inOrder.handleGetStatus.discard.run s m hs
  | readReg addr => exact (driver_inOrder.handleReadReg addr).discard.run s m hs
  | writeReg addr value =>
      have hwrite : Proc.Keeps (Machine.free DevEffect) InOrder (handleWriteReg addr value) :=
        driver_inOrder.handleWriteReg fun s => fun p m hp => ⟨trivial, fun _ _ => hp⟩
      exact hwrite.discard.run s m hs
  | setLimits iinUa vbatUv =>
      rw [DriverOp.run, Proc.wp_discard]
      exact handleSetLimits_inOrder m hfloor hs
  | setMode mode => exact (land_inOrder.handleSetMode mode).discard.run s m hs
  | setCharge on => exact (land_inOrder.handleSetCharge on).discard.run s m hs
  | runHvdcp command =>
      exact (land_inOrder.handleRunHvdcp timeless_inOrder hland command).discard.run s m hs
  | deviceAdd =>
      rw [DriverOp.run, Proc.wp_modify]
      exact hs
  | prepare key usbinId => exact (prepareHardware_inOrder key usbinId).run s m hs
  | release => exact releaseHardware_inOrder.run s m hs

/-- The limits are in order in every state a run from the loaded driver leaves, if none of its
requests caps them below the floor in force. -/
theorem limits_in_order {log : List (Entry DevEffect DriverState DriverOp)} {s' : DriverState}
    (h : Run DriverOp.run DriverState.new log s')
    (hfloor : ∀ entry ∈ log, RespectsFloor entry.start entry.op) :
    s'.limits.isConsistent = true := by
  have hkept := h.keeps_where (M := Machine.free DevEffect) (I := InOrder) (C := RespectsFloor)
    driverOp_inOrder hfloor () (by rfl)
  exact hkept (Machine.allowed_free _ ())

end

instance (s : DriverState) : (op : DriverOp) → Decidable (RespectsFloor s op)
  | .setLimits iinUa _ =>
      inferInstanceAs (Decidable
        (s.pump = none ∨ iinUa < Regs.iinMinUa ∨ s.limits.iinFloorUa ≤ iinOnGrid iinUa))
  | .tick | .getStatus | .readReg _ | .writeReg _ _ | .setMode _ | .setCharge _ | .runHvdcp _
  | .deviceAdd | .prepare _ _ | .release => isTrue trivial

/-- A driver whose registry asks for a floor of 1 A, and a request of this current. -/
def oneAmpFloor (iinUa : Nat) : List DriverOp :=
  [.prepare (some (onlyValue "IinFloorUa" 1000000)) none, .setLimits iinUa 0]

/-- A request of 2 A is above the floor. -/
theorem limits_in_order_above_floor :
    (driverLeaves (.around Chip.fiveVolt) (oneAmpFloor 2000000)).map
      (fun s => s.limits.isConsistent) = some true := by
  obtain ⟨s, hleaves⟩ :
      ∃ s, driverLeaves (.around Chip.fiveVolt) (oneAmpFloor 2000000) = some s :=
    Option.isSome_iff_exists.1 (by decide +kernel)
  have hrespects : ((driverLog (.around Chip.fiveVolt) (oneAmpFloor 2000000)).all
      fun entry => decide (RespectsFloor entry.start entry.op)) = true := by decide +kernel
  rw [hleaves]
  exact congrArg some (@limits_in_order ⟨0⟩ _ s (run_driverLog hleaves) fun entry hentry =>
    of_decide_eq_true (List.all_eq_true.1 hrespects entry hentry))

/-- A request of 0.5 A is accepted below the floor. -/
theorem not_limits_in_order : ¬∀ (log : List (Entry DevEffect DriverState DriverOp))
    (s : DriverState), Run (@DriverOp.run ⟨0⟩) DriverState.new log s →
      s.limits.isConsistent = true := by
  intro hall
  have hbroken : (driverLeaves (.around Chip.fiveVolt) (oneAmpFloor 500000)).map
      (fun s => s.limits.isConsistent) = some false := by decide +kernel
  obtain ⟨s, hleaves, hdisorder⟩ := Option.map_eq_some_iff.1 hbroken
  rw [hall _ s (run_driverLog hleaves)] at hdisorder
  cases hdisorder

end Kmdf
