import NabuCharger.Kmdf.Bench
import NabuCharger.Kmdf.DriverRules
import NabuCharger.Logic.History

/-!
# `Proofs.Released`: the pump is touched between a preparation and a release only

The framework calls the timer, the request queue and the hardware callbacks in its own order: a
tick or a request may come before the hardware is there, after it is gone, or in between two
preparations. In all of these a request finds no pump, so the LN8000 sees nothing, and a tick goes
by without a change of the state.

A negotiation is no exception, and it is why the monitor hears the LN8000 alone: `RUN_HVDCP` still
talks to the PMIC.
-/

set_option autoImplicit false

namespace Kmdf

open Effectful Ln8000

/-- No operation of the LN8000. -/
def offPump : DevEffect.Op → Prop
  | .inl _ => False
  | .inr _ => True

/-- The LN8000 is left alone. -/
abbrev pumpIdle : Machine DevEffect := Machine.only DevEffect offPump

/-- There is no pump. -/
def NoPump (s : DriverState) (_ : Unit) : Prop := s.pump = none

/-- A trace off the pump has no pump exchange. -/
theorem leftEvents_offPump {t : List (Event DevEffect)} (h : ∀ e ∈ t, offPump e.op) :
    leftEvents t = [] := by
  induction t with
  | nil => rfl
  | cons e t ih =>
      have hrest := ih fun e he => h e (List.mem_cons_of_mem _ he)
      obtain ⟨o, r⟩ := e
      cases o with
      | inl o => exact (h ⟨.inl o, r⟩ (List.mem_cons_self ..)).elim
      | inr o => exact hrest

/-! ### Without a pump -/

/-- With the pump in hand there is a pump: nothing is asked for. -/
theorem heldOf_noPump (s : Held) (m : Unit) : ¬heldOf NoPump s m :=
  fun hs => Option.some_ne_none s.pump hs

/-- With no pump open, nothing is run on it. -/
theorem noPump_held {α : Type} (x : HeldM α) : Proc.Keeps pumpIdle (heldOf NoPump) x :=
  ⟨fun s m hs => (heldOf_noPump s m hs).elim⟩

/-- With no pump open, no pump program transfers anything. -/
theorem noPump_pump {ε α : Type} (s : Held) (x : Proc BusEffect ε Pump α) :
    Proc.Keeps pumpIdle.onLeft (onPumpOf (heldOf NoPump) s) x :=
  ⟨fun p m hs => (heldOf_noPump { s with pump := p } m hs).elim⟩

/-- With no pump open, no exchange is made. -/
theorem noPump_op (s : Held) (o : BusOp) :
    OpKeeps pumpIdle.onLeft (onPumpOf (heldOf NoPump) s) o :=
  fun p m hs => (heldOf_noPump { s with pump := p } m hs).elim

/-- A host access does not open the pump. -/
theorem noPump_host (o : HostOp) : HostKeeps pumpIdle NoPump o :=
  fun _ _ hs => ⟨trivial, fun _ _ => hs⟩

/-- Whether a pump is open does not depend on the clock fields. -/
theorem noPump_timeless : DriverState.Timeless NoPump := fun _ _ _ h hs => h.pump.trans hs

/-- No step of the driver but `prepare` opens the pump. -/
theorem noPump_driver : DriverRules pumpIdle NoPump where
  frame _ _ _ h hs := h.pump.trans hs
  host o _ := noPump_host o
  calm s :=
    { session := fun p _ m _ hs => (heldOf_noPump { s with pump := p } m hs).elim
      reset := noPump_op s _
      read := fun _ _ => noPump_op s _
      safety := noPump_op s _
      delay := noPump_op s _
      write := fun _ _ _ => noPump_op s _
      pair := fun _ _ => noPump_op s _ }
  vinPair s := noPump_op s _

section
variable [LoopFuel]

/-- A landing does not open the pump. -/
theorem noPump_land : LandRules pumpIdle NoPump where
  toDriverRules := noPump_driver
  start :=
    { toHeldRules := noPump_driver.held
      charge := fun s =>
        { vinPair := noPump_op s _
          taper := fun _ _ _ _ _ _ => noPump_pump s _
          fault := fun _ _ _ _ => noPump_pump s _
          reverse := fun _ => noPump_pump s _
          standby := noPump_pump s _
          switching := noPump_pump s _
          enableBypass := noPump_pump s _
          recover := noPump_pump s _ }
      configure := fun s => noPump_pump s _
      softReset := fun s => noPump_pump s _ }
  five := noPump_held _

/-- The entry point brings no pump. -/
def DriverOp.bringsNone : DriverOp → Bool
  | .prepare _ _ => false
  | _ => true

/-- Every entry point but a preparation leaves the LN8000 alone when there is no pump. -/
theorem noPump_run (op : DriverOp) (hop : op.bringsNone = true) :
    Proc.Keeps pumpIdle NoPump op.run := by
  have hland := noPump_land
  have hpoint : ∀ (p : Point) s m, NoPump s m → pumpIdle.require m (.inr (.point p)) ∧
      ∀ a, pumpIdle.allow m (.inr (.point p)) a →
        NoPump s (pumpIdle.next m (.inr (.point p)) a) :=
    fun p => noPump_host (.point p)
  -- one case per entry point but `prepare`, the only one that opens a pump
  cases op with
  | tick =>
      refine hland.telemetryTick (Q := NoPump) (R := NoPump) noPump_driver noPump_timeless
        noPump_timeless (fun gauge s m hs => (heldOf_noPump s m hs).elim) ?_ (hpoint .landing) ?_ ?_
        (hpoint .tickDone)
      · exact fun s m _ hs => hs
      · exact fun s m hs => hs
      · exact fun s m hs => hs
  | getStatus => exact noPump_driver.handleGetStatus.discard
  | readReg addr => exact (noPump_driver.handleReadReg addr).discard
  | writeReg addr value =>
      exact (noPump_driver.handleWriteReg fun s => noPump_op s _).discard
  | setLimits iinUa vbatUv =>
      exact (handleSetLimits_keeps iinUa vbatUv (noPump_held _) fun s => noPump_pump s _).discard
  | setMode mode => exact (hland.handleSetMode mode).discard
  | setCharge on => exact (hland.handleSetCharge on).discard
  | runHvdcp command =>
      exact (hland.handleRunHvdcp noPump_timeless (hpoint .landing) command).discard
  | deviceAdd => exact Proc.Keeps.modify fun s m hs => hs
  | prepare key usbinId => nomatch hop
  | release =>
      refine noPump_driver.releaseHardware (Q := NoPump)
        (fun s m hs => (heldOf_noPump s m hs).elim) (fun s m _ hs => hs) fun s m hs => rfl

/-! ### Sessions -/

/-- Whether the hardware may be there: prepared, and not released since. -/
def prepared (there : Bool) (turn : Turn DevEffect Empty DriverState Unit DriverOp) : Bool :=
  match turn.op with
  | .prepare _ _ => true
  | .release => false
  | _ => there

/-- The exchanges of a tick that finds no pump. -/
def emptyTick (gauge : GaugePoll) : List (Event DevEffect) :=
  [⟨.inr .pollGauge, gauge⟩, ⟨.inr (.point .tickDone), ()⟩]

/-- A tick that finds no pump polls the gauge, and that is all. -/
theorem telemetryTick_noPump {s s' : DriverState} {t : List (Event DevEffect)}
    {r : Except Empty Unit} (h : telemetryTick.Yields s t r s') (hs : s.pump = none) :
    (∃ gauge, t = emptyTick gauge) ∧ s' = s := by
  obtain ⟨gauge, rest, rfl, hrest⟩ := h.perform_bind
  -- there is no pump to take, so the body does not run
  have hborrow : withPump (tickOnPump gauge) s = .ret (.ok none, s) := by
    unfold withPump
    rw [hs]
  obtain ⟨t₁, t₂, wants, s₁, rfl, hwants, hdone⟩ | ⟨e, -⟩ := hrest.bind_cases
  · unfold Proc.Yields at hwants
    rw [hborrow] at hwants
    cases hwants with
    | refl =>
        obtain ⟨_, rfl, -, rfl⟩ := Proc.Yields.perform_cases hdone
        exact ⟨⟨gauge, rfl⟩, rfl⟩
  · nomatch e

/-- A release leaves no pump. -/
theorem releaseHardware_noPump {s s' : DriverState} {t : List (Event DevEffect)}
    {r : Except Empty Unit} (h : releaseHardware.Yields s t r s') : s'.pump = none := by
  obtain ⟨t₁, t₂, _, s₁, rfl, -, h⟩ | ⟨e, -⟩ := h.modify_bind.bind_cases
  · obtain ⟨-, -, rfl⟩ := h.modify_cases
    rfl
  · nomatch e

/-- A turn that found no pump: no LN8000, no pump behind it, and a tick that polls the gauge and
changes nothing. -/
structure Unprepared (turn : Turn DevEffect Empty DriverState Unit DriverOp) : Prop where
  transfers : leftEvents turn.trace = []
  pump : turn.finish.pump = none
  tick : turn.op = .tick → (∃ gauge, turn.trace = emptyTick gauge) ∧ turn.finish = turn.start

/-- One entry point. -/
theorem unprepared_run {op : DriverOp} {s s' : DriverState} {t : List (Event DevEffect)}
    {r : Except Empty Unit} (h : op.run.Yields s t r s') (hs : s.pump = none)
    (hop : op.bringsNone = true) : Unprepared ⟨op, s, t, r, s'⟩ := by
  have hwp := ((noPump_run op hop).run s () hs).prog
  have hallow : pumpIdle.Allowed () t := Machine.allowed_only t ()
  constructor
  · exact leftEvents_offPump (Prog.Steps.forall_op h hwp)
  · exact Prog.Yields.post h hwp hallow
  · rintro rfl
    exact telemetryTick_noPump h hs

/-- In every session that starts without a pump, an entry point that runs while no preparation
has come since the start or the last release makes no transfer with the LN8000 and leaves no pump
behind, and a tick polls the gauge and changes nothing. A preparation alone ends this. -/
theorem pump_untouched {s s' : DriverState}
    {turns : List (Turn DevEffect Empty DriverState Unit DriverOp)}
    (h : History DriverOp.run s turns s') (hs : s.pump = none) :
    EveryStep prepared
      (fun there turn => there = false → turn.op.bringsNone = true → Unprepared turn)
      false turns := by
  have hstep : ∀ op s t r s' (m : Unit) there, (DriverOp.run op).Yields s t r s' →
      (there = false → s.pump = none) → (Machine.free DevEffect).Allowed m t → True →
        (there = false → op.bringsNone = true → Unprepared ⟨op, s, t, r, s'⟩) ∧
          (prepared there ⟨op, s, t, r, s'⟩ = false → s'.pump = none) := by
    intro op s t r s' m there hrun hnone _ _
    constructor
    · exact fun hthere hop => unprepared_run hrun (hnone hthere) hop
    -- Behind a preparation there may be a pump, behind everything else there is none.
    · intro hthere
      cases op with
      | prepare key usbinId => nomatch hthere
      | release => exact releaseHardware_noPump hrun
      | _ => exact (unprepared_run hrun (hnone hthere) rfl).pump
  exact h.everyStep hstep () false (fun _ => hs) (Machine.allowed_free _ _)
    ((everyStep_const (R := fun _ => True) false).2 fun _ _ => trivial)

end

/-- A tick too early, the hardware comes and goes, and a request and a tick too late. -/
def aroundTheHardware : List DriverOp := [.tick, .prepare none none, .release, .getStatus, .tick]

/-- Only the preparation and the release have transfers. -/
theorem pump_untouched_around_the_hardware : ∃ turns s',
    History (@DriverOp.run ⟨0⟩) DriverState.new turns s' ∧
      turns.map (fun turn => (leftEvents turn.trace).isEmpty) = [true, false, false, true, true] ∧
      EveryStep prepared
        (fun there turn => there = false → turn.op.bringsNone = true → Unprepared turn)
        false turns := by
  have hrun : (History.execute Bench.answer (@DriverOp.run ⟨0⟩) (.around Chip.fiveVolt)
      DriverState.new aroundTheHardware).map (fun ran =>
        ran.1.map fun turn => (leftEvents turn.trace).isEmpty) =
      some [true, false, false, true, true] := by decide +kernel
  obtain ⟨⟨turns, s'⟩, hturns, hempty⟩ := Option.map_eq_some_iff.1 hrun
  have hhistory := History.of_execute _ _ _ _ _ _ _ hturns
  exact ⟨turns, s', hhistory, hempty, @pump_untouched ⟨0⟩ _ _ turns hhistory rfl⟩

end Kmdf
