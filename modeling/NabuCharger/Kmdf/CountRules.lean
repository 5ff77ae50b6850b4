import NabuCharger.Kmdf.DriverRules

/-!
# `Kmdf.CountRules`: invariants of what the tick counts

The tick counts two things from one tick to the next: the denials of 1:1, and the corrections of
the bus that brought nothing. Each is moved by one step of the tick, the protection step and the
correction, and by nothing else the driver does.

`countsOf I` is an invariant of these counts and of the limits. The rules here carry it through
every entry point for a monitor that does not hear the bus, and ask for the two steps alone.
-/

set_option autoImplicit false

namespace Kmdf

open Effectful Ln8000

variable {N : Machine DevEffect} {I : Nat → Window → GuardLimits → N.State → Prop}

/-- An invariant of the counts and the limits, as one of the driver. -/
abbrev countsOf {σ : Type} (I : Nat → Window → GuardLimits → σ → Prop) :
    DriverState → σ → Prop :=
  fun s m => I s.bypassDeniedStrikes s.window s.limits m

/-- Not the point of the protection step. -/
def HostOp.bystander : HostOp → Bool
  | .point (.guard _) => false
  | _ => true

/-- What every entry point asks for. -/
structure CountRules (N : Machine DevEffect)
    (I : Nat → Window → GuardLimits → N.State → Prop) : Prop where
  deaf : BusDeaf N
  host : ∀ o : HostOp, o.bystander = true → ∀ strikes window limits m, I strikes window limits m →
    N.require m (.inr o) ∧
      ∀ r, N.allow m (.inr o) r → I strikes window limits (N.next m (.inr o) r)
  /-- A request caps the currents. -/
  capped : ∀ strikes window limits iinUa m, I strikes window limits m →
    I strikes window { limits with iinMaxUa := iinUa, iinTargetUa := iinUa } m
  /-- A new pump brings the limits of the registry. -/
  settings : ∀ strikes window limits key m, I strikes window limits m →
    I strikes window (readParameters key).limits m

/-- The count is kept whatever time it is. -/
theorem countsOf_timeless : DriverState.Timeless (countsOf I) := by
  intro s s' m h hs
  show I s'.bypassDeniedStrikes s'.window s'.limits m
  rw [h.strikes, h.window, h.limits]
  exact hs

namespace CountRules

variable (c : CountRules N I)

include c

/-- Operations of the host that are not counted keep it. -/
theorem hostKeeps (o : HostOp) (ho : o.bystander = true) : HostKeeps N (countsOf I) o :=
  fun _ m hs => c.host o ho _ _ _ m hs

/-- So do the programs of the pump, which the count does not see. -/
theorem driver : DriverRules N (countsOf I) := by
  refine c.deaf.driver (fun _ _ _ hs => hs) ?_ fun o ho => c.hostKeeps o ?_
  · exact fun s s' m h hs => countsOf_timeless s s' m h.toAlike hs
  · cases o with
    | point p => cases ho
    | _ => rfl

/-- Whatever the pump does in the borrow. -/
theorem onPump {ε α : Type} (x : Proc BusEffect ε Pump α) :
    Proc.Keeps N (heldOf (countsOf I)) (onPump x) :=
  c.deaf.onPump (fun _ _ _ hs => hs) x

/-- A landing is not counted. -/
theorem landing : ∀ s m, countsOf I s m → N.require m (.inr (.point .landing)) ∧
    ∀ a, N.allow m (.inr (.point .landing)) a →
      countsOf I s (N.next m (.inr (.point .landing)) a) :=
  c.hostKeeps (.point .landing) rfl

variable [LoopFuel]

/-- So the landings keep it. -/
theorem land : LandRules N (countsOf I) :=
  c.deaf.land c.driver (fun _ _ _ hs => hs) fun iinMaxUa => by
    have hpoint := c.hostKeeps (.point (.fiveVLanding iinMaxUa)) rfl
    exact fun s m hs => hpoint s.released m hs

/-- The protection step of an invariant that does not read its count. -/
theorem protect (hfree : Held.Strikeless (heldOf (countsOf I)))
    (hpoint : ∀ inputs, HostKeeps N (heldOf (countsOf I)) (.point (.guard inputs)))
    (obs : Observation) : Proc.Keeps N (heldOf (countsOf I)) (protect obs) :=
  c.deaf.protect (fun _ _ _ hs => hs) c.driver.held hfree hpoint obs

/-- Waking the converter is not counted. -/
theorem keepAdcAwake (obs : Observation) :
    Proc.Keeps N (heldOf (countsOf I)) (keepAdcAwake obs) := by
  refine keepAdcAwake_keeps (fun mode s => c.deaf.pump (fun _ _ _ hs => hs) s _) ?_ ?_ obs
  · exact fun _ _ _ _ hs => hs
  · exact fun awake s m hs => c.hostKeeps (.point (.adcAwake awake)) rfl s.released m hs

/-- Neither is an observation. -/
theorem observe (gauge : GaugePoll) (status : Status) :
    Proc.Keeps N (heldOf (countsOf I)) (observe gauge status) := by
  refine ⟨fun s m hs => Proc.wp_mono (c.driver.held.observe_wp (L := fun _ => heldOf (countsOf I))
    (fun _ => c.driver.held) (fun obs s m hs => (c.keepAdcAwake obs).run s m hs)
    gauge status s m hs) ?_⟩
  rintro _ s m ⟨_, -, hs⟩
  exact hs

/-- With the pump in hand the tick asks for its two steps. -/
theorem tickOnPump
    (hprotect : ∀ obs, Proc.Keeps N (heldOf (countsOf I)) (Kmdf.protect obs))
    (hwalk : ∀ d, Proc.Keeps N (heldOf (countsOf I)) (walkWindow d)) (gauge : GaugePoll) :
    Proc.Keeps N (heldOf (countsOf I)) (tickOnPump gauge) := by
  have hheld := c.driver.held
  refine ⟨fun s m hs => hheld.tickOnPump_wp (L := fun _ => heldOf (countsOf I)) (fun _ => hheld)
    (fun obs s m hs => (c.keepAdcAwake obs).run s m hs) ?_ (fun _ _ hs => hs) gauge s m hs⟩
  intro obs s m hs
  -- the protection step alone may move the counter; what follows keeps what it left
  refine act_wp_due (K := fun _ => heldOf (countsOf I)) ?_ (fun _ => hheld) (fun _ => hwalk)
    c.land.start ?_ s m hs
  · intro s m hs
    refine Proc.wp_mono ((hprotect obs).run s m hs) ?_
    rintro (e | changed) s m hs
    · exact e.elim
    · exact ⟨changed, rfl, hs⟩
  · exact fun _ d s m hs => (hheld.dueWants countsOf_timeless.held d).run s m hs

/-- A tick, from what it does with the pump in hand. -/
theorem tick (hbody : ∀ gauge, Proc.Keeps N (heldOf (countsOf I)) (Kmdf.tickOnPump gauge)) :
    Proc.Keeps N (countsOf I) telemetryTick :=
  c.land.telemetryTick c.driver countsOf_timeless countsOf_timeless
    (fun gauge s m hs => (hbody gauge).run s m hs) (fun _ _ _ hs => hs) c.landing
    (fun _ _ hs => hs) (fun _ _ hs => hs) (c.hostKeeps (.point .tickDone) rfl)

/-- New limits are not counted. -/
theorem handleSetLimits (iinUa vbatUv : Nat) :
    Proc.Keeps N (countsOf I) (handleSetLimits iinUa vbatUv) := by
  refine handleSetLimits_keeps iinUa vbatUv ?_ fun s => c.deaf.pump (fun _ _ _ hs => hs) s _
  refine setGuardCurrent_keeps (fun s => c.deaf.pump (fun _ _ _ hs => hs) s _) ?_
  exact fun s iinUa m hs => c.capped _ _ s.limits iinUa m hs

/-- The start of the hardware is not counted. -/
theorem prepareHardware (key : Option Registry) (usbinId : Option Nat) :
    Proc.Keeps N (countsOf I) (prepareHardware key usbinId) := by
  refine c.land.prepareHardware countsOf_timeless c.landing key ?_ usbinId
  intro s m hs
  refine (Prog.wp_inl _ _ _ _).2 ?_
  have hdeaf := Prog.wp_deaf (N := N.onLeft) c.deaf.require c.deaf.next
    (preparePump (readParameters key).config) m
  refine Prog.wp_mono hdeaf ?_
  rintro opened m' rfl
  exact ⟨fun _ _ => hs, fun _ _ => c.settings _ _ s.limits key _ hs⟩

/-- Its release is not counted. -/
theorem releaseHardware : Proc.Keeps N (countsOf I) releaseHardware := by
  refine c.driver.releaseHardware (Q := countsOf I) ?_ (fun _ _ _ hs => hs) fun _ _ hs => hs
  have hbody : Proc.Keeps N (heldOf (countsOf I)) (do
      Proc.discard (Kmdf.onPump standby)
      Proc.discard (Kmdf.onPump close) : HeldM Unit) :=
    (c.onPump standby).discard.bind fun _ => (c.onPump close).discard
  exact fun s m hs => hbody.run s m hs

/-- Every entry point but the tick leaves the counts alone. -/
theorem run (op : DriverOp) (hop : op ≠ .tick) : Proc.Keeps N (countsOf I) op.run := by
  cases op with
  | tick => exact absurd rfl hop
  | getStatus => exact c.driver.handleGetStatus.discard
  | readReg addr => exact (c.driver.handleReadReg addr).discard
  | writeReg addr value => exact (c.driver.handleWriteReg fun s => c.deaf.op _).discard
  | setLimits iinUa vbatUv => exact (c.handleSetLimits iinUa vbatUv).discard
  | setMode mode => exact (c.land.handleSetMode mode).discard
  | setCharge on => exact (c.land.handleSetCharge on).discard
  | runHvdcp command => exact (c.land.handleRunHvdcp countsOf_timeless c.landing command).discard
  | deviceAdd => exact Proc.Keeps.modify fun _ _ hs => hs
  | prepare key usbinId => exact c.prepareHardware key usbinId
  | release => exact c.releaseHardware

end CountRules

end Kmdf
