import NabuCharger.Kmdf.HeldRules

/-!
# `Kmdf.DriverRules`: invariants through the entry points of the driver

One rule for each entry point: the tick, the control requests, and the life cycle. A rule is
for any monitor `N` of everything the driver talks to and any invariant `P` of its state, and
asks only for the steps its program makes.

`DriverRules` is what every entry point asks for, `LandRules` adds what a landing does. An
entry point that moves the schedule of the next negotiation has a rule for an invariant that
does not read it (`DriverState.Timeless`).
Inside the borrow of the pump, `P` is seen as an invariant of the held state (`heldOf`), and
the rules of `Kmdf.HeldRules` apply. An invariant that speaks of the pump and the monitor
only is given by `whenPump`.
-/

set_option autoImplicit false

namespace Kmdf

open Effectful Ln8000

variable {N : Machine DevEffect}

/-! ### The driver state -/

/-- The held state, given back. -/
def Held.released (s : Held) : DriverState := { s.toContext with pump := some s.pump }

/-- The invariant of the driver state, as one of the held state. -/
abbrev heldOf {σ : Type} (P : DriverState → σ → Prop) : Held → σ → Prop :=
  fun s m => P s.released m

/-- An invariant of the pump, and of the monitor alone while there is no pump. -/
def whenPump {σ : Type} (I : Pump → σ → Prop) (I₀ : σ → Prop) (s : DriverState) (m : σ) :
    Prop :=
  match s.pump with
  | some p => I p m
  | none => I₀ m

/-- The same pump, limits, ADC mode and counts of the tick. -/
structure DriverState.Alike (s s' : DriverState) : Prop where
  pump : s'.pump = s.pump
  limits : s'.limits = s.limits
  adcAwake : s'.adcAwake = s.adcAwake
  strikes : s'.bypassDeniedStrikes = s.bypassDeniedStrikes
  window : s'.window = s.window

/-- The same schedule as well. -/
structure DriverState.Same (s s' : DriverState) : Prop extends s.Alike s' where
  schedule : s'.schedule = s.schedule

/-- Two states that are alike stay so when they are written back. -/
theorem Held.Alike.released {s s' : Held} (h : s.Alike s') : s.released.Alike s'.released where
  pump := congrArg some h.pump
  limits := h.limits
  adcAwake := h.adcAwake
  strikes := h.strikes
  window := h.window

/-- The invariant does not read the schedule. -/
def DriverState.Timeless {σ : Type} (P : DriverState → σ → Prop) : Prop :=
  ∀ (s s' : DriverState) m, s.Alike s' → P s m → P s' m

/-- What does not depend on the clock does not depend on it under the lock. -/
theorem DriverState.Timeless.held {σ : Type} {P : DriverState → σ → Prop}
    (h : DriverState.Timeless P) : Held.Timeless (heldOf P) :=
  fun s s' m halike hs => h s.released s'.released m halike.released hs

/-- What every program of the driver asks for. -/
structure DriverRules (N : Machine DevEffect) (P : DriverState → N.State → Prop) : Prop where
  frame : ∀ (s s' : DriverState) m, s.Same s' → P s m → P s' m
  host : ∀ o : HostOp, o.silent = true → HostKeeps N P o
  calm : ∀ s, Calm N.onLeft (onPumpOf (heldOf P) s)
  vinPair : ∀ s, OpKeeps N.onLeft (onPumpOf (heldOf P) s) (.readPair AdcChannel.vin.register)

/-- A case split on whether there is a pump. -/
theorem whenPump_elim {σ : Type} {I : Pump → σ → Prop} {I₀ : σ → Prop} {s : DriverState}
    {m : σ} {C : Prop} (hsome : ∀ p, I p m → C) (hnone : I₀ m → C) (h : whenPump I I₀ s m) :
    C := by
  unfold whenPump at h
  cases hpump : s.pump with
  | some p => rw [hpump] at h; exact hsome p h
  | none => rw [hpump] at h; exact hnone h

/-- The rule of consequence, with a pump and without. -/
theorem whenPump_mono {σ : Type} {I I' : Pump → σ → Prop} {I₀ I₀' : σ → Prop}
    {s : DriverState} {m m' : σ} (hsome : ∀ p, I p m → I' p m') (hnone : I₀ m → I₀' m')
    (h : whenPump I I₀ s m) : whenPump I' I₀' s m' := by
  unfold whenPump at h ⊢
  cases hpump : s.pump with
  | some p => rw [hpump] at h; exact hsome p h
  | none => rw [hpump] at h; exact hnone h

/-- The pump and the monitor do not hold the time. -/
theorem whenPump_timeless {σ : Type} {I : Pump → σ → Prop} {I₀ : σ → Prop} :
    DriverState.Timeless (whenPump I I₀) := by
  intro s s' m h hs
  unfold whenPump at hs ⊢
  rw [h.pump]
  exact hs

/-- An invariant of the pump and the monitor asks for the calm steps of the pump, and that
the host tells the monitor nothing. -/
theorem driverRules_whenPump {I : Pump → N.State → Prop} {I₀ : N.State → Prop}
    (hcalm : Calm N.onLeft I) (hvin : OpKeeps N.onLeft I (.readPair AdcChannel.vin.register))
    (hhost : ∀ o : HostOp, o.silent = true → HostKeeps N (whenPump I I₀) o) :
    DriverRules N (whenPump I I₀) where
  frame s s' m h hs := whenPump_timeless s s' m h.toAlike hs
  host := hhost
  calm _ := hcalm
  vinPair _ := hvin

section
variable {P : DriverState → N.State → Prop}

/-- The rules of the driver, for its programs under the lock. -/
theorem DriverRules.held (d : DriverRules N P) : HeldRules N (heldOf P) where
  frame s s' m h hs :=
    d.frame s.released s'.released m ⟨h.toAlike.released, h.schedule⟩ hs
  host o ho s m hs := d.host o ho s.released m hs
  calm := d.calm
  vinPair := d.vinPair

/-- Reading the clock is always allowed. -/
theorem DriverRules.now (d : DriverRules N P) :
    Proc.Keeps N P (monotonicMs : Proc DevEffect Empty DriverState Nat) :=
  (d.host .now rfl).perform

/-- A change that the invariant does not look at. -/
theorem DriverRules.modify (d : DriverRules N P) {f : DriverState → DriverState}
    (hf : ∀ s : DriverState, s.Same (f s)) : Proc.Keeps N P (Proc.modify f : DriverM Unit) :=
  Proc.Keeps.modify fun s m hs => d.frame s (f s) m (hf s) hs

/-- An invariant that does not read the schedule survives a move of it. -/
theorem DriverState.Timeless.modify (h : DriverState.Timeless P) {f : DriverState → DriverState}
    (hf : ∀ s : DriverState, s.Alike (f s)) : Proc.Keeps N P (Proc.modify f : DriverM Unit) :=
  Proc.Keeps.modify fun s m hs => h s (f s) m (hf s) hs

/-- A borrow of the pump ends as its program does, and without a pump it has no value. -/
theorem withPump_wp_outcome {α : Type} {x : HeldM α}
    {Q : Except Empty (Option α) → DriverState → N.State → Prop}
    (hx : ∀ s m, heldOf P s m →
      x.wp N (fun outcome s' m' => Q (outcome.map some) s'.released m') s m)
    (hnone : ∀ s m, s.pump = none → P s m → Q (.ok none) s m) (s : DriverState) (m : N.State)
    (hs : P s m) : (withPump x).wp N Q s m := by
  have hprog : (withPump x s).wp N (fun out m' => Q out.1 out.2 m') m := by
    unfold withPump
    split
    · next hpump => exact hnone s m hpump hs
    · next p hpump =>
        refine (Prog.wp_map _ _ _ _).2 ?_
        -- taking the pump out and putting it back changes nothing
        have hreleased : Held.released { s.toContext with pump := p } = s := by
          rw [Held.released, ← hpump]
        refine (hx { s.toContext with pump := p } m ?_).prog
        rw [heldOf, hreleased]
        exact hs
  unfold Proc.wp
  exact hprog

/-- A borrow of the pump leads from `P` to `Q` if its program does, and nothing happens
without a pump. -/
theorem withPump_wp {α : Type} {x : HeldM α} {Q : DriverState → N.State → Prop}
    (hx : ∀ s m, heldOf P s m → x.wp N (fun _ s' m' => heldOf Q s' m') s m)
    (hnone : ∀ s m, s.pump = none → P s m → Q s m) (s : DriverState) (m : N.State)
    (hs : P s m) : (withPump x).wp N (fun _ s' m' => Q s' m') s m :=
  withPump_wp_outcome hx hnone s m hs

/-- A program that takes the pump out and puts it back. -/
theorem withPump_keeps {α : Type} {x : HeldM α} (hx : Proc.Keeps N (heldOf P) x) :
    Proc.Keeps N P (withPump x) :=
  ⟨fun s m hs => withPump_wp (fun s m h => hx.run s m h) (fun _ _ _ h => h) s m hs⟩

variable [LoopFuel]

/-- The driver's sample of the input voltage. -/
theorem DriverRules.driverVin (d : DriverRules N P) : Proc.Keeps N P driverVin :=
  (withPump_keeps d.held.heldVin).bind fun _ => Proc.Keeps.pure _

/-- The negotiation works on the PMIC and its own part of the state. -/
theorem DriverRules.onDriverHvdcp (d : DriverRules N P) {α : Type} (x : HvdcpM α) :
    Proc.Keeps N P (onDriverHvdcp x) := by
  refine Proc.Keeps.handled x ?_ ?_
  · intro o s m hs
    cases o with
    | spmi o =>
        obtain ⟨hreq, hans⟩ := d.host (.spmi o) rfl s m hs
        exact ⟨hreq, fun r hr => hans r hr⟩
    | readVin => exact outcome_keeps d.driverVin s m hs
  · exact fun st s m hs => d.frame s _ m ⟨⟨rfl, rfl, rfl, rfl, rfl⟩, rfl⟩ hs

/-- What a landing asks for: a charge start, and the current of the 5 V bus. -/
structure LandRules (N : Machine DevEffect) (P : DriverState → N.State → Prop) : Prop
    extends DriverRules N P where
  start : StartRules N (heldOf P)
  five : Proc.Keeps N (heldOf P) set5vCurrent

/-- The landing itself may start from an invariant `Q` that its first point turns into `P`. -/
theorem LandRules.runHvdcpAndLand_wp (r : LandRules N P) {Q : DriverState → N.State → Prop}
    (hpoint : ∀ s m, Q s m → N.require m (.inr (.point .landing)) ∧
      ∀ a, N.allow m (.inr (.point .landing)) a → P s (N.next m (.inr (.point .landing)) a))
    (s : DriverState) (m : N.State) (hs : Q s m) :
    runHvdcpAndLand.wp N (fun _ s' m' => P s' m') s m := by
  -- after the mark of the landing everything keeps the invariant
  have hrest : Proc.Keeps N P (do
      let pumpVbatUv ← withPump (sampleVbatUv 4000000)
      let s ← Proc.get
      let vbatUv := anchorCellVbatUv s.fgVbattUv (pumpVbatUv.getD 4000000)
      let result ← onDriverHvdcp (runNegotiate s.usbinId vbatUv)
      let _ ← withPump (landOnPump vbatUv)
      pure (negotiateCode result)) := by
    refine (withPump_keeps (r.held.sampleVbatUv _)).bind fun pumpVbatUv => ?_
    refine Proc.Keeps.get.bind fun s => (r.onDriverHvdcp _).bind fun result => ?_
    exact (withPump_keeps (r.start.landOnPump r.five _)).bind fun _ => Proc.Keeps.pure _
  obtain ⟨hreq, hans⟩ := hpoint s m hs
  refine (Proc.wp_bind _ _ _ _ _).2 ((Proc.wp_perform s m (E := DevEffect) _ _).2 ⟨hreq, ?_⟩)
  intro a ha
  exact hrest.run s _ (hans a ha)

omit [LoopFuel] in
/-- The time is a variable here: the kernel would unfold a sum of milliseconds. -/
theorem alike_hvdcpRetryNextMs (ms : Nat) (s : DriverState) :
    s.Alike { s with hvdcpRetryNextMs := ms } := ⟨rfl, rfl, rfl, rfl, rfl⟩

omit [LoopFuel] in
/-- The schedule of the retries is part of the time. -/
theorem DriverRules.scheduleOrClear (d : DriverRules N P) (hfree : DriverState.Timeless P)
    (code : Int) : Proc.Keeps N P (scheduleOrClearSuperuserRetry code) := by
  refine Proc.Keeps.get.bind fun s => Proc.Keeps.ite (fun _ => ?_) fun _ => ?_
  · refine Proc.Keeps.ite (fun _ => hfree.modify fun s => ⟨rfl, rfl, rfl, rfl, rfl⟩) fun _ => ?_
    refine Proc.Keeps.bind (hfree.modify fun s => ⟨rfl, rfl, rfl, rfl, rfl⟩) fun _ => ?_
    refine Proc.Keeps.when fun _ => d.now.bind fun now => ?_
    exact hfree.modify (alike_hvdcpRetryNextMs _)
  · exact hfree.modify fun s => ⟨rfl, rfl, rfl, rfl, rfl⟩

/-- So is the edge of the input. -/
theorem DriverRules.armHvdcpInputEdge (d : DriverRules N P) :
    Proc.Keeps N P armHvdcpInputEdge :=
  d.driverVin.bind fun _ => d.modify fun _ => ⟨⟨rfl, rfl, rfl, rfl, rfl⟩, rfl⟩

/-- What is due after a tick leads from `Q` to `R`, where `Q` is what the tick left and `P`
what the landing keeps. -/
theorem LandRules.tickLandings_wp (r : LandRules N P) {Q R : DriverState → N.State → Prop}
    (d : DriverRules N Q) (hfree : DriverState.Timeless P) (hfreeQ : DriverState.Timeless Q)
    (hpoint : ∀ s m, Q s m → N.require m (.inr (.point .landing)) ∧
      ∀ a, N.allow m (.inr (.point .landing)) a → P s (N.next m (.inr (.point .landing)) a))
    (hQ : ∀ s m, Q s m → R s m) (hP : ∀ s m, P s m → R s m) (wants : Option Wants)
    (s : DriverState) (m : N.State) (hs : Q s m) :
    (tickLandings wants).wp N (fun _ s' m' => R s' m') s m := by
  -- a negotiation leaves `Q` at its first point and returns in `P`
  have hland : ∀ {rest : Int → DriverM Unit}, (∀ code, Proc.Keeps N P (rest code)) →
      ∀ s m, Q s m → (runHvdcpAndLand >>= rest).wp N (fun _ s' m' => R s' m') s m := by
    intro rest hrest s m hs
    rw [Proc.wp_bind]
    refine Proc.wp_mono (r.runHvdcpAndLand_wp hpoint s m hs) ?_
    rintro (e | code) s m hs
    · nomatch e
    · exact Proc.wp_mono ((hrest code).run s m hs) fun _ s' m' h' => hP s' m' h'
  have harmed : ∀ code, Proc.Keeps N P (do
      scheduleOrClearSuperuserRetry code
      Kmdf.armHvdcpInputEdge) :=
    fun code => (r.scheduleOrClear hfree code).bind fun _ => r.armHvdcpInputEdge
  -- the branches of `runDue` in its order: re-plug, retry, re-elevation
  cases wants with
  | none => exact (Proc.wp_pure _ s m ()).2 (hQ s m hs)
  | some wants =>
      refine (Proc.Keeps.get (M := N) (I := Q)).wp_bind hs ?_ fun e => nomatch e
      intro ctx s m hs
      split
      · exact (Proc.wp_pure _ s m ()).2 (hQ s m hs)
      split
      · refine Proc.Keeps.wp_bind (d.modify fun s => by exact ⟨⟨rfl, rfl, rfl, rfl, rfl⟩, rfl⟩) hs
          ?_ fun e => nomatch e
        exact fun _ s m hs => hland harmed s m hs
      split
      · -- the retry moves its own schedule first, which `Q` does not look at
        refine Proc.Keeps.wp_bind (hfreeQ.modify fun s => by exact ⟨rfl, rfl, rfl, rfl, rfl⟩) hs ?_
          fun e => nomatch e
        intro _ s m hs
        refine d.now.wp_bind hs ?_ fun e => nomatch e
        intro now s m hs
        refine Proc.Keeps.wp_bind (hfreeQ.modify (alike_hvdcpRetryNextMs _)) hs ?_
          fun e => nomatch e
        refine fun _ s m hs => hland (fun code => ?_) s m hs
        exact (r.scheduleOrClear hfree code).bind fun _ =>
          Proc.Keeps.when fun _ => r.armHvdcpInputEdge
      split
      · exact hland harmed s m hs
      · exact (Proc.wp_pure _ s m ()).2 (hQ s m hs)

/-- A tick: `P` between the entry points, `Q` when the pump is returned, `R` before its
last point. -/
theorem LandRules.telemetryTick (r : LandRules N P) {Q R : DriverState → N.State → Prop}
    (d : DriverRules N Q) (hfree : DriverState.Timeless P) (hfreeQ : DriverState.Timeless Q)
    (hbody : ∀ gauge s m, heldOf P s m →
      (tickOnPump gauge).wp N (fun _ s' m' => heldOf Q s' m') s m)
    (hnone : ∀ s m, s.pump = none → P s m → Q s m)
    (hpoint : ∀ s m, Q s m → N.require m (.inr (.point .landing)) ∧
      ∀ a, N.allow m (.inr (.point .landing)) a → P s (N.next m (.inr (.point .landing)) a))
    (hQ : ∀ s m, Q s m → R s m) (hP : ∀ s m, P s m → R s m)
    (hdone : ∀ s m, R s m → N.require m (.inr (.point .tickDone)) ∧
      ∀ a, N.allow m (.inr (.point .tickDone)) a → P s (N.next m (.inr (.point .tickDone)) a)) :
    Proc.Keeps N P telemetryTick := by
  -- the gauge is polled before the pump is taken
  refine (r.host .pollGauge rfl).perform.bind fun gauge => ⟨fun s m hs => ?_⟩
  refine (Proc.wp_bind _ _ _ _ _).2 (Proc.wp_mono (withPump_wp (hbody gauge) hnone s m hs) ?_)
  rintro (e | wants) s m hs
  · nomatch e
  refine (Proc.wp_bind _ _ _ _ _).2
    (Proc.wp_mono (r.tickLandings_wp d hfree hfreeQ hpoint hQ hP wants.join s m hs) ?_)
  rintro (e | _) s m hs
  · nomatch e
  exact (Proc.wp_perform s m (E := DevEffect) _ _).2 (hdone s m hs)

/-! ### A monitor that does not hear the bus -/

/-- No transfer concerns the monitor. -/
structure BusDeaf (N : Machine DevEffect) : Prop where
  require : ∀ m o, N.require m (.inl o)
  next : ∀ m o r, N.next m (.inl o) r = m

/-- The invariant does not read the pump. -/
def PumpBlind {σ : Type} (J : Held → σ → Prop) : Prop :=
  ∀ (s : Held) p m, J s m → J { s with pump := p } m

section
variable {J : Held → N.State → Prop}

omit [LoopFuel] in
/-- A monitor that does not hear the pump's bus is kept by every program of the pump. -/
theorem BusDeaf.pump (h : BusDeaf N) (hJ : PumpBlind J) (s : Held) {ε α : Type}
    (x : Proc BusEffect ε Pump α) : Proc.Keeps N.onLeft (onPumpOf J s) x :=
  Proc.Keeps.deaf h.require h.next fun p p' m hp => hJ { s with pump := p } p' m hp

omit [LoopFuel] in
/-- It is kept by every operation of that bus. -/
theorem BusDeaf.op (h : BusDeaf N) {I : Pump → N.State → Prop} (o : BusOp) :
    OpKeeps N.onLeft I o := by
  refine fun p m hp => ⟨h.require m o, fun r _ => ?_⟩
  rw [show N.onLeft.next m o r = m from h.next m o r]
  exact hp

omit [LoopFuel] in
/-- So it is by the pump's programs as the driver runs them. -/
theorem BusDeaf.onPump (h : BusDeaf N) (hJ : PumpBlind J) {ε α : Type}
    (x : Proc BusEffect ε Pump α) : Proc.Keeps N J (onPump x) :=
  onPump_keeps fun s => h.pump hJ s x

omit [LoopFuel] in
/-- In particular the calm operations keep it. -/
theorem BusDeaf.calm (h : BusDeaf N) (hJ : PumpBlind J) (s : Held) :
    Calm N.onLeft (onPumpOf J s) where
  session p p' m _ hp := hJ { s with pump := p } p' m hp
  reset := h.op _
  read _ _ := h.op _
  safety := h.op _
  delay := h.op _
  write _ _ _ := h.op _
  pair _ _ := h.op _

omit [LoopFuel] in
/-- Then an invariant that does not read the pump asks for its frame and the host. -/
theorem BusDeaf.held (h : BusDeaf N) (hJ : PumpBlind J)
    (hframe : ∀ (s s' : Held) m, s.Same s' → J s m → J s' m)
    (hhost : ∀ o : HostOp, o.silent = true → HostKeeps N J o) : HeldRules N J where
  frame := hframe
  host := hhost
  calm := h.calm hJ
  vinPair _ := h.op _

/-- So does every start of a charge. -/
theorem BusDeaf.start (h : BusDeaf N) (hJ : PumpBlind J) (hheld : HeldRules N J) :
    StartRules N J where
  toHeldRules := hheld
  charge s :=
    { vinPair := h.op _
      taper := fun _ _ _ _ _ _ => h.pump hJ s _
      fault := fun _ _ _ _ => h.pump hJ s _
      reverse := fun _ => h.pump hJ s _
      standby := h.pump hJ s _
      switching := h.pump hJ s _
      enableBypass := h.pump hJ s _
      recover := h.pump hJ s _ }
  configure s := h.pump hJ s _
  softReset s := h.pump hJ s _

/-- The protection step asks for its point, and for an invariant that does not read the denials
of 1:1. -/
theorem BusDeaf.protect (h : BusDeaf N) (hJ : PumpBlind J) (hheld : HeldRules N J)
    (hfree : Held.Strikeless J) (hpoint : ∀ inputs, HostKeeps N J (.point (.guard inputs)))
    (obs : Observation) : Proc.Keeps N J (protect obs) := by
  refine ⟨fun s m hs => Proc.wp_mono (hheld.protect_wp hfree (A := fun _ => J) (K := fun _ => J)
    (fun s m _ hs => hpoint _ s m hs) ?_ (fun _ _ _ _ _ _ hs => hs) hheld s m hs) ?_⟩
  · intro inputs s m _ _ hstrikes _ hs
    exact applyGuard_wp hfree (fun _ _ s => h.pump hJ s _) (fun s => h.pump hJ s _)
      (fun s => h.pump hJ s _) s m hstrikes hs
  · rintro _ s m ⟨_, -, hs⟩
    exact hs

end

omit [LoopFuel] in
/-- So do the programs of the driver, if its silent operations of the host do. -/
theorem BusDeaf.driver (h : BusDeaf N) (hP : PumpBlind (heldOf P))
    (hframe : ∀ (s s' : DriverState) m, s.Same s' → P s m → P s' m)
    (hhost : ∀ o : HostOp, o.silent = true → HostKeeps N P o) : DriverRules N P where
  frame := hframe
  host := hhost
  calm := h.calm hP
  vinPair _ := h.op _

/-- So do the landings, if the setpoint for 5 V does. -/
theorem BusDeaf.land (h : BusDeaf N) (d : DriverRules N P) (hP : PumpBlind (heldOf P))
    (hfive : ∀ iinMaxUa, HostKeeps N (heldOf P) (.point (.fiveVLanding iinMaxUa))) :
    LandRules N P where
  toDriverRules := d
  start := h.start hP d.held
  five := Proc.Keeps.get.bind fun _ => (hfive _).perform.bind fun _ => (h.onPump hP _).discard

/-! ### Requests -/

/-- An answer filled from the last sample. -/
theorem DriverRules.fillSample (d : DriverRules N P) (answer : StatusAnswer) :
    Proc.Keeps N P (fillSample answer) := by
  have hsample : Proc.Keeps N (heldOf P) (sampleForStatus answer) := by
    refine (d.held.readAdc .vbat).bind fun vbat => (d.held.readAdc .vin).bind fun vbus => ?_
    exact (d.held.readAdc .iin).bind fun iin => (d.held.readAdc .dieTemp).bind fun temp =>
      Proc.Keeps.pure _
  refine Proc.Keeps.get.bind fun s => ?_
  cases s.telemetry.lastSample with
  | some sample =>
      exact Proc.Keeps.ite (fun _ => Proc.Keeps.pure _) fun _ => Proc.Keeps.pure _
  | none => exact (withPump_keeps hsample).bind fun _ => Proc.Keeps.pure _

/-- The status request. -/
theorem DriverRules.handleGetStatus (d : DriverRules N P) :
    Proc.Keeps N P handleGetStatus := by
  have hstatus : Proc.Keeps N (heldOf P) (onPump status) :=
    onPump_keeps fun s => status_keeps (d.calm s).toModes
  refine Proc.Keeps.get.bind fun s => (withPump_keeps hstatus).bind fun live => ?_
  refine (d.fillSample _).bind fun answer => Proc.Keeps.bind (Proc.Keeps.when fun _ => ?_)
    fun _ => Proc.Keeps.pure answer
  exact d.now.bind fun now => d.modify fun s => ⟨⟨rfl, rfl, rfl, rfl, rfl⟩, rfl⟩

/-- The register read of a client. -/
theorem DriverRules.handleReadReg (d : DriverRules N P) (addr : RegAddr) :
    Proc.Keeps N P (handleReadReg addr) := by
  refine (withPump_keeps ?_).bind fun _ => Proc.Keeps.pure _
  refine (onPump_keeps fun s => readRegister_keeps (d.calm s).toModes addr).bind fun result => ?_
  exact Proc.Keeps.bind (d.held.modify fun s => ⟨⟨rfl, rfl, rfl, rfl, rfl⟩, rfl⟩) fun _ =>
    Proc.Keeps.pure _

/-- A diagnostic write asks for the write itself. -/
theorem DriverRules.handleWriteReg (d : DriverRules N P) {addr : RegAddr} {value : Byte}
    (hwrite : ∀ s, OpKeeps N.onLeft (onPumpOf (heldOf P) s) (.write addr value)) :
    Proc.Keeps N P (handleWriteReg addr value) := by
  refine (withPump_keeps ?_).bind fun _ => Proc.Keeps.pure _
  refine (onPump_keeps fun s => writeRegister_keeps (d.calm s).toModes (hwrite s)).bind
    fun result => ?_
  exact Proc.Keeps.bind (d.held.modify fun s => ⟨⟨rfl, rfl, rfl, rfl, rfl⟩, rfl⟩) fun _ =>
    Proc.Keeps.pure _

/-- The current half of a limit request, for an invariant that does not read the two limits it
moves. -/
theorem setGuardCurrent_keeps {J : Held → N.State → Prop} {iinUa : Nat}
    (hset : ∀ s, Proc.Keeps N.onLeft (onPumpOf J s) (setIinLimit iinUa))
    (hlimits : ∀ (s : Held) iinUa m, J s m →
      J { s with limits := { s.limits with iinMaxUa := iinUa, iinTargetUa := iinUa } } m) :
    Proc.Keeps N J (setGuardCurrent iinUa) := by
  refine Proc.Keeps.ite (fun _ => Proc.Keeps.pure _) fun _ => ?_
  refine (onPump_keeps hset).bind fun outcome => ?_
  cases outcome with
  | error err => exact Proc.Keeps.pure _
  | ok code =>
      refine Proc.Keeps.bind (Proc.Keeps.modify fun s m hs => ?_) fun _ => Proc.Keeps.pure _
      exact hlimits s _ m hs

/-- A limit request asks for its current half. -/
theorem handleSetLimits_keeps (iinUa vbatUv : Nat)
    (hcurrent : Proc.Keeps N (heldOf P) (setGuardCurrent iinUa))
    (hfloat : ∀ s, Proc.Keeps N.onLeft (onPumpOf (heldOf P) s) (setVbatFloat vbatUv)) :
    Proc.Keeps N P (handleSetLimits iinUa vbatUv) := by
  refine (withPump_keeps (hcurrent.bind fun answer => ?_)).bind fun _ => Proc.Keeps.pure _
  refine Proc.Keeps.ite (fun _ => Proc.Keeps.pure _) fun _ => ?_
  refine (onPump_keeps hfloat).bind fun outcome => ?_
  cases outcome <;> exact Proc.Keeps.pure _

/-- The mode a client asks for. -/
theorem StartRules.requestedMode {J : Held → N.State → Prop} (h : StartRules N J) (s : Held)
    (mode : Nat) : Proc.Keeps N.onLeft (onPumpOf J s) (requestedMode mode) := by
  have hswitching := enableSwitching_keeps (h.calm s).toMoves (h.charge s).switching
  unfold Kmdf.requestedMode
  split
  · exact (h.charge s).standby.bind fun _ => Proc.Keeps.pure _
  · exact (h.charge s).enableBypass.bind fun _ => Proc.Keeps.pure _
  · exact hswitching.bind fun _ => Proc.Keeps.pure _

/-- The mode request. -/
theorem LandRules.handleSetMode (r : LandRules N P) (mode : Nat) :
    Proc.Keeps N P (handleSetMode mode) := by
  have hadmitted : Proc.Keeps N (heldOf P) (modeAdmitted mode) := by
    refine Proc.Keeps.ite (fun _ => ?_) fun _ => Proc.Keeps.pure true
    exact r.held.heldVin.bind fun vin => (r.held.readAdc .vbat).bind fun _ => Proc.Keeps.pure _
  have hrequest : Proc.Keeps N (heldOf P) (requestIfAdmitted mode) := by
    refine hadmitted.bind fun admitted => Proc.Keeps.ite (fun _ => Proc.Keeps.pure _) fun _ => ?_
    refine (onPump_keeps fun s => r.start.requestedMode s mode).bind fun outcome => ?_
    cases outcome <;> exact Proc.Keeps.pure _
  refine Proc.Keeps.ite (fun _ => ?_) fun _ => Proc.Keeps.pure none
  exact (withPump_keeps hrequest).bind fun _ => Proc.Keeps.pure _

/-- The charge request. -/
theorem LandRules.handleSetCharge (r : LandRules N P) (on : Bool) :
    Proc.Keeps N P (handleSetCharge on) := by
  -- the request starts the charge or ends it, and both keep the invariant
  have hcharge : Proc.Keeps N (heldOf P) (chargeOnRequest on) := by
    refine Proc.Keeps.ite (fun _ => ?_) fun _ => ?_
    · refine r.start.startCharge.bind fun outcome => ?_
      obtain ⟨recovered, result⟩ := outcome
      exact r.held.countChargeAttempt.bind fun _ => Proc.Keeps.pure _
    · exact onPump_keeps fun s => setCharging_keeps (r.calm s) (r.start.charge s) false
  have hstatus : Proc.Keeps N (heldOf P) (onPump status) :=
    onPump_keeps fun s => status_keeps (r.calm s).toModes
  refine (withPump_keeps (hcharge.bind fun outcome => ?_)).bind fun _ => Proc.Keeps.pure _
  cases outcome with
  | ok applied =>
      refine hstatus.bind fun st => ?_
      exact Proc.Keeps.bind (r.held.modify fun s => ⟨⟨rfl, rfl, rfl, rfl, rfl⟩, rfl⟩) fun _ =>
        Proc.Keeps.pure _
  | error err =>
      exact Proc.Keeps.bind (r.held.modify fun s => ⟨⟨rfl, rfl, rfl, rfl, rfl⟩, rfl⟩) fun _ =>
        Proc.Keeps.pure _

/-- A negotiation on request, from an invariant its first point keeps. -/
theorem LandRules.handleRunHvdcp (r : LandRules N P) (hfree : DriverState.Timeless P)
    (hpoint : ∀ s m, P s m → N.require m (.inr (.point .landing)) ∧
      ∀ a, N.allow m (.inr (.point .landing)) a → P s (N.next m (.inr (.point .landing)) a))
    (command : Nat) : Proc.Keeps N P (handleRunHvdcp command) := by
  have hland : Proc.Keeps N P runHvdcpAndLand :=
    ⟨fun s m hs => r.runHvdcpAndLand_wp hpoint s m hs⟩
  have hcommand : Proc.Keeps N P (runHvdcpCommand command) := by
    refine Proc.Keeps.ite (fun _ => ?_) fun _ => ?_
    · exact Proc.Keeps.get.bind fun s => Proc.Keeps.pure _
    · refine hland.bind fun code => (r.scheduleOrClear hfree code).bind fun _ => ?_
      exact r.armHvdcpInputEdge.bind fun _ => Proc.Keeps.pure code
  refine (withPump_keeps (r.held.sampleVbatUv _)).bind fun vbatUv => hcommand.bind fun code => ?_
  exact Proc.Keeps.get.bind fun s => Proc.Keeps.pure _

/-! ### Life cycle -/

/-- The battery device is told of the last sample. -/
theorem DriverRules.publishBattery (d : DriverRules N P) : Proc.Keeps N P publishBattery := by
  -- one sample reads the ADC and the fault register
  have hone : ∀ peak rising, Proc.Keeps N (heldOf P) (firstBatterySample peak rising) := by
    intro peak rising
    refine (d.held.readAdc .vbat).bind fun vbat => (d.held.readAdc .vin).bind fun vbus => ?_
    refine (d.held.readAdc .iin).bind fun iin => ?_
    exact (onPump_keeps fun s => readRegister_keeps (d.calm s).toModes _).bind fun fault1 =>
      Proc.Keeps.pure _
  -- by induction on the samples left: an empty one is read again
  have hall : ∀ peak rising n,
      Proc.Keeps N (heldOf P) (firstBatterySamples peak rising n) := by
    intro peak rising n
    induction n with
    | zero => exact hone peak rising
    | succ n ih =>
        exact (hone peak rising).bind fun sample =>
          Proc.Keeps.ite (fun _ => Proc.Keeps.pure sample) fun _ => ih
  refine (d.host .initializeBattery rfl).perform.bind fun attached => ?_
  refine Proc.Keeps.when fun _ => ?_
  refine Proc.Keeps.bind (d.modify fun s => ⟨⟨rfl, rfl, rfl, rfl, rfl⟩, rfl⟩) fun _ => ?_
  refine Proc.Keeps.get.bind fun s => (withPump_keeps ?_).discard
  refine (hall _ _ _).bind fun sample => d.held.now.bind fun now => ?_
  exact d.held.modify fun s => ⟨⟨rfl, rfl, rfl, rfl, rfl⟩, rfl⟩

/-- Identification and configuration of a new pump: `I₀` of the monitor alone until the chip
has answered, and again once a session that was not configured is dropped. `I` of the session in
between. -/
theorem preparePump_wp {M : Machine BusEffect} {I : Pump → M.State → Prop}
    {I₀ : M.State → Prop} {config : PumpConfig}
    (hreset : ∀ m, I₀ m → M.require m .reset ∧
      ∀ r, M.allow m .reset r → I₀ (M.next m .reset r))
    (hread : ∀ m, I₀ m → M.require m (.read Regs.deviceId) ∧
      ∀ r, M.allow m (.read Regs.deviceId) r → I₀ (M.next m (.read Regs.deviceId) r))
    (hprobed : ∀ m, I₀ m → I (Pump.probed config) m)
    (hdropped : ∀ p m, I p m → close.wp M (fun _ _ m' => I₀ m') p m)
    (hconfigure : Proc.Keeps M I configure) (hstandby : Proc.Keeps M I standby)
    (m : M.State) (hm : I₀ m) :
    (preparePump config).wp M
      (fun opened m' => (∀ code, opened = .error code → I₀ m') ∧
        ∀ pump, opened = .ok pump → I pump m') m := by
  refine (Prog.wp_bind _ _ _ _).2 ?_
  refine ⟨(hreset m hm).1, fun r hr => ?_⟩
  have hm := (hreset m hm).2 r hr
  refine ⟨(hread _ hm).1, fun id hid => ?_⟩
  have hm := (hread _ hm).2 id hid
  -- the chip may not answer, or be another one: then there is no pump, and no transfer follows
  cases id with
  | error err => exact ⟨fun _ _ => hm, fun _ hpump => nomatch hpump⟩
  | ok id =>
      simp only
      split
      · exact ⟨fun _ _ => hm, fun _ hpump => nomatch hpump⟩
      · refine (Prog.wp_bind _ _ _ _).2 ?_
        refine Prog.wp_mono (hconfigure.run _ _ (hprobed _ hm)).prog ?_
        rintro ⟨outcome, pump⟩ m hpump
        cases outcome with
        | error err =>
            -- the pump is dropped, which closes it
            refine (Prog.wp_map _ _ _ _).2 (Prog.wp_mono (hdropped pump m hpump).prog ?_)
            exact fun _ m hm => ⟨fun _ _ => hm, fun _ hpump => nomatch hpump⟩
        | ok _ =>
            refine (Prog.wp_map _ _ _ _).2 ?_
            refine Prog.wp_mono (hstandby.discard.run pump m hpump).prog ?_
            intro out m hout
            exact ⟨fun _ hcode => (nomatch hcode), fun p hp => Except.ok.inj hp ▸ hout⟩

/-- Preparing the hardware: what the new pump and the settings establish, `hopened`, and
what a landing keeps from there. -/
theorem LandRules.prepareHardware (r : LandRules N P) (hfree : DriverState.Timeless P)
    (hpoint : ∀ s m, P s m → N.require m (.inr (.point .landing)) ∧
      ∀ a, N.allow m (.inr (.point .landing)) a → P s (N.next m (.inr (.point .landing)) a))
    (key : Option Registry)
    (hopened : ∀ s m, P s m → (preparePump (readParameters key).config).inl.wp N
      (fun opened m' => (∀ code, opened = .error code → P s m') ∧
        ∀ pump, opened = .ok pump → P
          { s with
            pump := some pump
            telemetryMs := (readParameters key).telemetryMs
            fccCfgRaw := (readParameters key).fccRaw
            limits := (readParameters key).limits } m') m)
    (usbinId : Option Nat) : Proc.Keeps N P (prepareHardware key usbinId) := by
  have hland : Proc.Keeps N P runHvdcpAndLand :=
    ⟨fun s m hs => r.runHvdcpAndLand_wp hpoint s m hs⟩
  refine Proc.Keeps.bind (r.modify fun s => ⟨⟨rfl, rfl, rfl, rfl, rfl⟩, rfl⟩) fun _ =>
    ⟨fun s m hs => ?_⟩
  refine (Proc.wp_bind _ _ _ _ _).2 ?_
  unfold Proc.wp
  refine (Prog.wp_map _ _ _ _).2 (Prog.wp_mono (hopened s m hs) ?_)
  rintro opened m ⟨herror, hok⟩
  -- without a pump only the error code is stored, with one the first negotiation follows
  cases opened with
  | error code =>
      exact (r.modify fun s => by exact ⟨⟨rfl, rfl, rfl, rfl, rfl⟩, rfl⟩).run s m (herror code rfl)
  | ok pump =>
      rw [Proc.thenWp_ok, Proc.wp_bind, Proc.wp_modify, Proc.thenWp_ok]
      have hrest : Proc.Keeps N P (do
          let code ← runHvdcpAndLand
          scheduleOrClearSuperuserRetry code
          Kmdf.armHvdcpInputEdge
          Proc.when (readParameters key).publishBattery Kmdf.publishBattery) := by
        refine hland.bind fun code => (r.scheduleOrClear hfree code).bind fun _ => ?_
        exact r.armHvdcpInputEdge.bind fun _ => Proc.Keeps.when fun _ => r.publishBattery
      exact hrest.run _ m (hok pump rfl)

/-- Releasing the hardware: standby, close, and a state without a pump. -/
theorem DriverRules.releaseHardware (d : DriverRules N P) {Q : DriverState → N.State → Prop}
    (hbody : ∀ s m, heldOf P s m → (do
        Proc.discard (onPump standby)
        Proc.discard (onPump close) : HeldM Unit).wp N (fun _ s' m' => heldOf Q s' m') s m)
    (hnone : ∀ s m, s.pump = none → P s m → Q s m)
    (hgone : ∀ s m, Q s m → P
      { s with
        pump := none
        hvdcpRetryPending := false
        hvdcpEdgeArmed := false
        lastInputPresent := false
        deviceBound := false } m) :
    Proc.Keeps N P releaseHardware := by
  refine Proc.Keeps.bind (d.modify fun s => ⟨⟨rfl, rfl, rfl, rfl, rfl⟩, rfl⟩) fun _ =>
    ⟨fun s m hs => ?_⟩
  rw [Proc.wp_bind, Proc.wp_discard]
  -- the pump is put to standby and closed, or there was none
  refine Proc.wp_mono (withPump_wp hbody hnone s m hs) ?_
  intro outcome s m hs
  rw [Proc.thenWp_ok, Proc.wp_modify]
  exact hgone s m hs

end

end Kmdf
