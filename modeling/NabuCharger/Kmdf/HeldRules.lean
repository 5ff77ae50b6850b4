import NabuCharger.Kmdf.Handlers
import NabuCharger.Kmdf.Schedule
import NabuCharger.Ln8000.PumpRules

/-!
# `Kmdf.HeldRules`: invariants through the programs with the pump in hand

One rule for each program of the driver that holds the pump, for any monitor `N` of
everything it talks to and any invariant `J` of its state. As with the rules of the pump, a
rule asks only for the steps its program makes.

`HeldRules` is what every program asks for: `J` reads nothing of the context but the limits,
`adc_awake` and the schedule of the next negotiation, the host is silent, and the calm steps
of the pump are calm. `StartRules` adds what a charge start does. The rest is asked for one by
one: the protection step, the wake of the ADC, the current of the 5 V landing. Only the end of
a tick moves the schedule, and its rule is for an invariant that does not read it
(`Held.Timeless`).

An invariant of the held state is, in a fixed context, one of the pump alone (`onPumpOf`).
-/

set_option autoImplicit false

namespace Kmdf

open Effectful Ln8000

variable {N : Machine DevEffect}

/-! ### What a rule asks for -/

/-- The host operation meets its obligation in `J`, and every allowed answer keeps `J`. -/
def HostKeeps {σ : Type} (N : Machine DevEffect) (J : σ → N.State → Prop) (o : HostOp) :
    Prop :=
  ∀ s m, J s m → N.require m (.inr o) ∧ ∀ r, N.allow m (.inr o) r → J s (N.next m (.inr o) r)

/-- The operation is no point of the driver. -/
def HostOp.silent : HostOp → Bool
  | .point _ => false
  | _ => true

/-- The same pump, limits, ADC mode and counts of the tick: nothing an invariant may read has
changed. -/
structure Held.Alike (s s' : Held) : Prop where
  pump : s'.pump = s.pump
  limits : s'.limits = s.limits
  adcAwake : s'.adcAwake = s.adcAwake
  strikes : s'.bypassDeniedStrikes = s.bypassDeniedStrikes
  window : s'.window = s.window

/-- The same schedule as well. -/
structure Held.Same (s s' : Held) : Prop extends s.Alike s' where
  schedule : s'.schedule = s.schedule

/-- The invariant does not read the schedule. -/
def Held.Timeless {σ : Type} (J : Held → σ → Prop) : Prop :=
  ∀ (s s' : Held) m, s.Alike s' → J s m → J s' m

/-- The invariant does not read the denials of 1:1. -/
def Held.Strikeless {σ : Type} (J : Held → σ → Prop) : Prop :=
  ∀ (s : Held) strikes m, J s m → J { s with bypassDeniedStrikes := strikes } m

/-- The invariant does not read what the corrections of the bus are counted by. -/
def Held.Windowless {σ : Type} (J : Held → σ → Prop) : Prop :=
  ∀ (s : Held) nudgeMs bestErrUv stallN m, J s m →
    J { s with
      lastWindowNudgeMs := nudgeMs
      windowBestErrUv := bestErrUv
      windowStallN := stallN } m

/-- The invariant, as one of the pump in the context of `s`. -/
abbrev onPumpOf {σ : Type} (J : Held → σ → Prop) (s : Held) : Pump → σ → Prop :=
  fun p m => J { s with pump := p } m

/-- What every program with the pump in hand asks for. -/
structure HeldRules (N : Machine DevEffect) (J : Held → N.State → Prop) : Prop where
  frame : ∀ (s s' : Held) m, s.Same s' → J s m → J s' m
  host : ∀ o : HostOp, o.silent = true → HostKeeps N J o
  calm : ∀ s, Calm N.onLeft (onPumpOf J s)
  vinPair : ∀ s, OpKeeps N.onLeft (onPumpOf J s) (.readPair AdcChannel.vin.register)

/-- What a charge start asks for. -/
structure StartRules [LoopFuel] (N : Machine DevEffect) (J : Held → N.State → Prop) : Prop
    extends HeldRules N J where
  charge : ∀ s, ChargeRules N.onLeft (onPumpOf J s)
  configure : ∀ s, Proc.Keeps N.onLeft (onPumpOf J s) Ln8000.configure
  softReset : ∀ s, Proc.Keeps N.onLeft (onPumpOf J s) Ln8000.softReset

section
variable {J : Held → N.State → Prop}

/-! ### Steps -/

/-- An operation of the host, as a program. -/
theorem HostKeeps.perform {σ : Type} {J : σ → N.State → Prop} {o : HostOp}
    (h : HostKeeps N J o) : Proc.Keeps N J (host o : Proc DevEffect Empty σ _) :=
  Proc.Keeps.perform (M := N) (o := Sum.inr o) h

/-- Reading the clock is always allowed. -/
theorem HeldRules.now (h : HeldRules N J) :
    Proc.Keeps N J (monotonicMs : Proc DevEffect Empty Held Nat) :=
  (h.host .now rfl).perform

/-- A change that the invariant does not look at. -/
theorem HeldRules.modify (h : HeldRules N J) {f : Held → Held} (hf : ∀ s : Held, s.Same (f s)) :
    Proc.Keeps N J (Proc.modify f : HeldM Unit) :=
  Proc.Keeps.modify fun s m hs => h.frame s (f s) m (hf s) hs

/-- A program of the pump, on the pump that the driver holds. -/
theorem onPump_keeps {ε α : Type} {x : Proc BusEffect ε Pump α}
    (hx : ∀ s, Proc.Keeps N.onLeft (onPumpOf J s) x) : Proc.Keeps N J (onPump x) :=
  Proc.Keeps.onPart fun s m hs => (Proc.Keeps.inl (hx s)).run s.pump m hs

/-- The same for one that cannot fail. -/
theorem onPumpTotal_keeps {α : Type} {x : Proc BusEffect Empty Pump α}
    (hx : ∀ s, Proc.Keeps N.onLeft (onPumpOf J s) x) : Proc.Keeps N J (onPumpTotal x) := by
  refine (onPump_keeps hx).bind fun result => ?_
  cases result with
  | ok value => exact Proc.Keeps.pure value
  | error e => nomatch e

/-- A write of the buck limit. -/
theorem HeldRules.writeFcc (h : HeldRules N J) (want : Byte) : Proc.Keeps N J (writeFcc want) :=
  (h.host (.writeFccRaw want) rfl).perform.bind fun _ => Proc.Keeps.pure _

variable [LoopFuel]

/-- A reading of the converter. -/
theorem HeldRules.readAdc (h : HeldRules N J) (channel : AdcChannel) :
    Proc.Keeps N J (onPump (Ln8000.readAdc channel)) := by
  refine onPump_keeps fun s => readAdc_keeps (h.calm s).toSettled ?_
  by_cases hvin : channel = .vin
  · rw [hvin]; exact h.vinPair s
  · exact (h.calm s).pair channel hvin

/-- The sample of the input voltage for a negotiation. -/
theorem HeldRules.heldVin (h : HeldRules N J) : Proc.Keeps N J heldVin :=
  (h.readAdc .vin).bind fun _ => Proc.Keeps.pure _

/-- The sample of the battery voltage, or the value to fall back on. -/
theorem HeldRules.sampleVbatUv (h : HeldRules N J) (fallback : Nat) :
    Proc.Keeps N J (sampleVbatUv fallback) :=
  (h.readAdc .vbat).bind fun _ => Proc.Keeps.pure _

omit [LoopFuel] in
/-- A value read by a program without failure, as a step of a handler. -/
theorem outcome_keeps {σ α : Type} {J : σ → N.State → Prop} {x : Proc DevEffect Empty σ α}
    (hx : Proc.Keeps N J x) (s : σ) (m : N.State) (hs : J s m) :
    ((x s).map outcome).wp N (fun out m' => J out.2 m') m := by
  refine (Prog.wp_map _ _ _ _).2 (Prog.wp_mono (hx.run s m hs).prog ?_)
  rintro ⟨result, s'⟩ m' h'
  cases result with
  | ok value => exact h'
  | error e => nomatch e

/-- The Quick Charge machine asks only for the host and for `Vin`. -/
theorem HeldRules.onHvdcp (h : HeldRules N J) {α : Type} (x : HvdcpM α) :
    Proc.Keeps N J (onHvdcp x) := by
  refine Proc.Keeps.handled x ?_ ?_
  · intro o s m hs
    cases o with
    | spmi o =>
        obtain ⟨hreq, hans⟩ := h.host (.spmi o) rfl s m hs
        exact ⟨hreq, fun r hr => hans r hr⟩
    | readVin => exact outcome_keeps h.heldVin s m hs
  · exact fun st s m hs => h.frame s _ m ⟨⟨rfl, rfl, rfl, rfl, rfl⟩, rfl⟩ hs

/-- A correction of the bus. -/
theorem HeldRules.nudge (h : HeldRules N J) (vin : Int) (cellVbatUv : Nat) (dead : Bool) :
    Proc.Keeps N J (nudge vin cellVbatUv dead) :=
  Proc.Keeps.get.bind fun _ => (h.onHvdcp _).bind fun _ => Proc.Keeps.pure _

/-! ### Charge start -/

omit [LoopFuel] in
/-- An attempt is counted in the state. -/
theorem HeldRules.countChargeAttempt (h : HeldRules N J) :
    Proc.Keeps N J countChargeAttempt := by
  refine (h.modify fun s => by exact ⟨⟨rfl, rfl, rfl, rfl, rfl⟩, rfl⟩).bind fun _ => ?_
  refine h.now.bind fun now => ?_
  exact h.modify fun s => ⟨⟨rfl, rfl, rfl, rfl, rfl⟩, rfl⟩

section
variable {M : Machine BusEffect} {I : Pump → M.State → Prop} {ε : Type}

/-- A pump that is configured anew and starts. -/
theorem rebuildAndCharge_keeps (c : Calm M I) (r : ChargeRules M I)
    (hconfigure : Proc.Keeps M I configure) (hreset : Proc.Keeps M I softReset) :
    Proc.Keeps M I (rebuildAndCharge : Proc BusEffect ε Pump _) := by
  refine hreset.discard.bind fun _ => ?_
  refine c.delay.perform.discard.bind fun _ => hconfigure.discard.bind fun _ => ?_
  exact (setCharging_keeps c r true).attempt

/-- The recovery of a chip that has shut down. -/
theorem recoverLnShutdown_keeps (c : Calm M I) (r : ChargeRules M I)
    (hconfigure : Proc.Keeps M I configure) (hreset : Proc.Keeps M I softReset) :
    Proc.Keeps M I (recoverLnShutdown : Proc BusEffect ε Pump _) := by
  refine (readRegister_keeps c.toModes _).attempt.bind fun sys => ?_
  cases sys with
  | error _ => exact Proc.Keeps.pure none
  | ok sys =>
      refine Proc.Keeps.ite (fun _ => Proc.Keeps.pure none) fun _ => ?_
      exact (rebuildAndCharge_keeps c r hconfigure hreset).bind fun _ => Proc.Keeps.pure _

/-- A start, with the recovery when it fails. -/
theorem startCharge_keeps (c : Calm M I) (r : ChargeRules M I)
    (hconfigure : Proc.Keeps M I configure) (hreset : Proc.Keeps M I softReset) :
    Proc.Keeps M I (startCharge : Proc BusEffect ε Pump _) := by
  refine (recoverLnShutdown_keeps c r hconfigure hreset).bind fun recovery => ?_
  cases recovery with
  | some result => exact Proc.Keeps.pure _
  | none => exact (setCharging_keeps c r true).attempt.bind fun _ => Proc.Keeps.pure _

end

/-- The same on the pump that the driver holds. -/
theorem StartRules.startCharge (h : StartRules N J) :
    Proc.Keeps N J (onPumpTotal startCharge) :=
  onPumpTotal_keeps fun s =>
    startCharge_keeps (h.calm s) (h.charge s) (h.configure s) (h.softReset s)

/-- An attempt to charge: it is counted, started and judged. -/
theorem StartRules.attemptCharge (h : StartRules N J) : Proc.Keeps N J attemptCharge := by
  refine h.startCharge.bind fun outcome => ?_
  obtain ⟨recovered, result⟩ := outcome
  refine (Proc.Keeps.when fun _ => h.now.bind fun now => ?_).bind fun _ => ?_
  · exact h.modify fun s => ⟨⟨rfl, rfl, rfl, rfl, rfl⟩, rfl⟩
  · exact h.countChargeAttempt.bind fun _ => Proc.Keeps.pure _

/-! ### The landing -/

/-- The mode a landing chooses. -/
theorem HeldRules.landingMode (h : HeldRules N J) (vin : Int) (cellVbatUv : Nat) :
    Proc.Keeps N J (landingMode vin cellVbatUv) := by
  refine Proc.Keeps.ite (fun _ => ?_) fun _ => Proc.Keeps.pure _
  exact (h.nudge _ _ _).bind fun _ => (h.readAdc .vin).bind fun _ => Proc.Keeps.pure _

/-- The landing asks for the 5 V current beyond a charge start. -/
theorem StartRules.landOnPump (h : StartRules N J) (hfive : Proc.Keeps N J set5vCurrent)
    (vbatUv : Nat) : Proc.Keeps N J (landOnPump vbatUv) := by
  refine h.heldVin.bind fun vin => (h.sampleVbatUv _).bind fun pumpVbatUv => ?_
  refine Proc.Keeps.get.bind fun s => (h.landingMode _ _).bind fun landed => ?_
  obtain ⟨vin, engage⟩ := landed
  -- before 2:1 the window is corrected, before 1:1 at 5 V the limit is raised
  have hprepare : Proc.Keeps N J
      (prepareLanding vin (anchorCellVbatUv s.fgVbattUv pumpVbatUv) engage) := by
    refine Proc.Keeps.get.bind fun s => Proc.Keeps.ite (fun _ => ?_) fun _ => ?_
    · exact (h.nudge _ _ _).bind fun _ => (h.onHvdcp _).bind fun _ => Proc.Keeps.pure ()
    · refine Proc.Keeps.ite (fun _ => ?_) fun _ => Proc.Keeps.pure ()
      exact (h.onHvdcp _).bind fun _ => hfive
  refine hprepare.bind fun _ => h.attemptCharge.bind fun outcome => ?_
  obtain ⟨recovered, result⟩ := outcome
  cases result with
  | ok mode => exact h.modify fun s => ⟨⟨rfl, rfl, rfl, rfl, rfl⟩, rfl⟩
  | error err => exact h.modify fun s => ⟨⟨rfl, rfl, rfl, rfl, rfl⟩, rfl⟩

/-! ### The tick: observing -/

/-- The channels of a sample. -/
theorem HeldRules.sampleChannels (h : HeldRules N J) (status : Status) :
    Proc.Keeps N J (sampleChannels status) := by
  refine (h.readAdc .vbat).bind fun vbat => (h.readAdc .vin).bind fun vbus => ?_
  refine (h.readAdc .iin).bind fun iin => (h.readAdc .dieTemp).bind fun temp => ?_
  exact h.now.bind fun tsMs => Proc.Keeps.pure _

omit [LoopFuel] in
/-- The one-shot probe of the buck limit. -/
theorem HeldRules.probeFcc (h : HeldRules N J) (obs : Observation) :
    Proc.Keeps N J (probeFcc obs) := by
  refine Proc.Keeps.get.bind fun s => Proc.Keeps.when fun _ => ?_
  refine (Proc.Keeps.when fun _ => ?_).bind fun _ => ?_
  · exact (h.writeFcc _).bind fun _ => (h.writeFcc _).bind fun _ => Proc.Keeps.pure ()
  · exact h.modify fun s => ⟨⟨rfl, rfl, rfl, rfl, rfl⟩, rfl⟩

omit [LoopFuel] in
/-- The time is a variable here: the kernel would unfold a sum of milliseconds. -/
theorem same_fccRestoreAtMs (ms : Nat) (s : Held) :
    s.Same { s with fccRestoreAtMs := ms } := ⟨⟨rfl, rfl, rfl, rfl, rfl⟩, rfl⟩

omit [LoopFuel] in
/-- A step of the policy of the buck limit. -/
theorem HeldRules.runFccPolicy (h : HeldRules N J) (obs : Observation) :
    Proc.Keeps N J (runFccPolicy obs) := by
  refine Proc.Keeps.get.bind fun s => Proc.Keeps.ite (fun _ => ?_) fun _ => ?_
  · refine (h.modify fun s => by exact ⟨⟨rfl, rfl, rfl, rfl, rfl⟩, rfl⟩).bind fun _ => ?_
    refine Proc.Keeps.when fun _ => ?_
    refine (h.writeFcc _).bind fun ok => Proc.Keeps.when fun _ => ?_
    exact h.modify fun s => ⟨⟨rfl, rfl, rfl, rfl, rfl⟩, rfl⟩
  · refine Proc.Keeps.when fun _ => Proc.Keeps.ite (fun _ => ?_) fun _ => ?_
    · exact h.modify (same_fccRestoreAtMs _)
    · refine Proc.Keeps.when fun _ => (h.writeFcc _).bind fun ok => Proc.Keeps.when fun _ => ?_
      exact h.modify fun s => ⟨⟨rfl, rfl, rfl, rfl, rfl⟩, rfl⟩

omit [LoopFuel] in
/-- The snapshot of the charger registers. -/
theorem HeldRules.snapshotCharger (h : HeldRules N J) (obs : Observation) :
    Proc.Keeps N J (snapshotCharger obs) := by
  refine Proc.Keeps.get.bind fun s => Proc.Keeps.when fun _ => ?_
  refine (h.modify fun s => by exact ⟨⟨rfl, rfl, rfl, rfl, rfl⟩, rfl⟩).bind fun _ => ?_
  refine (h.host .readChargeRegs rfl).perform.bind fun regs => ?_
  refine Proc.Keeps.bind ?_ fun _ => Proc.Keeps.when fun _ => h.runFccPolicy obs
  cases regs with
  | none => exact Proc.Keeps.pure ()
  | some regs =>
      exact (h.modify fun s => by exact ⟨⟨rfl, rfl, rfl, rfl, rfl⟩, rfl⟩).bind fun _ =>
        h.probeFcc obs

omit [LoopFuel] in
/-- The peaks and the gauge are not part of what an invariant reads. -/
theorem same_trackPeak (s : Held) (sample : TelemetrySample) (gauge : GaugePoll) (tsMs : Nat) :
    s.Same (s.mapContext fun ctx => (ctx.trackPeak sample).publishGauge gauge tsMs) := by
  unfold Held.mapContext Context.trackPeak
  cases gauge <;> simp only [Context.publishGauge] <;> split <;>
    exact ⟨⟨rfl, rfl, rfl, rfl, rfl⟩, rfl⟩

/-- An observation asks for the wake of the ADC. What the wake establishes, `L`, holds of the
observation that is returned. -/
theorem HeldRules.observe_wp (h : HeldRules N J) {L : Observation → Held → N.State → Prop}
    (hL : ∀ obs, HeldRules N (L obs))
    (hwake : ∀ obs s m, J s m → (Kmdf.keepAdcAwake obs).wp N (fun _ s' m' => L obs s' m') s m)
    (gauge : GaugePoll) (status : Status) (s : Held) (m : N.State) (hs : J s m) :
    (observe gauge status).wp N
      (fun outcome s' m' => ∃ obs, outcome = .ok obs ∧ L obs s' m') s m := by
  refine (h.sampleChannels status).wp_bind hs ?_ fun e => nomatch e
  intro obs s m hs
  refine (h.modify fun s => by exact ⟨⟨rfl, rfl, rfl, rfl, rfl⟩, rfl⟩).wp_bind hs ?_
    fun e => nomatch e
  intro _ s m hs
  rw [Proc.wp_bind]
  refine Proc.wp_mono (hwake obs s m hs) ?_
  rintro (e | _) s m hs
  · nomatch e
  rw [Proc.thenWp_ok]
  -- from the sample on, the invariant may speak of the observation
  have hupdate : Proc.Keeps N (L obs)
      (Proc.modify (Held.mapContext fun ctx => ctx.updateBattery obs) : HeldM Unit) :=
    (hL obs).modify fun s => ⟨⟨rfl, rfl, rfl, rfl, rfl⟩, rfl⟩
  have hpublish : Proc.Keeps N (L obs)
      (Proc.modify (Held.mapContext fun ctx =>
        (ctx.trackPeak obs.sample).publishGauge gauge obs.sample.tsMs) : HeldM Unit) :=
    (hL obs).modify fun s => same_trackPeak s obs.sample gauge obs.sample.tsMs
  refine hupdate.wp_bind hs ?_ fun e => nomatch e
  intro _ s m hs
  refine Proc.Keeps.get.wp_bind hs ?_ fun e => nomatch e
  intro ctx s m hs
  have hdevice : Proc.Keeps N (L obs) (Proc.when ctx.deviceBound do
      Proc.modify (Held.mapContext fun ctx =>
        (ctx.trackPeak obs.sample).publishGauge gauge obs.sample.tsMs)
      Kmdf.snapshotCharger obs) :=
    Proc.Keeps.when fun _ => hpublish.bind fun _ => (hL obs).snapshotCharger obs
  refine hdevice.wp_bind hs ?_ fun e => nomatch e
  intro _ s m hs
  exact (Proc.wp_pure _ s m obs).2 ⟨obs, rfl, hs⟩

/-! ### The tick: acting -/

/-- The latched faults are cleared. -/
theorem HeldRules.clearLatches (h : HeldRules N J) (status : Status) :
    Proc.Keeps N J (clearLatches status) := by
  refine Proc.Keeps.when fun _ => Proc.Keeps.bind ?_ fun _ => Proc.Keeps.when fun _ => ?_
  · exact (onPump_keeps fun s => clearLatchedFaults_keeps (h.calm s).toSettled).discard
  · exact (onPump_keeps fun s => serviceWatchdog_keeps (h.calm s).toSettled).discard

/-- The inputs of the protection step are those of the state it reads. -/
theorem HeldRules.guardInputs_wp (h : HeldRules N J) (obs : Observation) (s : Held)
    (m : N.State) (hs : J s m) :
    (guardInputs obs).wp N
      (fun outcome s' m' => ∃ applied, outcome = .ok (.of obs s' applied) ∧ J s' m') s m := by
  have happlied : Proc.Keeps N J (onPump appliedIinUa) :=
    onPump_keeps fun s => appliedIinUa_keeps (h.calm s).toModes
  refine happlied.wp_bind hs ?_ fun e => nomatch e
  intro applied s m hs
  refine (Proc.wp_bind _ _ _ _ _).2 ((Proc.wp_get s m _).2 ?_)
  exact (Proc.wp_pure _ s m _).2 ⟨applied.toOption.join, rfl, hs⟩

/-- A resolved demand for 1:1 orders a current, requests 1:1, or requests standby. -/
theorem applyResolution_keeps (hfree : Held.Strikeless J) {resolution : BypassResolution}
    (hset : ∀ toUa, resolution.current = some toUa →
      ∀ s, Proc.Keeps N.onLeft (onPumpOf J s) (setIinLimit toUa))
    (hbypass : ∀ s, Proc.Keeps N.onLeft (onPumpOf J s) enableBypass)
    (hstandby : ∀ s, Proc.Keeps N.onLeft (onPumpOf J s) standby) :
    Proc.Keeps N J (applyResolution resolution) := by
  cases resolution with
  | allowed =>
      exact Proc.Keeps.bind (Proc.Keeps.modify fun s m hs => hfree s 0 m hs) fun _ =>
        (onPump_keeps hbypass).discard
  | reduceCurrent toUa reason =>
      exact Proc.Keeps.bind (Proc.Keeps.modify fun s m hs => hfree s _ m hs) fun _ =>
        (onPump_keeps (hset toUa rfl)).discard
  | stop reason => exact (onPump_keeps hstandby).discard

/-- What the protection step does with a decision: nothing but a current it orders, 1:1, and
standby. -/
theorem applyGuard_wp (hfree : Held.Strikeless J) {action : GuardAction} {vinUv : Int}
    {vbatUv deniedStrikes : Nat} {limits : GuardLimits}
    (hset : ∀ toUa, action.orderedUa vinUv vbatUv deniedStrikes limits = some toUa →
      ∀ s, Proc.Keeps N.onLeft (onPumpOf J s) (setIinLimit toUa))
    (hbypass : ∀ s, Proc.Keeps N.onLeft (onPumpOf J s) enableBypass)
    (hstandby : ∀ s, Proc.Keeps N.onLeft (onPumpOf J s) standby) (s : Held) (m : N.State)
    (hstrikes : s.bypassDeniedStrikes = deniedStrikes) (hs : J s m) :
    (applyGuard action vinUv vbatUv limits).wp N (fun _ s' m' => J s' m') s m := by
  have hclear : Proc.Keeps N J (Proc.modify clearStrikes : HeldM Unit) :=
    Proc.Keeps.modify fun s m hs => hfree s 0 m hs
  -- a demand for 1:1 keeps its strikes; every other action clears them first
  cases action with
  | none => exact hclear.run s m hs
  | reduceCurrent toUa reason =>
      exact (hclear.bind fun _ => (onPump_keeps (hset toUa rfl)).discard).run s m hs
  | restoreCurrent toUa reason =>
      exact (hclear.bind fun _ => (onPump_keeps (hset toUa rfl)).discard).run s m hs
  | stop reason => exact (hclear.bind fun _ => (onPump_keeps hstandby).discard).run s m hs
  | fallbackToBypass reason =>
      have hresolved : Proc.Keeps N J (Kmdf.applyResolution
          (resolveBypass vinUv vbatUv s.bypassDeniedStrikes limits)) := by
        rw [hstrikes]
        exact applyResolution_keeps hfree hset hbypass hstandby
      refine (Proc.wp_bind _ _ _ _ _).2 ((Proc.wp_get s m _).2 ?_)
      exact hresolved.run s m hs

/-- A decision that orders a current comes to this order, from wherever it is reached. -/
theorem applyGuard_wp_ordered {K : Held → N.State → Prop} (hfree : Held.Strikeless J)
    {action : GuardAction} {vinUv : Int} {vbatUv deniedStrikes toUa : Nat} {limits : GuardLimits}
    (hto : action.orderedUa vinUv vbatUv deniedStrikes limits = some toUa)
    (hset : ∀ s m, J s m → (onPump (setIinLimit toUa)).wp N (fun _ s' m' => K s' m') s m)
    (s : Held) (m : N.State) (hstrikes : s.bypassDeniedStrikes = deniedStrikes) (hs : J s m) :
    (applyGuard action vinUv vbatUv limits).wp N (fun _ s' m' => K s' m') s m := by
  have hcleared : ∀ strikes, (Proc.discard (onPump (setIinLimit toUa)) : HeldM Unit).wp N
      (fun _ s' m' => K s' m') { s with bypassDeniedStrikes := strikes } m := fun strikes =>
    (Proc.wp_discard _ m _ _).2 (hset _ m (hfree s strikes m hs))
  -- only an action with a current orders one, and 1:1 only when it was resolved to a current
  cases action with
  | none => cases hto
  | stop reason => cases hto
  | reduceCurrent currentUa reason =>
      obtain rfl : currentUa = toUa := Option.some.inj hto
      exact (Proc.wp_modify_bind s m _ _ _).2 (hcleared 0)
  | restoreCurrent currentUa reason =>
      obtain rfl : currentUa = toUa := Option.some.inj hto
      exact (Proc.wp_modify_bind s m _ _ _).2 (hcleared 0)
  | fallbackToBypass reason =>
      refine (Proc.wp_bind _ _ _ _ _).2 ((Proc.wp_get s m _).2 ?_)
      rw [Proc.thenWp_ok, hstrikes]
      have hcurrent : (resolveBypass vinUv vbatUv deniedStrikes limits).current = some toUa := hto
      cases hresolved : resolveBypass vinUv vbatUv deniedStrikes limits with
      | allowed => rw [hresolved] at hcurrent; cases hcurrent
      | stop reason => rw [hresolved] at hcurrent; cases hcurrent
      | reduceCurrent floorUa reason =>
          rw [hresolved] at hcurrent
          obtain rfl : floorUa = toUa := Option.some.inj hcurrent
          exact (Proc.wp_modify_bind s m _ _ _).2 (hcleared _)

omit [LoopFuel] in
/-- An action of the guard is counted. -/
theorem HeldRules.countAction (h : HeldRules N J) :
    Proc.Keeps N J (Proc.modify fun s => { s with actions := satAdd 32 s.actions 1 } :
      HeldM Unit) :=
  h.modify fun _ => ⟨⟨rfl, rfl, rfl, rfl, rfl⟩, rfl⟩

/-- A decision that changes something is applied and counted. -/
theorem applyDecision_wp {inputs : GuardInputs} {K : Bool → Held → N.State → Prop}
    (hK : HeldRules N (K true)) (hchanged : inputs.action.isChange = true) {s : Held}
    {m : N.State}
    (happly : (applyGuard inputs.action inputs.vbusUv inputs.sample.vbatUv inputs.limits).wp N
      (fun _ s' m' => K true s' m') s m) :
    (applyDecision inputs).wp N
      (fun outcome s' m' => ∃ changed, outcome = .ok changed ∧ K changed s' m') s m := by
  unfold applyDecision
  rw [hchanged, Proc.when, if_pos rfl, Proc.wp_bind, Proc.wp_bind]
  -- the action first, then its count
  refine Proc.wp_mono happly ?_
  rintro (e | _) s m hs
  · exact e.elim
  rw [Proc.thenWp_ok]
  refine Proc.wp_mono (hK.countAction.run s m hs) ?_
  rintro (e | _) s m hs
  · exact e.elim
  · exact (Proc.wp_pure _ s m true).2 ⟨true, rfl, hs⟩

/-- A decision that changes nothing is not applied. -/
theorem applyDecision_wp_same {inputs : GuardInputs} (hchanged : inputs.action.isChange = false)
    {s : Held} {m : N.State} {Q : Except Empty Bool → Held → N.State → Prop}
    (hQ : Q (.ok false) s m) : (applyDecision inputs).wp N Q s m := by
  unfold applyDecision
  rw [hchanged, Proc.when, if_neg (by decide), Proc.wp_bind, Proc.wp_pure, Proc.thenWp_ok,
    Proc.wp_pure]
  exact hQ

/-- The protection step, with what the inputs say: they lead from `J` to `B` of the setpoint that
was read, their point to `A` of them, and the decision from there to `K` of its answer. -/
theorem protect_wp_inputs (hfree : Held.Strikeless J)
    {B : Option Nat → Held → N.State → Prop} {A : GuardInputs → Held → N.State → Prop}
    {K : Bool → Held → N.State → Prop} {obs : Observation}
    (hinputs : ∀ s m, J s m → (guardInputs obs).wp N
      (fun outcome s' m' => ∃ applied, outcome = .ok (.of obs s' applied) ∧ B applied s' m') s m)
    (hpoint : ∀ s m applied, B applied s m →
      N.require m (.inr (.point (.guard (.of obs s applied)))) ∧
      ∀ a, N.allow m (.inr (.point (.guard (.of obs s applied)))) a →
        A (.of obs s applied) s (N.next m (.inr (.point (.guard (.of obs s applied)))) a))
    (hchange : ∀ (inputs : GuardInputs) (s : Held) m, inputs.status = obs.status →
      inputs.sample = obs.sample →
      s.bypassDeniedStrikes = inputs.deniedStrikes → inputs.action.isChange = true →
      A inputs s m →
      (applyGuard inputs.action inputs.vbusUv inputs.sample.vbatUv inputs.limits).wp N
        (fun _ s' m' => K true s' m') s m)
    (hsame : ∀ (inputs : GuardInputs) s m, inputs.status = obs.status →
      inputs.sample = obs.sample → inputs.action.isChange = false → A inputs s m →
      K false s m)
    (hK : HeldRules N (K true)) (s : Held) (m : N.State) (hs : J s m) :
    (protect obs).wp N
      (fun outcome s' m' => ∃ changed, outcome = .ok changed ∧ K changed s' m') s m := by
  have hexpire : ∀ s : Held, Proc.Keeps N J
      (Proc.when (bypassStrikesExpired obs.sample s.limits) (Proc.modify clearStrikes) :
        HeldM Unit) :=
    fun s => Proc.Keeps.when fun _ => Proc.Keeps.modify fun s m hs => hfree s 0 m hs
  refine Proc.Keeps.get.wp_bind hs ?_ fun e => nomatch e
  intro before s m hs
  refine (hexpire before).wp_bind hs ?_ fun e => nomatch e
  intro _ s m hs
  refine (Proc.wp_bind _ _ _ _ _).2 (Proc.wp_mono (hinputs s m hs) ?_)
  rintro _ s m ⟨applied, rfl, hs⟩
  -- the inputs are announced at the point of the guard, before anything is done on them
  obtain ⟨hreq, hans⟩ := hpoint s m applied hs
  refine (Proc.wp_bind _ _ _ _ _).2 ((Proc.wp_perform s m (E := DevEffect) _ _).2 ⟨hreq, ?_⟩)
  intro a ha
  have hA := hans a ha
  -- a step without a change touches nothing, so it ends where it was announced
  cases hchanged : (GuardInputs.of obs s applied).action.isChange with
  | false =>
      exact applyDecision_wp_same hchanged ⟨false, rfl, hsame _ s _ rfl rfl hchanged hA⟩
  | true => exact applyDecision_wp hK hchanged (hchange _ s _ rfl rfl rfl hchanged hA)

/-- The protection step leads from `J` to `K` of its answer. Its point turns `J` into `A` of
the inputs, and `A` has to lead to `K true` over a change and to `K false` otherwise. -/
theorem HeldRules.protect_wp (h : HeldRules N J) (hfree : Held.Strikeless J)
    {A : GuardInputs → Held → N.State → Prop}
    {K : Bool → Held → N.State → Prop} {obs : Observation}
    (hpoint : ∀ s m applied, J s m →
      N.require m (.inr (.point (.guard (.of obs s applied)))) ∧
      ∀ a, N.allow m (.inr (.point (.guard (.of obs s applied)))) a →
        A (.of obs s applied) s (N.next m (.inr (.point (.guard (.of obs s applied)))) a))
    (hchange : ∀ (inputs : GuardInputs) (s : Held) m, inputs.status = obs.status →
      inputs.sample = obs.sample →
      s.bypassDeniedStrikes = inputs.deniedStrikes → inputs.action.isChange = true →
      A inputs s m →
      (applyGuard inputs.action inputs.vbusUv inputs.sample.vbatUv inputs.limits).wp N
        (fun _ s' m' => K true s' m') s m)
    (hsame : ∀ (inputs : GuardInputs) s m, inputs.status = obs.status →
      inputs.sample = obs.sample → inputs.action.isChange = false → A inputs s m →
      K false s m)
    (hK : HeldRules N (K true)) (s : Held) (m : N.State) (hs : J s m) :
    (protect obs).wp N
      (fun outcome s' m' => ∃ changed, outcome = .ok changed ∧ K changed s' m') s m :=
  protect_wp_inputs (B := fun _ => J) hfree (h.guardInputs_wp obs) hpoint hchange hsame hK s m hs

/-- The wake of the ADC writes its mode and keeps its shadow. -/
theorem keepAdcAwake_keeps
    (hset : ∀ mode s, Proc.Keeps N.onLeft (onPumpOf J s) (setAdcMode mode))
    (hshadow : ∀ (s : Held) awake wakeN m, J s m →
      J { s with adcAwake := awake, adcWakeN := wakeN } m)
    (hpoint : ∀ awake, HostKeeps N J (.point (.adcAwake awake))) (obs : Observation) :
    Proc.Keeps N J (keepAdcAwake obs) := by
  refine Proc.Keeps.get.bind fun s => ?_
  split
  · refine Proc.Keeps.when fun _ => (onPump_keeps (hset .normal)).bind fun result => ?_
    cases result with
    -- the shadow of the mode follows only a write that succeeded
    | ok _ =>
        refine Proc.Keeps.bind (Proc.Keeps.modify fun s m hs => ?_) fun _ => (hpoint true).perform
        exact hshadow s true (satAdd 32 s.adcWakeN 1) m hs
    | error _ => exact Proc.Keeps.pure ()
  · refine Proc.Keeps.when fun _ => (onPump_keeps (hset .autoHibernate)).bind fun result => ?_
    cases result with
    | ok _ =>
        refine Proc.Keeps.bind (Proc.Keeps.modify fun s m hs => ?_) fun _ => (hpoint false).perform
        exact hshadow s false s.adcWakeN m hs
    | error _ => exact Proc.Keeps.pure ()
  · exact Proc.Keeps.pure ()

/-- One correction, from the state it is counted in. It asks for standby, which a chip in 1:1 is
put into. -/
theorem HeldRules.walkOnce_wp (h : HeldRules N J)
    (hstandby : ∀ s, Proc.Keeps N.onLeft (onPumpOf J s) standby) (d : Decision) (dead : Bool)
    (now : Nat) (s : Held) (m : N.State)
    (hs : J
      { s with
        lastWindowNudgeMs := now
        windowStallN := satAdd 32 s.windowStallN 1 } m) :
    (walkOnce d dead now).wp N (fun _ s' m' => J s' m') s m := by
  have hleave : Proc.Keeps N J (leaveBypass d.obs.status.opMode) :=
    Proc.Keeps.ite (fun _ => (onPump_keeps hstandby).bind fun _ => Proc.Keeps.pure _)
      fun _ => Proc.Keeps.pure false
  -- the stamp and the stall count are set before any transfer
  refine (Proc.wp_modify_bind s m _ _ _).2 (Proc.Keeps.run ?_ _ m hs)
  refine hleave.bind fun left => (h.nudge _ _ _).bind fun sent =>
    Proc.Keeps.bind (Proc.Keeps.when fun _ => ?_) fun _ => Proc.Keeps.pure left
  exact h.modify fun s => ⟨⟨rfl, rfl, rfl, rfl, rfl⟩, rfl⟩

/-- A walk of the bus back into the window. -/
theorem HeldRules.walkWindow (h : HeldRules N J) (hfree : Held.Windowless J)
    (hstandby : ∀ s, Proc.Keeps N.onLeft (onPumpOf J s) standby) (d : Decision) :
    Proc.Keeps N J (walkWindow d) := by
  -- one correction, from whatever window and stall count it starts
  have hwalk : ∀ dead now, Proc.Keeps N J (walkOnce d dead now) := fun dead now =>
    ⟨fun s m hs => h.walkOnce_wp hstandby d dead now s m (hfree s now _ _ m hs)⟩
  refine Proc.Keeps.get.bind fun s => Proc.Keeps.ite (fun _ => ?_) fun _ => ?_
  · refine h.now.bind fun now => Proc.Keeps.bind (Proc.Keeps.modify fun s m hs => ?_) fun _ => ?_
    · unfold noteProgress
      split
      · exact hfree s _ _ _ m hs
      · exact hs
    · refine Proc.Keeps.get.bind fun s => Proc.Keeps.ite (fun _ => hwalk _ _) fun _ => ?_
      exact Proc.Keeps.pure false
  · exact Proc.Keeps.bind (Proc.Keeps.modify fun s m hs => hfree s _ _ _ m hs) fun _ =>
      Proc.Keeps.pure false

/-- The second try of a tick whose start failed. -/
theorem StartRules.recoverFailedCharge (h : StartRules N J) (vbusUv : Int) :
    Proc.Keeps N J (recoverFailedCharge vbusUv) := by
  have hrecover : Proc.Keeps N J (onPumpTotal recoverLnShutdown) := onPumpTotal_keeps fun s =>
    recoverLnShutdown_keeps (h.calm s) (h.charge s) (h.configure s) (h.softReset s)
  have hrebuild : Proc.Keeps N J (onPumpTotal rebuildAndCharge) := onPumpTotal_keeps fun s =>
    rebuildAndCharge_keeps (h.calm s) (h.charge s) (h.configure s) (h.softReset s)
  refine hrecover.bind fun recovery => ?_
  cases recovery with
  | some _ =>
      refine h.now.bind fun now => ?_
      exact Proc.Keeps.bind (h.modify fun s => ⟨⟨rfl, rfl, rfl, rfl, rfl⟩, rfl⟩) fun _ =>
        h.countChargeAttempt
  -- the chip was not shut down: rebuilt, or only its faults cleared
  | none =>
      refine Proc.Keeps.ite (fun _ => ?_) fun _ => ?_
      · exact hrebuild.bind fun _ => h.countChargeAttempt
      · exact (onPump_keeps fun s => clearLatchedFaults_keeps (h.calm s).toSettled).discard

/-- The start a tick decides on. -/
theorem StartRules.startFromTick (h : StartRules N J) (vbusUv : Int) :
    Proc.Keeps N J (startFromTick vbusUv) := by
  refine h.attemptCharge.bind fun outcome => ?_
  obtain ⟨recovered, result⟩ := outcome
  cases result with
  | ok mode => exact h.modify fun s => ⟨⟨rfl, rfl, rfl, rfl, rfl⟩, rfl⟩
  | error err =>
      refine Proc.Keeps.bind (h.modify fun s => ⟨⟨rfl, rfl, rfl, rfl, rfl⟩, rfl⟩) fun _ => ?_
      refine Proc.Keeps.get.bind fun s => Proc.Keeps.when fun _ => ?_
      refine Proc.Keeps.bind (h.modify fun s => ⟨⟨rfl, rfl, rfl, rfl, rfl⟩, rfl⟩) fun _ => ?_
      exact Proc.Keeps.when fun _ => h.recoverFailedCharge vbusUv

/-- The mode decision starts or stops a charge only after a protection step that changed
nothing. -/
theorem HeldRules.decideMode (h : HeldRules N J) {changed : Bool}
    (hstart : changed = false → StartRules N J) (d : Decision) (left : Bool) :
    Proc.Keeps N J (decideMode d changed left) := by
  refine Proc.Keeps.ite (fun _ => ?_) fun _ => Proc.Keeps.ite (fun hsome => ?_) fun _ => ?_
  · exact h.now.bind fun now => h.modify fun s => ⟨⟨rfl, rfl, rfl, rfl, rfl⟩, rfl⟩
  · refine h.now.bind fun now => Proc.Keeps.get.bind fun s => Proc.Keeps.when fun _ => ?_
    refine Proc.Keeps.bind (h.modify fun s => ⟨⟨rfl, rfl, rfl, rfl, rfl⟩, rfl⟩) fun _ => ?_
    exact (hstart hsome.2.1).startFromTick _
  · refine Proc.Keeps.when fun hstop => ?_
    simp only [Bool.and_eq_true, Bool.not_eq_true'] at hstop
    have hcharge := hstart hstop.1.2
    exact (onPump_keeps fun s => setCharging_keeps (h.calm s) (hcharge.charge s) false).discard

omit [LoopFuel] in
/-- The schedule of a second negotiation is part of the time. -/
theorem alike_scheduleReelevation (s : Held) (d : Decision) (now : Nat) (input : Bool) :
    s.Alike (s.mapContext fun ctx =>
      { (ctx.scheduleReelevation d.reelevateOwns now).2 with lastInputPresent := input }) := by
  unfold Held.mapContext Context.scheduleReelevation
  refine ⟨rfl, ?_, ?_, ?_, ?_⟩ <;> dsimp only <;> split <;> (try split) <;> (try split) <;> rfl

omit [LoopFuel] in
/-- What a tick wants of the negotiation when it is due. -/
theorem HeldRules.dueWants (h : HeldRules N J) (hfree : Held.Timeless J) (d : Decision) :
    Proc.Keeps N J (dueWants d) := by
  refine Proc.Keeps.get.bind fun s => h.now.bind fun now => ?_
  refine Proc.Keeps.bind (Proc.Keeps.modify fun s m hs => ?_) fun _ => Proc.Keeps.pure _
  exact hfree s _ m (alike_scheduleReelevation s d now _) hs

/-- The acting half of a tick. The protection step leads from `J` to `K` of its answer. A
charge is started only in `K false`. The decision what is due ends the tick. -/
theorem act_wp_due {obs : Observation} {K : Bool → Held → N.State → Prop}
    {Q : Except Empty Wants → Held → N.State → Prop}
    (hprotect : ∀ s m, J s m → (protect obs).wp N
      (fun outcome s' m' => ∃ changed, outcome = .ok changed ∧ K changed s' m') s m)
    (hK : ∀ changed, HeldRules N (K changed))
    (hwalk : ∀ changed d, Proc.Keeps N (K changed) (walkWindow d))
    (hstart : StartRules N (K false))
    (hdue : ∀ changed d s m, K changed s m → (dueWants d).wp N Q s m) (s : Held) (m : N.State)
    (hs : J s m) : (act obs).wp N Q s m := by
  refine (Proc.wp_bind _ _ _ _ _).2 (Proc.wp_mono (hprotect s m hs) ?_)
  rintro outcome s m ⟨changed, rfl, hs⟩
  have h := hK changed
  -- a charge start comes only after a step of the guard that changed nothing
  have hcharge : changed = false → StartRules N (K changed) := by
    rintro rfl
    exact hstart
  refine (h.clearLatches _).wp_bind hs ?_ fun e => nomatch e
  intro _ s m hs
  refine Proc.Keeps.get.wp_bind hs ?_ fun e => nomatch e
  intro ctx s m hs
  refine (hwalk changed _).wp_bind hs ?_ fun e => nomatch e
  intro left s m hs
  refine (h.decideMode hcharge _ left).wp_bind hs ?_ fun e => nomatch e
  intro _ s m hs
  have hwatchdog : Proc.Keeps N (K changed) (Proc.discard (onPump serviceWatchdog) : HeldM Unit) :=
    (onPump_keeps fun s => serviceWatchdog_keeps (h.calm s).toSettled).discard
  refine hwatchdog.wp_bind hs ?_ fun e => nomatch e
  intro _ s m hs
  exact hdue changed _ s m hs

/-- The acting half of a tick, for an invariant that does not read the schedule. -/
theorem act_wp {obs : Observation} {K : Bool → Held → N.State → Prop}
    (hprotect : ∀ s m, J s m → (protect obs).wp N
      (fun outcome s' m' => ∃ changed, outcome = .ok changed ∧ K changed s' m') s m)
    (hK : ∀ changed, HeldRules N (K changed)) (hfree : ∀ changed, Held.Timeless (K changed))
    (hwindow : ∀ changed, Held.Windowless (K changed))
    (hstandby : ∀ changed s, Proc.Keeps N.onLeft (onPumpOf (K changed) s) standby)
    (hstart : StartRules N (K false)) (s : Held) (m : N.State) (hs : J s m) :
    (act obs).wp N (fun _ s' m' => ∃ changed, K changed s' m') s m := by
  have hwalk : ∀ changed d, Proc.Keeps N (K changed) (walkWindow d) := fun changed d =>
    (hK changed).walkWindow (hwindow changed) (hstandby changed) d
  refine act_wp_due hprotect hK hwalk hstart ?_ s m hs
  intro changed d s m hs
  refine Proc.wp_mono (((hK changed).dueWants (hfree changed) d).run s m hs) ?_
  exact fun _ s' m' h' => ⟨changed, h'⟩

/-- A tick with the pump in hand: `J` before the protection step, `L` of the observation
after the wake of the ADC. A status that cannot be read ends it. -/
theorem HeldRules.tickOnPump_wp (h : HeldRules N J) {L : Observation → Held → N.State → Prop}
    {Q : Except Empty (Option Wants) → Held → N.State → Prop}
    (hL : ∀ obs, HeldRules N (L obs))
    (hwake : ∀ obs s m, J s m → (Kmdf.keepAdcAwake obs).wp N (fun _ s' m' => L obs s' m') s m)
    (hact : ∀ obs s m, L obs s m →
      (act obs).wp N (fun outcome s' m' => Q (outcome.map some) s' m') s m)
    (hnone : ∀ s m, J s m → Q (.ok none) s m)
    (gauge : GaugePoll) (s : Held) (m : N.State) (hs : J s m) :
    (tickOnPump gauge).wp N Q s m := by
  have hstatus : Proc.Keeps N J (onPump Ln8000.status) :=
    onPump_keeps fun s => status_keeps (h.calm s).toModes
  refine hstatus.wp_bind hs ?_ fun e => nomatch e
  intro outcome s m hs
  -- a tick whose status cannot be read records the error and does nothing else
  cases outcome with
  | error err =>
      have hfail : Proc.Keeps N J (Proc.modify fun s => { s with lastError := -10 } : HeldM Unit) :=
        h.modify fun s => ⟨⟨rfl, rfl, rfl, rfl, rfl⟩, rfl⟩
      refine hfail.wp_bind hs ?_ fun e => nomatch e
      intro _ s m hs
      exact (Proc.wp_pure _ s m none).2 (hnone s m hs)
  | ok st =>
      rw [Proc.wp_bind]
      refine Proc.wp_mono (h.observe_wp hL hwake gauge st s m hs) ?_
      rintro outcome s m ⟨obs, rfl, hs⟩
      rw [Proc.thenWp_ok, Proc.wp_bind]
      refine Proc.wp_mono (hact obs s m hs) ?_
      rintro (e | wants) s m hs
      · nomatch e
      · exact (Proc.wp_pure _ s m (some wants)).2 hs

end

end Kmdf
