import NabuCharger.Kmdf.Bench
import NabuCharger.Kmdf.CountRules
import NabuCharger.Logic.Laws

/-!
# `Proofs.Overheat`: what the guard does when 1:1 is denied

Above `temp_bypass_dc` the guard asks for 1:1. Where `Vin` denies it, the first demand lowers the
current to the floor and counts a strike, and a demand that finds a strike goes to standby. The
counter outlives the tick. It is zeroed at a usable temperature of `temp_bypass_dc` less the
hysteresis, and by every other action of the guard.

`strikeWatch` keeps the counter from the points of the protection step alone, and every run of the
driver agrees with it (`session_counts`): nothing else moves the counter. So the steps of a run
form a chain (`Struck`), and what the claims about episodes need is read off the chain.

One input of a step is no part of the sample: the setpoint that stands in the chip. Between
`temp_bypass_dc` and the end of the episode the guard compares it with the ceiling of the band,
and a reduction zeroes the counter. So two episodes with the same samples agree if the setpoints
do (`SameStep`), and a reduction to the floor that was lost on the bus is enough to part them
(`not_samples_decide`).
-/

set_option autoImplicit false

namespace Kmdf

open Effectful Ln8000

/-! ### The order of a step -/

/-- What a step of the guard asks of the pump. -/
inductive GuardOrder
  | nothing
  | current (toUa : Nat)
  | bypass
  | standby
  deriving DecidableEq, Repr

/-- The pump call an order stands for. -/
def GuardOrder.run [LoopFuel] : GuardOrder → HeldM Unit
  | .nothing => pure ()
  | .current toUa => Proc.discard (onPump (setIinLimit toUa))
  | .bypass => Proc.discard (onPump enableBypass)
  | .standby => Proc.discard (onPump Ln8000.standby)

namespace GuardInputs

variable (inputs : GuardInputs)

/-- What a demand for 1:1 resolves to. -/
def resolution : BypassResolution :=
  resolveBypass inputs.vbusUv inputs.sample.vbatUv inputs.deniedStrikes inputs.limits

/-- The order of a step, a demand for 1:1 resolved as `resolution` says. -/
def order : GuardOrder :=
  match inputs.action with
  | .none => .nothing
  | .reduceCurrent toUa _ | .restoreCurrent toUa _ => .current toUa
  | .fallbackToBypass _ =>
      match inputs.resolution with
      | .allowed => .bypass
      | .reduceCurrent toUa _ => .current toUa
      | .stop _ => .standby
  | .stop _ => .standby

/-- The counter the step leaves. -/
def strikesAfter : Nat :=
  match inputs.action with
  | .none => inputs.deniedStrikes
  | .reduceCurrent _ _ | .restoreCurrent _ _ | .stop _ => 0
  | .fallbackToBypass _ =>
      match inputs.resolution with
      | .allowed => 0
      | .reduceCurrent _ _ => satAdd 32 inputs.deniedStrikes 1
      | .stop _ => inputs.deniedStrikes

/-- The guard asks for 1:1. -/
def asks : Bool :=
  match inputs.action with
  | .fallbackToBypass _ => true
  | _ => false

/-- The step begins below the end of the over-temperature. -/
def recovered : Bool := bypassStrikesExpired inputs.sample inputs.limits

/-- 1:1 is denied by `Vin`. -/
def denied : Bool := !bypassAllowedByVin inputs.vbusUv inputs.sample.vbatUv

end GuardInputs

section
variable [LoopFuel] {inputs : GuardInputs} {s : Held}

/-- A demand for 1:1 is resolved with the counter of the driver. -/
theorem applyGuard_fallback (reason : String) (vinUv : Int) (vbatUv : Nat) (limits : GuardLimits)
    (s : Held) :
    applyGuard (.fallbackToBypass reason) vinUv vbatUv limits s =
      applyResolution (resolveBypass vinUv vbatUv s.bypassDeniedStrikes limits) s := by
  rw [applyGuard, Proc.get_bind_apply]

/-- A step moves the counter and carries out its order. -/
theorem applyGuard_eq (h : s.bypassDeniedStrikes = inputs.deniedStrikes)
    (hchange : inputs.action.isChange = true) :
    applyGuard inputs.action inputs.vbusUv inputs.sample.vbatUv inputs.limits s =
      inputs.order.run { s with bypassDeniedStrikes := inputs.strikesAfter } := by
  have hsame : { s with bypassDeniedStrikes := inputs.deniedStrikes } = s := by rw [← h]
  unfold GuardInputs.order GuardInputs.strikesAfter
  -- each action is the order it stands for, and 1:1 the order of its resolution
  cases haction : inputs.action with
  | none =>
      rw [haction] at hchange
      cases hchange
  | reduceCurrent toUa reason => rfl
  | restoreCurrent toUa reason => rfl
  | stop reason => rfl
  | fallbackToBypass reason =>
      rw [applyGuard_fallback, h, ← GuardInputs.resolution]
      cases hresolution : inputs.resolution with
      | allowed => rfl
      | reduceCurrent toUa reason =>
          rw [applyResolution, Proc.modify_bind_apply, h]
          generalize satAdd 32 inputs.deniedStrikes 1 = strikes
          rfl
      | stop reason =>
          simp only [hsame]
          rfl

/-- So does the decision: a step that changes nothing has no order and leaves the counter. -/
theorem applyDecision_eq (h : s.bypassDeniedStrikes = inputs.deniedStrikes) :
    applyDecision inputs s = (do
      inputs.order.run
      Proc.when inputs.action.isChange
        (Proc.modify fun s => { s with actions := satAdd 32 s.actions 1 })
      pure inputs.action.isChange : HeldM Bool)
        { s with bypassDeniedStrikes := inputs.strikesAfter } := by
  unfold applyDecision
  cases hchange : inputs.action.isChange with
  | true =>
      have happlied := applyGuard_eq h hchange
      rw [Proc.when, if_pos rfl, Proc.bind_assoc, Proc.bind_apply, happlied, Proc.bind_apply]
      rfl
  | false =>
      have haction : inputs.action = .none := by
        simpa [GuardAction.isChange] using hchange
      -- no action: the strikes are what they were
      have hsame : { s with bypassDeniedStrikes := inputs.strikesAfter } = s := by
        rw [GuardInputs.strikesAfter, haction, ← h]
      rw [hsame, GuardInputs.order, haction]
      rfl

end

/-! ### The counter of a run -/

/-- The step is taken with the counter the steps before it left, zeroed where the
over-temperature has ended. -/
structure GuardInputs.Continues (inputs : GuardInputs) (strikes : Nat) : Prop where
  strikes : inputs.deniedStrikes = if inputs.recovered = true then 0 else strikes
  threshold : 200 ≤ inputs.limits.tempBypassDc

/-- Keeps the counter from what the steps were taken on. -/
abbrev strikeWatch : Machine DevEffect where
  State := Nat
  allow _ _ _ := True
  require strikes
    | .inr (.point (.guard inputs)) => inputs.Continues strikes
    | _ => True
  next strikes
    | .inr (.point (.guard inputs)), _ => inputs.strikesAfter
    | _, _ => strikes

/-- The driver's counter is the one of the watch. -/
abbrev StrikesKept (strikes : Nat) (_ : Window) (limits : GuardLimits) (m : Nat) : Prop :=
  strikes = m ∧ 200 ≤ limits.tempBypassDc

/-- The registry cannot lower the threshold further. -/
theorem le_readParameters_tempBypassDc (key : Option Registry) :
    200 ≤ (readParameters key).limits.tempBypassDc := by
  cases key with
  | none => decide
  | some key =>
      simp only [readParameters]
      split
      · refine applyAll_induction (P := fun limits : GuardLimits => 200 ≤ limits.tempBypassDc)
          ?_ _ (show 200 ≤ GuardLimits.standard.tempBypassDc by decide)
        intro limits name value h
        unfold GuardLimits.applyParameterLenient
        split_ifs
        all_goals first | exact h | (show (200 : Int) ≤ value; omega)
      · exact show 200 ≤ GuardLimits.standard.tempBypassDc by decide

/-- Everything but the guard leaves the strike counter as the watch has it. -/
theorem strikeRules : CountRules strikeWatch StrikesKept where
  deaf := ⟨fun _ _ => trivial, fun _ _ _ => rfl⟩
  host o ho _ _ _ m hs := by
    cases o with
    | point p =>
        cases p with
        | guard inputs => cases ho
        | _ => exact ⟨trivial, fun _ _ => hs⟩
    | _ => exact ⟨trivial, fun _ _ => hs⟩
  capped _ _ _ _ _ hs := hs
  settings _ _ _ key _ hs := ⟨hs.1, le_readParameters_tempBypassDc key⟩

section
variable [LoopFuel]

/-- The order of a step leaves the counter alone. -/
theorem orderRun_strikes (order : GuardOrder) :
    Proc.Keeps strikeWatch (heldOf (countsOf StrikesKept)) order.run := by
  cases order with
  | nothing => exact Proc.Keeps.pure ()
  | current toUa => exact (strikeRules.onPump _).discard
  | bypass => exact (strikeRules.onPump _).discard
  | standby => exact (strikeRules.onPump _).discard

/-- A step that is taken with the counter of the driver leaves the one of the watch. -/
theorem applyDecision_strikes (inputs : GuardInputs) (s : Held)
    (h : s.bypassDeniedStrikes = inputs.deniedStrikes) (hlimits : 200 ≤ s.limits.tempBypassDc) :
    (applyDecision inputs).wp strikeWatch
      (fun _ s' m' => heldOf (countsOf StrikesKept) s' m') s inputs.strikesAfter := by
  -- what follows the order keeps the strikes
  have hstep : Proc.Keeps strikeWatch (heldOf (countsOf StrikesKept)) (do
      inputs.order.run
      Proc.when inputs.action.isChange
        (Proc.modify fun s => { s with actions := satAdd 32 s.actions 1 })
      pure inputs.action.isChange : HeldM Bool) :=
    (orderRun_strikes inputs.order).bind fun _ =>
      (Proc.Keeps.when fun _ => strikeRules.driver.held.countAction).bind fun _ =>
        Proc.Keeps.pure _
  have hrun := hstep.run { s with bypassDeniedStrikes := inputs.strikesAfter } inputs.strikesAfter
    ⟨rfl, hlimits⟩
  unfold Proc.wp
  rw [applyDecision_eq h]
  exact hrun.prog

/-- The protection step. -/
theorem protect_strikes (obs : Observation) :
    Proc.Keeps strikeWatch (heldOf (countsOf StrikesKept)) (protect obs) := by
  -- the counter after the expiry, while the inputs are read
  let J : Held → Nat → Prop := fun s m =>
    s.bypassDeniedStrikes = (if bypassStrikesExpired obs.sample s.limits = true then 0 else m) ∧
      200 ≤ s.limits.tempBypassDc
  have hJ : HeldRules strikeWatch J := by
    refine strikeRules.deaf.held (fun _ _ _ hs => hs) ?_ ?_
    · intro s s' m hsame hs
      show s'.bypassDeniedStrikes = _ ∧ 200 ≤ s'.limits.tempBypassDc
      rw [hsame.strikes, hsame.limits]
      exact hs
    · intro o ho s m hs
      cases o with
      | point p => cases ho
      | _ => exact ⟨trivial, fun _ _ => hs⟩
  have hrest : ∀ s m, J s m → (do
      let inputs ← guardInputs obs
      point (.guard inputs)
      applyDecision inputs).wp strikeWatch
        (fun _ s' m' => heldOf (countsOf StrikesKept) s' m') s m := by
    intro s m hs
    refine (Proc.wp_bind _ _ _ _ _).2 (Proc.wp_mono (hJ.guardInputs_wp obs s m hs) ?_)
    rintro _ s m ⟨applied, rfl, hs⟩
    refine (Proc.wp_perform_bind (E := DevEffect) s m _ _ _).2 ⟨⟨hs.1, hs.2⟩, fun _ _ => ?_⟩
    exact applyDecision_strikes _ s rfl hs.2
  refine ⟨fun s m hs => (Proc.wp_get_bind s m _ _).2 ?_⟩
  obtain ⟨rfl, hthreshold⟩ := hs
  by_cases hexpired : bypassStrikesExpired obs.sample s.limits = true
  · rw [Proc.when, if_pos hexpired, Proc.wp_modify_bind]
    refine hrest _ _ ⟨?_, hthreshold⟩
    show 0 = _
    rw [if_pos (show bypassStrikesExpired obs.sample (clearStrikes s).limits = true from hexpired)]
  · rw [Proc.when, if_neg hexpired]
    refine hrest s _ ⟨?_, hthreshold⟩
    rw [if_neg hexpired]
    rfl

/-- A telemetry tick keeps the strike counter as the watch has it. -/
theorem telemetryTick_strikes :
    Proc.Keeps strikeWatch (countsOf StrikesKept) telemetryTick := by
  refine strikeRules.tick (strikeRules.tickOnPump protect_strikes ?_)
  exact strikeRules.driver.held.walkWindow (fun s _ _ _ m hs => hs)
    fun s => strikeRules.deaf.pump (fun _ _ _ hs => hs) s _

/-- The counter of the driver is the one of the watch in every run. -/
theorem session_strikes {log : List (Entry DevEffect DriverState DriverOp)}
    (h : Session DriverOp.run DriverState.new log) : strikeWatch.Meets 0 (exchanges log) := by
  have hop : ∀ op : DriverOp, Proc.Keeps strikeWatch (countsOf StrikesKept) op.run := by
    intro op
    by_cases htick : op = .tick
    · rw [htick]
      exact telemetryTick_strikes
    · exact strikeRules.run op htick
  exact h.meets hop 0 ⟨rfl, by decide⟩

end

/-! ### The steps of a run -/

/-- The steps of the guard in a trace. -/
def guardSteps (t : List (Event DevEffect)) : List GuardInputs :=
  t.filterMap fun e =>
    match e.op with
    | .inr (.point (.guard inputs)) => some inputs
    | _ => none

/-- The counter that these steps leave. -/
def strikesLeft : Nat → List GuardInputs → Nat
  | strikes, [] => strikes
  | _, step :: steps => strikesLeft step.strikesAfter steps

/-- Each step continues with the counter the one before left. -/
def Struck : Nat → List GuardInputs → Prop
  | _, [] => True
  | strikes, step :: steps => step.Continues strikes ∧ Struck step.strikesAfter steps

/-- What the watch is met by is a chain. -/
theorem counted_of_meets {t : List (Event DevEffect)} :
    ∀ strikes : Nat, strikeWatch.Meets strikes t → Struck strikes (guardSteps t) := by
  induction t with
  | nil => exact fun _ _ => trivial
  | cons e t ih =>
      intro strikes h
      obtain ⟨hhere, hrest⟩ := (Machine.meets_cons strikeWatch strikes e t).1 h
      have hrest := ih _ (hrest trivial)
      obtain ⟨op, resp⟩ := e
      cases op with
      | inl o => exact hrest
      | inr o =>
          cases o with
          | point q =>
              cases q with
              -- the only exchange that the watch judges
              | guard inputs => exact ⟨hhere, hrest⟩
              | _ => exact hrest
          | _ => exact hrest

/-- Steps in two parts chain exactly when the second starts from the count the first left. -/
theorem counted_append {strikes : Nat} {before after : List GuardInputs} :
    Struck strikes (before ++ after) ↔
      Struck strikes before ∧ Struck (strikesLeft strikes before) after := by
  induction before generalizing strikes with
  | nil => exact (true_and _).symm.to_iff
  | cons step before ih => exact (and_congr_right fun _ => ih).trans and_assoc.symm

/-- A step of a chain continues with what the steps before it left. -/
theorem Struck.step {strikes : Nat} {before after : List GuardInputs} {step : GuardInputs}
    (h : Struck strikes (before ++ step :: after)) :
    step.Continues (strikesLeft strikes before) ∧ Struck step.strikesAfter after :=
  (counted_append.1 h).2

namespace GuardInputs

variable {inputs : GuardInputs} {strikes : Nat}

/-! ### One step -/

/-- A step that asks for 1:1 acts by demanding the fallback. -/
theorem action_of_asks (h : inputs.asks = true) :
    ∃ reason, inputs.action = .fallbackToBypass reason := by
  rw [asks] at h
  split at h
  · next reason haction => exact ⟨reason, haction⟩
  · cases h

/-- Where 1:1 is denied, the counter decides between the floor and standby. -/
theorem resolution_of_denied (hdenied : inputs.denied = true) :
    inputs.resolution =
      if inputs.deniedStrikes = 0 then
        .reduceCurrent inputs.limits.iinFloorUa "die_temp_bypass_no_vin_headroom"
      else .stop "die_temp_bypass_no_vin_headroom" := by
  have hvin : bypassAllowedByVin inputs.vbusUv inputs.sample.vbatUv = false := by
    simpa [denied] using hdenied
  rw [resolution, resolveBypass, hvin, if_neg Bool.false_ne_true, bypassDeniedStrikesBeforeStop]
  by_cases hzero : inputs.deniedStrikes = 0
  · rw [if_neg (by omega), if_pos hzero]
  · rw [if_pos (Nat.one_le_iff_ne_zero.2 hzero), if_neg hzero]

/-- The first denial orders the floor and counts. -/
theorem floor_of_denied (hasks : inputs.asks = true) (hdenied : inputs.denied = true)
    (hzero : inputs.deniedStrikes = 0) :
    inputs.order = .current inputs.limits.iinFloorUa ∧ inputs.strikesAfter = 1 := by
  have hresolved := resolution_of_denied hdenied
  rw [if_pos hzero] at hresolved
  obtain ⟨reason, haction⟩ := action_of_asks hasks
  rw [order, strikesAfter, haction, hresolved, hzero]
  exact ⟨rfl, rfl⟩

/-- A further one orders standby and leaves the counter. -/
theorem standby_of_denied (hasks : inputs.asks = true) (hdenied : inputs.denied = true)
    (hcount : inputs.deniedStrikes ≠ 0) :
    inputs.order = .standby ∧ inputs.strikesAfter = inputs.deniedStrikes := by
  have hresolved := resolution_of_denied hdenied
  rw [if_neg hcount] at hresolved
  obtain ⟨reason, haction⟩ := action_of_asks hasks
  rw [order, strikesAfter, haction, hresolved]
  exact ⟨rfl, rfl⟩

/-- A denial never leaves the counter at zero. -/
theorem strikesAfter_ne_zero (hasks : inputs.asks = true) (hdenied : inputs.denied = true) :
    inputs.strikesAfter ≠ 0 := by
  by_cases hzero : inputs.deniedStrikes = 0
  · rw [(floor_of_denied hasks hdenied hzero).2]
    exact Nat.one_ne_zero
  · rw [(standby_of_denied hasks hdenied hzero).2]
    exact hzero

/-- Without a demand the counter stays or is zeroed. -/
theorem strikesAfter_of_not_asks (h : inputs.asks = false) :
    inputs.strikesAfter = inputs.deniedStrikes ∨ inputs.strikesAfter = 0 := by
  rw [strikesAfter]
  cases haction : inputs.action with
  | none => exact .inl rfl
  | reduceCurrent toUa reason => exact .inr rfl
  | restoreCurrent toUa reason => exact .inr rfl
  | stop reason => exact .inr rfl
  | fallbackToBypass reason =>
      rw [asks, haction] at h
      cases h

/-- Where the over-temperature has ended, the guard does not ask for 1:1. -/
theorem not_asks_of_recovered (h : inputs.Continues strikes)
    (hrecovered : inputs.recovered = true) : inputs.asks = false := by
  refine Bool.eq_false_of_not_eq_true fun hasks => ?_
  obtain ⟨reason, haction⟩ := action_of_asks hasks
  have hhot := (evaluate_eq_fallback haction).2
  have hthreshold := h.threshold
  rw [recovered, bypassStrikesExpired, Bool.and_eq_true] at hrecovered
  have hcool := of_decide_eq_true hrecovered.2
  rw [satSubI32, tempReduceHystDc] at hcool
  omega

/-- There the counter is zeroed. -/
theorem zeroed_of_recovered (h : inputs.Continues strikes)
    (hrecovered : inputs.recovered = true) :
    inputs.deniedStrikes = 0 ∧ inputs.strikesAfter = 0 := by
  have hzero : inputs.deniedStrikes = 0 := by rw [h.strikes, if_pos hrecovered]
  refine ⟨hzero, ?_⟩
  rcases strikesAfter_of_not_asks (not_asks_of_recovered h hrecovered) with hkept | hzeroed
  · rw [hkept, hzero]
  · exact hzeroed

/-- An unusable temperature leaves the counter alone. -/
theorem kept_of_unusable (h : inputs.Continues strikes)
    (hunusable : dieTempUsable inputs.sample = false) :
    inputs.deniedStrikes = strikes ∧ inputs.strikesAfter = strikes := by
  have hkept : inputs.deniedStrikes = strikes := by
    have hrecovered : inputs.recovered = false := by
      rw [recovered, bypassStrikesExpired, hunusable, Bool.false_and]
    rw [h.strikes, hrecovered, if_neg Bool.false_ne_true]
  have haction : inputs.action = .none := evaluate_of_unusable hunusable _ _ _
  refine ⟨hkept, ?_⟩
  rw [strikesAfter, haction]
  exact hkept

end GuardInputs

/-! ### Many steps -/

variable {strikes : Nat}

/-- Steps that ask for nothing leave a zero where it is. -/
theorem Struck.quiet {steps : List GuardInputs} (h : Struck 0 steps)
    (hquiet : ∀ step ∈ steps, step.asks = false) : strikesLeft 0 steps = 0 := by
  induction steps with
  | nil => rfl
  | cons step steps ih =>
      obtain ⟨hstep, hrest⟩ := h
      -- a step that asks for nothing leaves no strike
      have hzero : step.strikesAfter = 0 := by
        have hbefore : step.deniedStrikes = 0 := by rw [hstep.strikes, ite_self]
        rcases GuardInputs.strikesAfter_of_not_asks (hquiet step (List.mem_cons_self ..)) with
          hkept | hzeroed
        · rw [hkept, hbefore]
        · exact hzeroed
      rw [strikesLeft, hzero]
      rw [hzero] at hrest
      exact ih hrest fun later hlater => hquiet later (List.mem_cons_of_mem _ hlater)

/-- Steps that all leave a count leave one together. -/
theorem strikesLeft_ne_zero {steps : List GuardInputs}
    (h : ∀ step ∈ steps, step.strikesAfter ≠ 0) (hstrikes : strikes ≠ 0) :
    strikesLeft strikes steps ≠ 0 := by
  induction steps generalizing strikes with
  | nil => exact hstrikes
  | cons step steps ih =>
      obtain ⟨hstep, hrest⟩ := List.forall_mem_cons.1 h
      exact ih hrest hstep

/-- The same sample, up to its time, the same limits and `Vin`. -/
structure SameSample (step step' : GuardInputs) : Prop where
  sample : { step'.sample with tsMs := step.sample.tsMs } = step.sample
  limits : step'.limits = step.limits
  vbusUv : step'.vbusUv = step.vbusUv

/-- The same setpoints as well, where the guard reads them. -/
structure SameStep (step step' : GuardInputs) : Prop extends SameSample step step' where
  setpoints : currentDecided step.sample step.limits = true →
    step'.appliedIinUa = step.appliedIinUa ∧ step'.deliberateIinUa = step.deliberateIinUa

/-- No decision reads the time of the sample. -/
theorem evaluate_tsMs (sample : TelemetrySample) (tsMs : Nat) (limits : GuardLimits)
    (applied deliberate : Option Nat) :
    evaluate { sample with tsMs := tsMs } limits applied deliberate =
      evaluate sample limits applied deliberate := rfl

section
variable {step step' : GuardInputs}

/-- The same step decides the same. -/
theorem SameStep.action (h : SameStep step step') : step'.action = step.action := by
  have hsample : ∀ applied deliberate, evaluate step'.sample step'.limits applied deliberate =
      evaluate step.sample step.limits applied deliberate := by
    intro applied deliberate
    rw [h.limits, ← h.sample]
    exact (evaluate_tsMs step'.sample step.sample.tsMs step.limits applied deliberate).symm
  rw [GuardInputs.action, GuardInputs.action, hsample]
  cases hdecided : currentDecided step.sample step.limits with
  | true =>
      obtain ⟨happlied, hdeliberate⟩ := h.setpoints hdecided
      rw [happlied, hdeliberate]
  | false => exact evaluate_of_not_currentDecided hdecided _ _ _ _

/-- Whether the die has recovered depends on the sample alone. -/
theorem SameSample.recovered (h : SameSample step step') : step'.recovered = step.recovered := by
  rw [GuardInputs.recovered, GuardInputs.recovered, ← h.sample, h.limits]
  rfl

/-- From the same counter it orders the same, and leaves the same counter. -/
theorem SameStep.order (h : SameStep step step') (hstep : step.Continues strikes)
    (hstep' : step'.Continues strikes) :
    step'.order = step.order ∧ step'.strikesAfter = step.strikesAfter := by
  have hcount : step'.deniedStrikes = step.deniedStrikes := by
    rw [hstep.strikes, hstep'.strikes, h.recovered]
  have hresolution : step'.resolution = step.resolution := by
    rw [GuardInputs.resolution, GuardInputs.resolution, h.vbusUv, h.limits, hcount, ← h.sample]
  rw [GuardInputs.order, GuardInputs.order, GuardInputs.strikesAfter, GuardInputs.strikesAfter,
    h.action, hresolution, hcount]
  exact ⟨rfl, rfl⟩

end

/-- The same steps from the same counter: the same actions and the same orders. -/
theorem Struck.agree {steps steps' : List GuardInputs} (hsame : List.Forall₂ SameStep steps steps')
    (h : Struck strikes steps) (h' : Struck strikes steps') :
    steps'.map GuardInputs.action = steps.map GuardInputs.action ∧
      steps'.map GuardInputs.order = steps.map GuardInputs.order := by
  induction hsame generalizing strikes with
  | nil => exact ⟨rfl, rfl⟩
  | cons hstep _ ih =>
      obtain ⟨horder, hafter⟩ := hstep.order h.1 h'.1
      have hrest' := h'.2
      rw [hafter] at hrest'
      obtain ⟨hactions, horders⟩ := ih h.2 hrest'
      simp only [List.map_cons, hstep.action, horder, hactions, horders]
      exact ⟨trivial, trivial⟩

/-! ### Every run -/

/-- How the demands for 1:1 are answered over the steps of a run. -/
structure Answered (steps : List GuardInputs) : Prop where
  /-- The first denial since the counter was zero orders the floor. -/
  floor : ∀ before quiet step after, steps = before ++ (quiet ++ step :: after) →
    strikesLeft 0 before = 0 → (∀ q ∈ quiet, q.asks = false) →
    step.asks = true → step.denied = true → step.order = .current step.limits.iinFloorUa
  /-- A further one orders standby, as long as the counter was not zeroed in between. -/
  standby : ∀ before first between step after,
    steps = before ++ first :: (between ++ step :: after) →
    first.asks = true → first.denied = true → (∀ q ∈ between, q.strikesAfter ≠ 0) →
    step.asks = true → step.denied = true → step.order = .standby
  /-- The end of the over-temperature zeroes the counter. -/
  recovered : ∀ step ∈ steps, step.recovered = true →
    step.deniedStrikes = 0 ∧ step.strikesAfter = 0
  /-- A temperature that is no use leaves it alone. -/
  unusable : ∀ before step after, steps = before ++ step :: after →
    dieTempUsable step.sample = false → step.strikesAfter = strikesLeft 0 before

/-- Two stretches of a run, each after the end of an over-temperature, in which the guard sees the
same (`Same`): it takes the same actions, with the same orders. -/
def EpisodesAgree (Same : GuardInputs → GuardInputs → Prop) (steps : List GuardInputs) : Prop :=
  ∀ before cool episode after before' cool' episode' after',
    steps = before ++ cool :: (episode ++ after) →
    steps = before' ++ cool' :: (episode' ++ after') →
    cool.recovered = true → cool'.recovered = true → List.Forall₂ Same episode episode' →
    episode'.map GuardInputs.action = episode.map GuardInputs.action ∧
      episode'.map GuardInputs.order = episode.map GuardInputs.order

section
variable {steps : List GuardInputs}

/-- Steps that chain from zero answer each demand as the strikes before it say. -/
theorem Struck.answered (h : Struck 0 steps) : Answered steps where
  floor before quiet step after heq hzero hquiet hasks hdenied := by
    rw [heq, counted_append, hzero] at h
    have hleft : strikesLeft 0 quiet = 0 := (counted_append.1 h.2).1.quiet hquiet
    have hcount : step.deniedStrikes = 0 := by
      rw [h.2.step.1.strikes, hleft, ite_self]
    exact (GuardInputs.floor_of_denied hasks hdenied hcount).1
  standby before first between step after heq hfirst hdenied₁ hbetween hasks hdenied := by
    rw [heq] at h
    have hstep := h.step.2.step.1
    have hleft := strikesLeft_ne_zero hbetween (GuardInputs.strikesAfter_ne_zero hfirst hdenied₁)
    have hcount : step.deniedStrikes ≠ 0 := by
      -- a step that asks is not one that zeroes the counter first
      have hhot : step.recovered = false := by
        refine Bool.eq_false_of_not_eq_true fun hcool => ?_
        rw [GuardInputs.not_asks_of_recovered hstep hcool] at hasks
        cases hasks
      rw [hstep.strikes, hhot, if_neg Bool.false_ne_true]
      exact hleft
    exact (GuardInputs.standby_of_denied hasks hdenied hcount).1
  recovered step hmem hcool := by
    obtain ⟨before, after, heq⟩ := List.append_of_mem hmem
    rw [heq] at h
    exact GuardInputs.zeroed_of_recovered h.step.1 hcool
  unusable before step after heq hunusable := by
    rw [heq] at h
    exact (GuardInputs.kept_of_unusable h.step.1 hunusable).2

/-- Two episodes of a chain with the same steps agree: each begins at zero. -/
theorem Struck.episodesAgree (h : Struck 0 steps) : EpisodesAgree SameStep steps := by
  intro before cool episode after before' cool' episode' after' heq heq' hcool hcool' hsame
  have hchain := heq ▸ h
  have hchain' := heq' ▸ h
  have hzero := (GuardInputs.zeroed_of_recovered hchain.step.1 hcool).2
  have hzero' := (GuardInputs.zeroed_of_recovered hchain'.step.1 hcool').2
  have hrest := hchain.step.2
  have hrest' := hchain'.step.2
  rw [hzero] at hrest
  rw [hzero'] at hrest'
  exact Struck.agree hsame (counted_append.1 hrest).1 (counted_append.1 hrest').1

end

/-- In every run from the loaded driver the demands for 1:1 that `Vin` denies are answered with the
floor and then with standby, and episodes with the same samples and setpoints agree. A step of the
driver carries out the order that is spoken of. -/
theorem overheat_strikes [LoopFuel] {log : List (Entry DevEffect DriverState DriverOp)}
    (h : Session DriverOp.run DriverState.new log) :
    Answered (guardSteps (exchanges log)) ∧
      EpisodesAgree SameStep (guardSteps (exchanges log)) ∧
      ∀ (inputs : GuardInputs) (s : Held), s.bypassDeniedStrikes = inputs.deniedStrikes →
        applyDecision inputs s = (do
          inputs.order.run
          Proc.when inputs.action.isChange
            (Proc.modify fun s => { s with actions := satAdd 32 s.actions 1 })
          pure inputs.action.isChange : HeldM Bool)
            { s with bypassDeniedStrikes := inputs.strikesAfter } := by
  have hchain := counted_of_meets 0 (session_strikes h)
  exact ⟨hchain.answered, hchain.episodesAgree, fun inputs s => applyDecision_eq⟩

/-! ### Two episodes -/

/-- What one tick meets: the code of the die temperature, and the registers whose writes fail. -/
structure Weather where
  dieTemp : Nat
  broken : List RegAddr

/-- A bench whose chip warms and cools from tick to tick. -/
structure Oven where
  bench : Bench
  script : List Weather

namespace Oven

/-- The chip in the weather: its die temperature set, its writes broken or not. -/
def exposed (chip : Chip) (weather : Weather) : Chip :=
  let warmed := (chip.setReg 0x0F (BitVec.ofNat 8 (3 + weather.dieTemp * 4))).setReg 0x10
    (BitVec.ofNat 8 (weather.dieTemp / 64))
  { warmed with brokenWrites := weather.broken }

/-- A tick begins with the poll of the fuel counter. -/
def answer (oven : Oven) : (o : DevEffect.Op) → DevEffect.Resp o × Oven
  | .inr .pollGauge =>
      match oven.script with
      | [] => (oven.bench.gauge, oven)
      | weather :: script =>
          let bench := { oven.bench with chip := exposed oven.bench.chip weather }
          (bench.gauge, { bench := bench, script := script })
  | o =>
      let answered := oven.bench.answer o
      (answered.1, { bench := answered.2, script := oven.script })

end Oven

/-- 56.1 °C, and then twice 62.6, 59.1 and 62.6 °C. In the first of the two the reduction to the
floor is lost on the bus. -/
def twoEpisodes : List Weather :=
  [⟨806, []⟩, ⟨791, [Regs.iinCtrl]⟩, ⟨799, []⟩, ⟨791, []⟩,
    ⟨806, []⟩, ⟨791, []⟩, ⟨799, []⟩, ⟨791, []⟩]

/-- The driver at 9 V under this weather, with a limit of 3 A from the first tick on. -/
def ovenLog (script : List Weather) : List (Entry DevEffect DriverState DriverOp) :=
  Session.execute Oven.answer (@DriverOp.run ⟨0⟩)
    { bench := .around Chip.nineVolt, script := script } DriverState.new
    (.prepare none none :: .tick :: .setLimits 3000000 0 ::
      List.replicate (script.length - 1) .tick)

/-- The run in the oven is a session of driver operations. -/
theorem session_ovenLog (script : List Weather) :
    Session (@DriverOp.run ⟨0⟩) DriverState.new (ovenLog script) :=
  Session.session_execute Oven.answer (@DriverOp.run ⟨0⟩) _ _ DriverState.new

/-- A run with two denials: the floor, and then standby. -/
theorem overheat_strikes_twice :
    (guardSteps (exchanges (ovenLog [⟨806, []⟩, ⟨791, []⟩, ⟨791, []⟩]))).map GuardInputs.order =
        [.current 2000000, .current 500000, .standby] ∧
      Answered (guardSteps (exchanges (ovenLog [⟨806, []⟩, ⟨791, []⟩, ⟨791, []⟩]))) :=
  ⟨by decide +kernel, (@overheat_strikes ⟨0⟩ _ (session_ovenLog _)).1⟩

instance (step step' : GuardInputs) : Decidable (SameSample step step') :=
  decidable_of_iff
    ({ step'.sample with tsMs := step.sample.tsMs } = step.sample ∧
      step'.limits = step.limits ∧ step'.vbusUv = step.vbusUv)
    ⟨fun h => ⟨h.1, h.2.1, h.2.2⟩, fun h => ⟨h.sample, h.limits, h.vbusUv⟩⟩

/-- Two episodes of three steps that see the same samples and are answered differently. -/
def answeredApart : List GuardInputs → Bool
  | [cool, first, second, third, cool', first', second', third'] =>
      cool.recovered && cool'.recovered && decide (SameSample first first')
        && decide (SameSample second second') && decide (SameSample third third')
        && decide (third.order ≠ third'.order)
  | _ => false

/-- The samples alone do not decide, with consistent limits and `Vin` outside the window of 1:1 in
every step. After the lost reduction the setpoint is still above the band, the warm sample reduces
it, and that zeroes the counter: the episode ends with the floor, where the other one ends with
standby. -/
theorem not_samples_decide :
    ¬∀ log : List (Entry DevEffect DriverState DriverOp),
      Session (@DriverOp.run ⟨0⟩) DriverState.new log →
      (∀ step ∈ guardSteps (exchanges log),
        step.limits.isConsistent = true ∧ step.denied = true) →
      EpisodesAgree SameSample (guardSteps (exchanges log)) := by
  intro hall
  have hwithin : ((guardSteps (exchanges (ovenLog twoEpisodes))).all fun step =>
      step.limits.isConsistent && step.denied) = true := by decide +kernel
  have hagree := hall (ovenLog twoEpisodes) (session_ovenLog _) fun step hstep => by
    have hhere := List.all_eq_true.1 hwithin step hstep
    rwa [Bool.and_eq_true] at hhere
  -- the two episodes meet the same samples, and the third answers differ
  have hapart : answeredApart (guardSteps (exchanges (ovenLog twoEpisodes))) = true := by
    decide +kernel
  generalize guardSteps (exchanges (ovenLog twoEpisodes)) = steps at hagree hapart
  unfold answeredApart at hapart
  split at hapart
  · next cool first second third cool' first' second' third' =>
    simp only [Bool.and_eq_true, decide_eq_true_eq] at hapart
    obtain ⟨⟨⟨⟨⟨hcool, hcool'⟩, hfirst⟩, hsecond⟩, hthird⟩, hdiffer⟩ := hapart
    have horders := (hagree [] cool [first, second, third] [cool', first', second', third']
      [cool, first, second, third] cool' [first', second', third'] [] rfl rfl hcool hcool'
      (.cons hfirst (.cons hsecond (.cons hthird .nil)))).2
    simp only [List.map_cons, List.cons.injEq] at horders
    exact hdiffer horders.2.2.1.symm
  · cases hapart

end Kmdf
