import NabuCharger.Core.Recognition

/-!
# `Core.Runner`: the blocking session loop of the host

The host turns the steps of the core into a scenario. `runUntilReady` polls the detection until
an adapter is recognised, calls back, and applies the policy. `monitorCycle` polls the device
and applies the policy again when the adapter changed.

The host adds three operations to those of the core: the pause between two polls, the callback,
which may refuse, and the clock it reads when it gives up. `runUntilReady_yields` and
`monitorCycle_yields` say what the two leave behind, with what their registers named
(`recognised`).
-/

set_option autoImplicit false

namespace ChargerCore

open Effectful

/-- Calls of the host. -/
inductive HostOp
  | sleep (ms : Nat)
  | onAdapter (adapter : AdapterType)
  | nowMs
  deriving DecidableEq, Repr

/-- The host sleeps, and tells its caller which adapter it found. -/
def HostEffect : Effect where
  Op := HostOp
  Resp
    | .sleep _ => Unit
    | .onAdapter _ => Except ChargerError Unit
    | .nowMs => Nat

/-- The core driver below the host. -/
abbrev RunnerEffect : Effect := ChargerEffect.sum HostEffect

/-- Programs of the runner. -/
abbrev RunnerM : Type → Type := Proc RunnerEffect ChargerError Charger

/-- Session run options. -/
@[ext] structure RunOptions where
  /-- Pause between detection polling steps, in milliseconds. -/
  pollInterval : Nat
  /-- Fuse: how many steps are allowed before giving up. -/
  maxSteps : Nat
  maxSteps_le : maxSteps ≤ wordMax 32
  deriving Repr

instance decidableEqRunOptions : DecidableEq RunOptions := fun a b =>
  decidable_of_iff (a.pollInterval = b.pollInterval ∧ a.maxSteps = b.maxSteps)
    RunOptions.ext_iff.symm

/-- A poll every 20 ms, and at most a thousand of them. -/
def RunOptions.default : RunOptions where
  pollInterval := 20
  maxSteps := 1000
  maxSteps_le := by decide

/-- Session outcome. -/
structure SessionOutcome where
  adapter : AdapterType
  plan : ChargePlan
  state : State
  stats : Stats
  deriving DecidableEq, Repr

namespace Runner

/-- Waits between two polls. -/
def sleep (ms : Nat) : RunnerM Unit :=
  Proc.perform (E := RunnerEffect) (.inr (.sleep ms))

/-- Tells the caller, who may refuse. -/
def onAdapter (adapter : AdapterType) : RunnerM Unit := do
  let answer : Except ChargerError Unit ←
    Proc.perform (E := RunnerEffect) (.inr (.onAdapter adapter))
  Proc.ofExcept answer

/-- The clock of the host. -/
def nowMs : RunnerM Nat :=
  Proc.perform (E := RunnerEffect) (.inr .nowMs)

variable [LoopFuel]

/-- The adapter is recognised: calls back and applies the policy. -/
def settle (adapter : AdapterType) : RunnerM SessionOutcome := do
  onAdapter adapter
  let plan ← (Charger.apply adapter).inl
  let charger ← Proc.get
  pure { adapter, plan, state := charger.state, stats := charger.stats }

/-- The loop. `steps` counts the steps so far. -/
def detectLoop (options : RunOptions) : Nat → Nat → RunnerM SessionOutcome
  | 0, _ => Proc.diverge
  | fuel + 1, steps => do
      let steps := satAdd 32 steps 1
      -- out of steps: the reading of the clock stands in the error
      if options.maxSteps < steps then
        let now ← nowMs
        Proc.fail (.detectionTimeout now)
      else
        -- an error of the charger ends the loop
        match ← Charger.detectStep.inl with
        | .pending _ _ =>
            sleep options.pollInterval
            detectLoop options fuel steps
        | .ready adapter => settle adapter

/-- Waits for detection to complete and applies the policy. With the largest fuse the counter
saturates before it blows, and the loop need not end. -/
def runUntilReady (options : RunOptions) : RunnerM SessionOutcome :=
  detectLoop options (LoopFuel.fuel + options.maxSteps + 1) 0

/-- Polls the device state and reapplies the policy when the adapter changes. -/
def monitorCycle : RunnerM (Option ChargePlan) := do
  match ← Charger.monitor.inl with
  | .unchanged _ => pure none
  | .detached => pure none
  | .changed adapter => do
      let plan ← (Charger.apply adapter).inl
      pure (some plan)

end Runner

/-- A call of the host. -/
inductive RunnerCall
  | runUntilReady (options : RunOptions)
  | monitorCycle
  deriving DecidableEq, Repr

/-- What a call of the host returns. -/
inductive RunnerAnswer
  | outcome (outcome : SessionOutcome)
  | plan (plan : Option ChargePlan)
  deriving DecidableEq, Repr

/-- The program of a call. -/
def RunnerCall.run [LoopFuel] : RunnerCall → RunnerM RunnerAnswer
  | .runUntilReady options => do
      let outcome ← Runner.runUntilReady options
      pure (.outcome outcome)
  | .monitorCycle => do
      let plan ← Runner.monitorCycle
      pure (.plan plan)

/-! ### What a call leaves behind -/

/-- What a session that has seen `view` has seen after the exchanges `t` of the host. -/
def seenAfter (view : ApsdView) (t : List (Event RunnerEffect)) : ApsdView :=
  apsdWatch.after view (leftEvents t)

/-- The view is carried from one trace to the next. -/
theorem seenAfter_append (view : ApsdView) (t u : List (Event RunnerEffect)) :
    seenAfter view (t ++ u) = seenAfter (seenAfter view t) u := by
  rw [seenAfter, leftEvents_append]
  exact apsdWatch.after_append _ _ _

/-- The adapter the registers named in a call. -/
def recognised (qc35 : Qc35Support) (t : List (Event RunnerEffect)) : Option AdapterType :=
  (seenAfter ApsdView.start t).adapter qc35

/-- A core program in the host: what it shows of the two registers and of the adapter. -/
theorem inl_sees {α : Type} {x : ChargerM α} {s s' : Charger} {view : ApsdView}
    {t : List (Event RunnerEffect)} {r : Except ChargerError α}
    {Q : Except ChargerError α → Charger → apsdWatch.State → Prop}
    (h : (x.inl (F := HostEffect)).Yields s t r s') (hwp : x.wp apsdWatch Q s view) :
    Q r s' (seenAfter view t) :=
  Prog.Yields.post h.inl_cases hwp.prog (apsdWatch_allowed _)

/-- What `runUntilReady` leaves behind. A failure leaves the adapter the registers named, or
none and the one from before. -/
inductive ReadyExit (config : ChargerConfig) (adapter : Option AdapterType) (s : Charger)
    (m : apsdWatch.State) : Except ChargerError SessionOutcome → Prop
  | settled {outcome : SessionOutcome} (hconfig : s.config = config)
      (hadapter : s.adapter = some outcome.adapter) : ReadyExit config adapter s m (.ok outcome)
  | failed {err : ChargerError} (found : Option AdapterType)
      (h : Noticed config adapter found s m) : ReadyExit config adapter s m (.error err)

/-- What `monitorCycle` leaves behind. -/
inductive CycleExit (config : ChargerConfig) (adapter : Option AdapterType) (s : Charger)
    (m : apsdWatch.State) : Except ChargerError (Option ChargePlan) → Prop
  | quiet (hconfig : s.config = config) (hadapter : s.adapter = none ∨ s.adapter = adapter) :
      CycleExit config adapter s m (.ok none)
  | reapplied {plan : ChargePlan} (hconfig : s.config = config)
      (hadapter : s.adapter = some plan.adapter) : CycleExit config adapter s m (.ok (some plan))
  | failed {err : ChargerError} (found : Option AdapterType)
      (h : Noticed config adapter found s m) : CycleExit config adapter s m (.error err)

namespace Runner

variable [LoopFuel] {config : ChargerConfig} {adapter : Option AdapterType} {view : ApsdView}
  {s s' : Charger} {t : List (Event RunnerEffect)}

/-- `apply` in the host, on a session that has recorded the adapter. -/
theorem apply_yields {found : AdapterType} {r : Except ChargerError ChargePlan}
    (h : ((Charger.apply found).inl (F := HostEffect)).Yields s t r s')
    (hs : Noticed config adapter (some found) s view) :
    (∀ plan, r = .ok plan → plan.adapter = found) ∧
      Noticed config adapter (some found) s' (seenAfter view t) := by
  have hsees : Sees config (some found) view s view := ⟨hs.settings, hs.recorded, rfl⟩
  obtain ⟨hplan, hleft⟩ := inl_sees h (Charger.apply_sees found hsees)
  have hadapter : s'.adapter = some found := hleft.adapter.trans (ite_self _)
  have hnamed := congrArg (fun view : ApsdView => view.adapter config.qc35) hleft.view
  exact ⟨hplan, hleft.config, hadapter, hnamed.trans hs.named⟩

/-- What `settle` leaves behind for the adapter found. -/
theorem settle_yields {found : AdapterType} {r : Except ChargerError SessionOutcome}
    (h : (settle found).Yields s t r s') (hs : Noticed config adapter (some found) s view) :
    ReadyExit config adapter s' (seenAfter view t) r := by
  obtain ⟨t₁, t', u, s₁, rfl, hcall, hrest⟩ | ⟨err, rfl, hcall⟩ := h.bind_cases
  · obtain ⟨answer, t₂, rfl, hanswer⟩ := hcall.perform_bind
    obtain ⟨rfl, -, rfl⟩ := hanswer.ofExcept_cases
    show ReadyExit config adapter s' (seenAfter view t') r
    obtain ⟨t₃, t₄, plan, s₂, rfl, happly, hlast⟩ | ⟨err, rfl, happly⟩ := hrest.bind_cases
    · obtain ⟨hplan, hleft⟩ := apply_yields happly hs
      obtain ⟨rfl, rfl, rfl⟩ := hlast.get_bind.pure_cases
      exact .settled hleft.settings hleft.recorded
    · exact .failed _ (apply_yields happly hs).2
  · obtain ⟨answer, t₂, rfl, hanswer⟩ := hcall.perform_bind
    obtain ⟨rfl, -, rfl⟩ := hanswer.ofExcept_cases
    exact .failed _ hs

/-- What the loop leaves behind, whatever is left of its polls. -/
theorem detectLoop_yields {options : RunOptions} (fuel : Nat) : ∀ {steps : Nat}
    {view : ApsdView} {s : Charger} {t : List (Event RunnerEffect)}
    {r : Except ChargerError SessionOutcome}, (detectLoop options fuel steps).Yields s t r s' →
    Noticed config adapter none s view →
      ReadyExit config adapter s' (seenAfter view t) r := by
  -- induction on the fuel: what a pending step has noticed is what the next step starts from
  induction fuel with
  | zero =>
      intro steps view s t r h
      nomatch (show Prog.Yields Prog.diverge t (r, s') from h)
  | succ fuel ih =>
      intro steps view s t r h hs
      have hrun : (if options.maxSteps < satAdd 32 steps 1 then do
          let now ← nowMs
          Proc.fail (.detectionTimeout now)
        else do
          match ← Charger.detectStep.inl with
          | .pending _ _ =>
              sleep options.pollInterval
              detectLoop options fuel (satAdd 32 steps 1)
          | .ready adapter => settle adapter : RunnerM SessionOutcome).Yields s t r s' := h
      -- out of steps, or one more detection step
      split at hrun
      · obtain ⟨t₁, t₂, now, s₁, rfl, hclock, hfail⟩ | ⟨err, rfl, hclock⟩ := hrun.bind_cases
        · obtain ⟨now, rfl, -, rfl⟩ := hclock.perform_cases
          obtain ⟨rfl, rfl, rfl⟩ := hfail.fail_cases
          exact .failed _ hs
        · obtain ⟨now, -, heq, -⟩ := hclock.perform_cases
          nomatch heq
      · have hsees : Sees config s.adapter view s view := ⟨hs.settings, rfl, rfl⟩
        have hadapter : s.adapter = adapter := hs.recorded
        obtain ⟨t₁, t₂, detection, s₁, rfl, hdetect, hrest⟩ | ⟨err, rfl, hdetect⟩ :=
          hrun.bind_cases
        · have hnoticed := inl_sees hdetect (Charger.detectStep_sees hsees hs.named)
          rw [hadapter] at hnoticed
          rw [seenAfter_append]
          cases detection with
          | pending elapsedMs n =>
              obtain ⟨answer, t₃, rfl, hloop⟩ := hrest.perform_bind
              show ReadyExit config adapter s' (seenAfter (seenAfter view t₁) t₃) r
              exact ih hloop hnoticed
          | ready found => exact settle_yields hrest hnoticed
        · have hnoticed := inl_sees hdetect (Charger.detectStep_sees hsees hs.named)
          rw [hadapter] at hnoticed
          exact .failed _ hnoticed

/-- What a cycle leaves behind, from registers that name no adapter yet. -/
theorem monitorCycle_yields {r : Except ChargerError (Option ChargePlan)}
    (h : monitorCycle.Yields s t r s') (hs : Sees config adapter view s view)
    (hview : view.adapter config.qc35 = none) :
    CycleExit config adapter s' (seenAfter view t) r := by
  obtain ⟨t₁, t₂, answer, s₁, rfl, hpoll, hrest⟩ | ⟨err, rfl, hpoll⟩ := h.bind_cases
  · have hwatched := inl_sees hpoll (Charger.monitor_sees hs hview)
    -- only a changed adapter is applied again
    cases answer with
    | unchanged found =>
        obtain ⟨rfl, rfl, rfl⟩ := hrest.pure_cases
        exact .quiet hwatched.2.settings (.inr (hwatched.2.recorded.trans hwatched.1.symm))
    | detached =>
        obtain ⟨rfl, rfl, rfl⟩ := hrest.pure_cases
        exact .quiet hwatched.1 (.inl hwatched.2)
    | changed found =>
        rw [seenAfter_append]
        obtain ⟨t₃, t₄, plan, s₂, rfl, happly, hlast⟩ | ⟨err, rfl, happly⟩ := hrest.bind_cases
        · obtain ⟨hplan, hleft⟩ := apply_yields happly hwatched
          obtain ⟨rfl, rfl, rfl⟩ := hlast.pure_cases
          refine .reapplied hleft.settings ?_
          rw [hplan plan rfl]
          exact hleft.recorded
        · exact .failed _ (apply_yields happly hwatched).2
  · exact .failed _ (inl_sees hpoll (Charger.monitor_sees hs hview))

end Runner

end ChargerCore
