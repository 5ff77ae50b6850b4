import NabuCharger.Proofs.CoreRegisters
import NabuCharger.Proofs.StalePolicy

/-!
# `Proofs.HostRegisters`: what the host's calls leave in the chip

`Proofs.CoreRegisters` for the two calls of the host. `runUntilReady` polls as often as it takes,
and only the `apply` at its end writes. `monitorCycle` writes when the adapter changed. So the
plan that one of them returns is in the chip, and it stays there for as long as `monitorCycle`
answers nothing (`host_registers`).
-/

set_option autoImplicit false

namespace ChargerCore

open Effectful

/-- The plan a call returns. -/
def hostPlan : Except ChargerError RunnerAnswer → Option ChargePlan
  | .ok (.outcome outcome) => some outcome.plan
  | .ok (.plan plan) => plan
  | .error _ => none

/-- What a call of the host does to the configuration registers. -/
inductive HostStep (config : ChargerConfig) (file : CoreFile) :
    Except ChargerError RunnerAnswer → CoreFile → Prop
  | kept {r : Except ChargerError RunnerAnswer} (hplan : hostPlan r = none) :
      HostStep config file r file
  | applied {r : Except ChargerError RunnerAnswer} {plan : ChargePlan}
      (hreturned : hostPlan r = some plan) (hplan : config.plan plan.adapter = .ok plan) :
      HostStep config file r (writeAll plan.writes file)
  | cut {adapter : AdapterType} {plan : ChargePlan} {err : ChargerError} {file' : CoreFile}
      (hplan : config.plan adapter = .ok plan) (hcut : Partly plan.writes file file') :
      HostStep config file (.error err) file'

/-- The calls of the host, as the configuration registers see them. -/
inductive HostRun (config : ChargerConfig) : CoreFile → List RunnerTurn → CoreFile → Prop
  | done (file : CoreFile) : HostRun config file [] file
  | step {file file' file'' : CoreFile} {turn : RunnerTurn} {turns : List RunnerTurn} :
      HostStep config file turn.result file' → HostRun config file' turns file'' →
      HostRun config file (turn :: turns) file''

/-- A plan is for the adapter it was made for. -/
theorem adapter_of_plan {config : ChargerConfig} {adapter : AdapterType} {plan : ChargePlan}
    (h : config.plan adapter = .ok plan) : plan.adapter = adapter := by
  obtain ⟨raw, -, rfl⟩ := plan_cases h
  rfl

namespace HostRun

variable {config : ChargerConfig} {file file' : CoreFile} {before after : List RunnerTurn}

/-- A host run over two lists of turns is a run over each, meeting at a file. -/
theorem append_cases (h : HostRun config file (before ++ after) file') :
    ∃ middle, HostRun config file before middle ∧ HostRun config middle after file' := by
  induction before generalizing file with
  | nil => exact ⟨file, .done file, h⟩
  | cons turn before ih =>
      cases h with
      | step hstep hrest =>
          obtain ⟨middle, hbefore, hafter⟩ := ih hrest
          exact ⟨middle, .step hstep hbefore, hafter⟩

/-- A poll that answers nothing writes nothing. -/
theorem eq_of_quiet {turns : List RunnerTurn} (h : HostRun config file turns file')
    (hquiet : ∀ turn ∈ turns, turn.result = .ok (.plan none)) : file' = file := by
  induction h with
  | done file => rfl
  | @step file file' file'' turn turns hstep _ ih =>
      obtain ⟨hturn, hrest⟩ := List.forall_mem_cons.1 hquiet
      rw [ih hrest]
      rw [hturn] at hstep
      cases hstep with
      | kept => rfl
      | applied hreturned => cases hreturned

/-- A plan that was returned is in the registers while the polls answer nothing. -/
theorem holds {turn : RunnerTurn} {plan : ChargePlan}
    (h : HostRun config file (before ++ turn :: after) file')
    (hplan : hostPlan turn.result = some plan)
    (hquiet : ∀ turn ∈ after, turn.result = .ok (.plan none)) :
    ∀ write ∈ plan.writes, write.Holds file' := by
  obtain ⟨middle, -, hrest⟩ := h.append_cases
  -- the registers after the call are the plan's, and the quiet turns leave them
  cases hrest with
  | step hstep hlast =>
      rw [hlast.eq_of_quiet hquiet]
      generalize turn.result = r at hstep hplan
      cases hstep with
      | kept hnone => cases hnone.symm.trans hplan
      | applied hreturned =>
          cases hreturned.symm.trans hplan
          exact writes_holds plan.policy plan.iclRaw middle
      | cut => cases hplan

end HostRun

/-! ### The core in the host -/

section
variable [LoopFuel] {s s' : Charger} {file file' : CoreFile}

/-- A detection step writes nothing and keeps the configuration. -/
theorem detectStep_leaves {t : List (Event ChargerEffect)} {r : Except ChargerError Detection}
    (h : Charger.detectStep.Yields s t r s') (hserved : Served coreAnswers file t file') :
    s'.config = s.config ∧ file' = file := by
  constructor
  · by_cases hclosed : s.state = .closed
    · rw [(refused_yields hclosed h).2.2]
    · obtain ⟨now, hspec⟩ := Charger.detectStep_yields hclosed h
      exact hspec.config
  · exact h.everywhere (Q := fun _ _ file' => file' = file)
      (Charger.filed_detectStep.run _ _ fun _ hfile => hfile) hserved

/-- Monitoring writes nothing and keeps the configuration. -/
theorem monitor_leaves {t : List (Event ChargerEffect)} {r : Except ChargerError Monitor}
    (h : Charger.monitor.Yields s t r s') (hserved : Served coreAnswers file t file') :
    s'.config = s.config ∧ file' = file := by
  constructor
  · by_cases hclosed : s.state = .closed
    · rw [(refused_yields hclosed h).2.2]
    · exact (Charger.monitor_yields hclosed h).aside.config
  · exact h.everywhere (Q := fun _ _ file' => file' = file)
      (Charger.filed_monitor.run _ _ fun _ hfile => hfile) hserved

/-- `apply`, as the host sees it. -/
theorem apply_leaves {adapter : AdapterType} {t : List (Event ChargerEffect)}
    {r : Except ChargerError ChargePlan} (h : (Charger.apply adapter).Yields s t r s')
    (hserved : Served coreAnswers file t file') : s'.config = s.config ∧
      (∀ plan, r = .ok plan → s.config.plan adapter = .ok plan ∧
        file' = writeAll plan.writes file) ∧
      ∀ err, r = .error err → Charger.CutFile s.config adapter file file' := by
  constructor
  · -- a closed session refuses and leaves the charger, an open one keeps its configuration
    by_cases hclosed : s.state = .closed
    · rw [(refused_yields hclosed h).2.2]
    · exact (Charger.apply_yields hclosed h).aside.config
  · refine h.everywhere (Q := fun r _ file' =>
      (∀ plan, r = .ok plan → s.config.plan adapter = .ok plan ∧
        file' = writeAll plan.writes file) ∧
      ∀ err, r = .error err → Charger.CutFile s.config adapter file file') ?_ hserved
    refine Proc.wp_mono (Charger.apply_files adapter s _ fun _ hfile => hfile) ?_
    intro r s' S hleft file' hfile
    cases r with
    | ok plan =>
        refine ⟨fun plan' heq => ?_, fun err heq => nomatch heq⟩
        cases heq
        exact hleft file' hfile
    | error err => exact ⟨fun plan heq => (nomatch heq), fun err' _ => hleft file' hfile⟩

end

/-! ### The host's loops -/

namespace Runner

variable [LoopFuel] {config : ChargerConfig} {s s' : Charger} {file file' : CoreFile}
  {t : List (Event RunnerEffect)}

/-- What an `apply` of the host leaves, when it is the only one of the call. -/
theorem apply_step {adapter : AdapterType} {r : Except ChargerError ChargePlan}
    (hconfig : s.config = config)
    (h : ((Charger.apply adapter).inl (F := HostEffect)).Yields s t r s')
    (hserved : Served coreAnswers file (leftEvents t) file') : s'.config = config ∧
      (∀ plan, r = .ok plan → ∀ r', hostPlan r' = some plan → HostStep config file r' file') ∧
      ∀ err, r = .error err → HostStep config file (.error err) file' := by
  obtain ⟨hkept, hok, herr⟩ := apply_leaves h.inl_cases hserved
  rw [hconfig] at hkept hok herr
  refine ⟨hkept, fun plan hr r' hreturned => ?_, fun err hr => ?_⟩
  · obtain ⟨hplan, rfl⟩ := hok plan hr
    exact .applied hreturned (by rw [adapter_of_plan hplan, hplan])
  · rcases herr err hr with rfl | ⟨plan, hplan, hcut⟩
    · exact .kept rfl
    · exact .cut hplan hcut

/-- The tail of a session, which applies and may reset, is one host step. -/
theorem settle_step {adapter : AdapterType} {r : Except ChargerError SessionOutcome}
    (hconfig : s.config = config) (h : (settle adapter).Yields s t r s')
    (hserved : Served coreAnswers file (leftEvents t) file') :
    s'.config = config ∧ HostStep config file (r.map .outcome) file' := by
  -- The callback comes first. It may refuse the adapter, and then nothing is applied.
  obtain ⟨t₁, t', u, s₁, rfl, hcall, hrest⟩ | ⟨err, rfl, hcall⟩ := h.bind_cases
  · obtain ⟨answer, t₂, rfl, hanswer⟩ := hcall.perform_bind
    obtain ⟨rfl, -, rfl⟩ := hanswer.ofExcept_cases
    replace hserved : Served coreAnswers file (leftEvents t') file' := hserved
    obtain ⟨t₃, t₄, plan, s₂, rfl, happly, hlast⟩ | ⟨err, rfl, happly⟩ := hrest.bind_cases
    · obtain ⟨rfl, rfl, rfl⟩ := hlast.get_bind.pure_cases
      rw [List.append_nil] at hserved
      obtain ⟨hkept, hok, -⟩ := apply_step hconfig happly hserved
      exact ⟨hkept, hok plan rfl _ rfl⟩
    · obtain ⟨hkept, -, herr⟩ := apply_step hconfig happly hserved
      exact ⟨hkept, herr err rfl⟩
  · obtain ⟨answer, t₂, rfl, hanswer⟩ := hcall.perform_bind
    obtain ⟨rfl, -, rfl⟩ := hanswer.ofExcept_cases
    replace hserved : Served (E := ChargerEffect) coreAnswers file [] file' := hserved
    cases hserved with
    | done => exact ⟨hconfig, .kept rfl⟩

/-- The polls write nothing, so the registers see the end of the loop only. -/
theorem detectLoop_step {options : RunOptions} (fuel : Nat) : ∀ {steps : Nat} {s : Charger}
    {file : CoreFile} {t : List (Event RunnerEffect)} {r : Except ChargerError SessionOutcome},
    s.config = config → (detectLoop options fuel steps).Yields s t r s' →
    Served coreAnswers file (leftEvents t) file' →
      s'.config = config ∧ HostStep config file (r.map .outcome) file' := by
  induction fuel with
  | zero =>
      intro steps s file t r _ h
      nomatch (show Prog.Yields Prog.diverge t (r, s') from h)
  | succ fuel ih =>
      intro steps s file t r hconfig h hserved
      rw [detectLoop] at h
      split at h
      -- The fuse is blown: the clock is read for the error, and nothing is written.
      · obtain ⟨now, t₂, rfl, hfail⟩ := h.perform_bind
        obtain ⟨rfl, rfl, rfl⟩ := hfail.fail_cases
        replace hserved : Served (E := ChargerEffect) coreAnswers file [] file' := hserved
        cases hserved with
        | done => exact ⟨hconfig, .kept rfl⟩
      · obtain ⟨t₁, t₂, detection, s₁, rfl, hdetect, hrest⟩ | ⟨err, rfl, hdetect⟩ :=
          h.bind_cases
        · rw [leftEvents_append] at hserved
          obtain ⟨middle, hfirst, hlater⟩ := hserved.append_cases
          obtain ⟨hkept, rfl⟩ := detectStep_leaves hdetect.inl_cases hfirst
          rw [hconfig] at hkept
          cases detection with
          | pending elapsedMs n =>
              -- Sleeping is the host's, so the registers do not see it.
              obtain ⟨answer, t₃, rfl, hloop⟩ := hrest.perform_bind
              exact ih hkept hloop hlater
          | ready found => exact settle_step hkept hrest hlater
        · obtain ⟨hkept, rfl⟩ := detectStep_leaves hdetect.inl_cases hserved
          exact ⟨hkept.trans hconfig, .kept rfl⟩

/-- A monitoring cycle, which applies again on a re-plug, is one host step. -/
theorem monitorCycle_step {r : Except ChargerError (Option ChargePlan)}
    (hconfig : s.config = config) (h : monitorCycle.Yields s t r s')
    (hserved : Served coreAnswers file (leftEvents t) file') :
    s'.config = config ∧ HostStep config file (r.map .plan) file' := by
  obtain ⟨t₁, t₂, answer, s₁, rfl, hpoll, hrest⟩ | ⟨err, rfl, hpoll⟩ := h.bind_cases
  · rw [leftEvents_append] at hserved
    obtain ⟨middle, hfirst, hlater⟩ := hserved.append_cases
    obtain ⟨hkept, rfl⟩ := monitor_leaves hpoll.inl_cases hfirst
    rw [hconfig] at hkept
    -- only a changed adapter is applied again, and only that writes
    cases answer with
    | unchanged found =>
        obtain ⟨rfl, rfl, rfl⟩ := hrest.pure_cases
        cases hlater with
        | done => exact ⟨hkept, .kept rfl⟩
    | detached =>
        obtain ⟨rfl, rfl, rfl⟩ := hrest.pure_cases
        cases hlater with
        | done => exact ⟨hkept, .kept rfl⟩
    | changed found =>
        obtain ⟨t₃, t₄, plan, s₂, rfl, happly, hlast⟩ | ⟨err, rfl, happly⟩ := hrest.bind_cases
        · obtain ⟨rfl, rfl, rfl⟩ := hlast.pure_cases
          rw [List.append_nil] at hlater
          obtain ⟨hkept, hok, -⟩ := apply_step hkept happly hlater
          exact ⟨hkept, hok plan rfl _ rfl⟩
        · obtain ⟨hkept, -, herr⟩ := apply_step hkept happly hlater
          exact ⟨hkept, herr err rfl⟩
  · obtain ⟨hkept, rfl⟩ := monitor_leaves hpoll.inl_cases hserved
    exact ⟨hkept.trans hconfig, .kept rfl⟩

end Runner

/-! ### Sessions of the host -/

section
variable [LoopFuel]

/-- Each host call is a host step. The split is on the call. -/
theorem host_step {op : RunnerCall} {s s' : Charger} {t : List (Event RunnerEffect)}
    {r : Except ChargerError RunnerAnswer} {file file' : CoreFile} (h : op.run.Yields s t r s')
    (hserved : Served coreAnswers file (leftEvents t) file') :
    s'.config = s.config ∧ HostStep s.config file r file' := by
  cases op with
  -- the call is the loop of the runner, and its answer adds no exchange
  | runUntilReady options =>
      obtain ⟨t₁, t₂, outcome, s₁, rfl, hrun, hlast⟩ | ⟨err, rfl, hrun⟩ := h.bind_cases
      · obtain ⟨rfl, rfl, rfl⟩ := hlast.pure_cases
        rw [List.append_nil] at hserved
        exact Runner.detectLoop_step _ rfl hrun hserved
      · exact Runner.detectLoop_step _ rfl hrun hserved
  | monitorCycle =>
      obtain ⟨t₁, t₂, plan, s₁, rfl, hrun, hlast⟩ | ⟨err, rfl, hrun⟩ := h.bind_cases
      · obtain ⟨rfl, rfl, rfl⟩ := hlast.pure_cases
        rw [List.append_nil] at hserved
        exact Runner.monitorCycle_step rfl hrun hserved
      · exact Runner.monitorCycle_step rfl hrun hserved

/-- A history of host calls is a host run. The induction is on the history, one step lemma per
call. -/
theorem host_calls {config : ChargerConfig} {s s' : Charger} {turns : List RunnerTurn}
    (h : History RunnerCall.run s turns s') :
    s.config = config → ∀ {file file' : CoreFile},
      Served coreAnswers file (leftEvents (turnExchanges turns)) file' →
        HostRun config file turns file' := by
  induction h with
  | done s =>
      intro _ file file' hserved
      cases hserved with
      | done => exact .done file
  | step hrun _ ih =>
      intro hconfig file file' hserved
      rw [turnExchanges_cons, leftEvents_append] at hserved
      obtain ⟨middle, hfirst, hrest⟩ := hserved.append_cases
      -- the configuration never changes, so the rules stay those of the session
      obtain ⟨hkept, hstep⟩ := host_step hrun hfirst
      rw [hconfig] at hkept hstep
      exact .step hstep (ih hkept hrest)

/-- Whatever transfers fail, the calls of the host write the plans they return and nothing else,
and a call that fails has made the first few writes of a plan at most. The plan of
`run_until_ready` or of a poll stays in force for as long as the polls answer nothing. -/
theorem host_registers {config : ChargerConfig} {opening : List (Event ChargerEffect)}
    {s₀ s : Charger} {turns : List RunnerTurn} {file file' : CoreFile}
    (h : RunnerReaches config opening s₀ turns s)
    (hserved : Served coreAnswers file (opening ++ leftEvents (turnExchanges turns)) file') :
    HostRun config file turns file' ∧
    ∀ before turn after plan, turns = before ++ turn :: after →
      hostPlan turn.result = some plan →
      (∀ later ∈ after, later.result = .ok (.plan none)) →
        ∀ write ∈ plan.writes, write.Holds file' := by
  obtain ⟨middle, hopening, hcalls⟩ := hserved.append_cases
  rw [register_opening h.opened hopening] at hcalls
  have hrun := host_calls h.calls (Charger.openSession_yields h.opened).1 hcalls
  refine ⟨hrun, ?_⟩
  rintro before turn after plan rfl hplan hquiet
  exact hrun.holds hplan hquiet

end

/-- A host whose callback always agrees, with the peripheral that answers everything. -/
def hostFileAnswer (file : CoreFile) : (o : RunnerEffect.Op) → RunnerEffect.Resp o × CoreFile
  | .inl o => fileAnswer file o
  | .inr (.sleep _) => ((), file)
  | .inr (.onAdapter _) => ((.ok () : Except ChargerError Unit), file)
  | .inr .nowMs => ((0 : Nat), file)

/-- What the host does leaves the registers alone. -/
def hostAnswers (file : CoreFile) :
    (o : RunnerEffect.Op) → RunnerEffect.Resp o → CoreFile → Prop
  | .inl o => coreAnswers file o
  | .inr _ => fun _ file' => file' = file

/-- The computed answers on a file are answers the file may give. -/
theorem hostAnswers_hostFileAnswer (file : CoreFile) (o : RunnerEffect.Op) :
    hostAnswers file o (hostFileAnswer file o).1 (hostFileAnswer file o).2 := by
  cases o with
  | inl o => exact coreAnswers_fileAnswer file o
  | inr o => cases o <;> rfl

/-- The clock of the host does not touch the file, so serving both serves the core. -/
theorem served_leftEvents {file file' : CoreFile} {t : List (Event RunnerEffect)}
    (h : Served hostAnswers file t file') : Served coreAnswers file (leftEvents t) file' := by
  induction h with
  | done file => exact .done file
  | @step file file' file'' e t hstep _ ih =>
      obtain ⟨o, r⟩ := e
      cases o with
      | inl o => exact .step (e := (⟨o, r⟩ : Event ChargerEffect)) hstep ih
      | inr o =>
          cases hstep
          exact ih

/-- The host's session on the peripheral. -/
def hostSession [LoopFuel] (file : CoreFile) (config : ChargerConfig) (ops : List RunnerCall) :
    Option (List (Event ChargerEffect) × Charger × List RunnerTurn × Charger) :=
  match (Charger.openSession (Charger.new config)).runWith (E := ChargerEffect) fileAnswer file with
  | (opening, file', some (.ok (), s₀)) =>
      (History.execute (E := RunnerEffect) hostFileAnswer RunnerCall.run file' s₀ ops).map
        fun out => (opening, s₀, out.1, out.2)
  | _ => none

/-- A host session computed on a register file is a session whose answers the file gave. -/
theorem served_hostSession [LoopFuel] {file : CoreFile} {config : ChargerConfig}
    {ops : List RunnerCall} {opening : List (Event ChargerEffect)} {s₀ s : Charger}
    {turns : List RunnerTurn} (h : hostSession file config ops = some (opening, s₀, turns, s)) :
    RunnerReaches config opening s₀ turns s ∧
      ∃ file', Served (E := ChargerEffect) coreAnswers file
        (opening ++ leftEvents (turnExchanges turns)) file' := by
  rw [hostSession] at h
  split at h
  · -- the opening succeeded, and the calls start from the file it left
    rename_i opened file₁ s₁ hopen
    obtain ⟨⟨turns, s⟩, hrun, heq⟩ := Option.map_eq_some_iff.1 h
    cases heq
    obtain ⟨hyields, hfirst⟩ := opened_fileAnswer hopen
    obtain ⟨file', hserved⟩ := History.served_execute (E := RunnerEffect)
      hostAnswers_hostFileAnswer _ _ _ _ _ _ hrun
    exact ⟨⟨hyields, History.of_execute _ _ _ _ _ _ _ hrun⟩, file',
      hfirst.append (served_leftEvents hserved)⟩
  · cases h

/-- A call that returned a plan, and polls that answer nothing behind it. -/
def hostInForce : List RunnerTurn → Bool
  | [] => false
  | turn :: after =>
      (hostPlan turn.result).isSome && after.all fun later => later.result = .ok (.plan none)

/-- The quick charger's host session settles the writes of the plan it returned. -/
theorem host_registers_quick : ∃ turns plan file', HostRun .forNabu quickFile turns file' ∧
    (∃ turn ∈ turns, hostPlan turn.result = some plan) ∧
      ∀ write ∈ plan.writes, write.Holds file' := by
  -- the session is executed, and only its end is looked at
  have hrun : (@hostSession ⟨0⟩ quickFile .forNabu
      [.runUntilReady ⟨20, 4, by decide⟩, .monitorCycle, .monitorCycle]).any
      (fun out => hostInForce out.2.2.1) = true := by decide +kernel
  obtain ⟨⟨opening, s₀, turns, s⟩, hsession, hforce⟩ := (Option.any_eq_true ..).1 hrun
  obtain ⟨hreach, file', hserved⟩ := @served_hostSession ⟨0⟩ _ _ _ _ _ _ _ hsession
  obtain ⟨hregisters, hholds⟩ := @host_registers ⟨0⟩ _ _ _ _ _ _ _ hreach hserved
  cases turns with
  | nil => cases hforce
  | cons turn after =>
      obtain ⟨hplan, hafter⟩ := (Bool.and_eq_true _ _).mp hforce
      obtain ⟨plan, hplan⟩ := Option.isSome_iff_exists.1 hplan
      refine ⟨turn :: after, plan, file', hregisters, ⟨turn, List.mem_cons_self .., hplan⟩, ?_⟩
      refine hholds [] turn after plan rfl hplan fun later hlater => ?_
      exact of_decide_eq_true (List.all_eq_true.1 hafter later hlater)

end ChargerCore
