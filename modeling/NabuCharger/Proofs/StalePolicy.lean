import NabuCharger.Core.Runner

/-!
# `Proofs.StalePolicy`: the applied policy is the one of the recorded adapter

`monitorCycle` answers nothing when the adapter is the recorded one, and a caller reads that as
"the policy is in place". The session records an adapter before it applies the policy for it.
So a call that recognises another adapter and then fails, in the callback or in `apply`, leaves
an adapter on record whose policy was never applied, and the next poll finds it unchanged.

`lastApplied` keeps the adapter of the last `apply` that succeeded, from the answers alone.
`noStale` says that a run in which every such call gets through has no stale policy, and that
every other call leaves one.
-/

set_option autoImplicit false

namespace ChargerCore

open Effectful

/-- A call of the host, as its caller sees it. -/
abbrev RunnerTurn : Type := Turn RunnerEffect ChargerError Charger RunnerAnswer RunnerCall

/-- The adapter whose policy a call applied. -/
def appliedBy : Except ChargerError RunnerAnswer → Option AdapterType
  | .ok (.outcome outcome) => some outcome.adapter
  | .ok (.plan (some plan)) => some plan.adapter
  | .ok (.plan none) => none
  | .error _ => none

/-- The adapter of the last `apply` that succeeded. -/
def lastApplied (last : Option AdapterType) (turn : RunnerTurn) : Option AdapterType :=
  (appliedBy turn.result).or last

/-- A call whose registers name another adapter than the last one applied gets through: the
callback and `apply` do not fail. -/
def GetsThrough (last : Option AdapterType) (turn : RunnerTurn) : Prop :=
  ∀ found ∈ recognised turn.start.config.qc35 turn.trace, last = some found ∨ turn.result.isOk

/-- A poll that answers nothing leaves no adapter on record but the one last applied. -/
def NoStale (last : Option AdapterType) (turn : RunnerTurn) : Prop :=
  turn.op = .monitorCycle → appliedBy turn.result = none → turn.result.isOk →
    ∀ adapter ∈ turn.finish.adapter, last = some adapter

/-- A call that leaves an adapter on record whose policy is not the one applied. -/
def LeavesStale (last : Option AdapterType) (turn : RunnerTurn) : Prop :=
  ∃ adapter ∈ turn.finish.adapter, lastApplied last turn ≠ some adapter

instance (last : Option AdapterType) (turn : RunnerTurn) : Decidable (GetsThrough last turn) :=
  inferInstanceAs (Decidable (∀ found ∈ recognised turn.start.config.qc35 turn.trace, _))

instance (last : Option AdapterType) (turn : RunnerTurn) : Decidable (NoStale last turn) :=
  inferInstanceAs (Decidable (_ → _ → _ → ∀ adapter ∈ turn.finish.adapter, _))

/-- What a call of the host leaves behind. -/
inductive RunnerExit (s s' : Charger) (t : List (Event RunnerEffect)) :
    RunnerCall → Except ChargerError RunnerAnswer → Prop
  /-- A policy was applied. -/
  | applied {op : RunnerCall} {answer : RunnerAnswer} {adapter : AdapterType}
      (happlied : appliedBy (.ok answer) = some adapter) (hadapter : s'.adapter = some adapter) :
      RunnerExit s s' t op (.ok answer)
  /-- A poll found nothing to do. -/
  | quiet (hadapter : s'.adapter = none ∨ s'.adapter = s.adapter) :
      RunnerExit s s' t .monitorCycle (.ok (.plan none))
  /-- A call failed. -/
  | failed {op : RunnerCall} {err : ChargerError} (found : Option AdapterType)
      (hnamed : recognised s.config.qc35 t = found) (hadapter : s'.adapter = found.or s.adapter) :
      RunnerExit s s' t op (.error err)

/-- Every call of the host leaves behind what its specification says, and the settings as they
were. -/
theorem RunnerCall.run_exit [LoopFuel] {op : RunnerCall} {s s' : Charger}
    {t : List (Event RunnerEffect)} {r : Except ChargerError RunnerAnswer}
    (h : op.run.Yields s t r s') : RunnerExit s s' t op r := by
  have hsees : Sees s.config s.adapter ApsdView.start s ApsdView.start := ⟨rfl, rfl, rfl⟩
  -- both calls end applied, quiet or failed
  cases op with
  | runUntilReady options =>
      obtain ⟨t₁, t₂, outcome, s₁, rfl, hrun, hpure⟩ | ⟨err, rfl, hrun⟩ := h.bind_cases
      · obtain ⟨rfl, rfl, rfl⟩ := hpure.pure_cases
        cases Runner.detectLoop_yields _ hrun (hsees.noticed rfl) with
        | settled _ hadapter => exact .applied rfl hadapter
      · cases Runner.detectLoop_yields _ hrun (hsees.noticed rfl) with
        | failed found hleft => exact .failed found hleft.named hleft.recorded
  | monitorCycle =>
      obtain ⟨t₁, t₂, plan, s₁, rfl, hrun, hpure⟩ | ⟨err, rfl, hrun⟩ := h.bind_cases
      · obtain ⟨rfl, rfl, rfl⟩ := hpure.pure_cases
        cases Runner.monitorCycle_yields hrun hsees rfl with
        | quiet _ hadapter => exact .quiet hadapter
        | reapplied _ hadapter => exact .applied rfl hadapter
      · cases Runner.monitorCycle_yields hrun hsees rfl with
        | failed found hleft => exact .failed found hleft.named hleft.recorded

/-- The session has on record no adapter but the one last applied. -/
def Current (s : Charger) (last : Option AdapterType) : Prop :=
  ∀ adapter ∈ s.adapter, last = some adapter

/-- The step: a call that gets through keeps the record current. -/
theorem RunnerExit.keeps_noStale {s s' : Charger} {t : List (Event RunnerEffect)} {op : RunnerCall}
    {r : Except ChargerError RunnerAnswer} {last : Option AdapterType}
    (h : RunnerExit s s' t op r) (hs : Current s last)
    (hthrough : GetsThrough last ⟨op, s, t, r, s'⟩) :
    NoStale last ⟨op, s, t, r, s'⟩ ∧ Current s' (lastApplied last ⟨op, s, t, r, s'⟩) := by
  cases h with
  | applied happlied hadapter =>
      refine ⟨fun _ hnone => ?_, fun adapter hmem => ?_⟩
      · nomatch happlied.symm.trans hnone
      · cases hadapter.symm.trans hmem
        exact congrArg (Option.or · last) happlied
  | quiet hadapter =>
      have hcurrent : Current s' last := by
        intro adapter hmem
        rcases hadapter with hnone | hsame
        · nomatch hnone.symm.trans hmem
        · exact hs adapter (hsame.symm.trans hmem)
      exact ⟨fun _ _ _ => hcurrent, hcurrent⟩
  | @failed _ err found hnamed hadapter =>
      refine ⟨fun _ _ hok => (nomatch hok), fun adapter hmem => ?_⟩
      show last = some adapter
      -- after a failure the recorded adapter is the old one, or one whose application went through
      cases found with
      | none => exact hs adapter (hadapter.symm.trans hmem)
      | some found =>
          cases hadapter.symm.trans hmem
          rcases hthrough adapter hnamed with hlast | hok
          · exact hlast
          · nomatch hok

/-- A call that does not get through leaves a stale record. -/
theorem RunnerExit.leavesStale {s s' : Charger} {t : List (Event RunnerEffect)} {op : RunnerCall}
    {r : Except ChargerError RunnerAnswer} {last : Option AdapterType}
    (h : RunnerExit s s' t op r) (hthrough : ¬GetsThrough last ⟨op, s, t, r, s'⟩) :
    LeavesStale last ⟨op, s, t, r, s'⟩ := by
  cases h with
  | applied => exact absurd (fun _ _ => .inr rfl) hthrough
  | quiet => exact absurd (fun _ _ => .inr rfl) hthrough
  -- the call failed after an adapter was found
  | @failed _ err found hnamed hadapter =>
      cases found with
      | none =>
          refine absurd (fun named hmem => ?_) hthrough
          nomatch hnamed.symm.trans hmem
      | some found =>
          refine ⟨found, hadapter, fun hlast => hthrough fun named hmem => .inl ?_⟩
          cases hnamed.symm.trans hmem
          exact hlast

/-- A session that opened, and the calls the host then made. -/
structure RunnerReaches [LoopFuel] (config : ChargerConfig) (opening : List (Event ChargerEffect))
    (s₀ : Charger) (turns : List RunnerTurn) (s : Charger) : Prop where
  opened : Charger.openSession.Yields (Charger.new config) opening (.ok ()) s₀
  calls : History RunnerCall.run s₀ turns s

/-- Where every call that recognises another adapter than the last one applied gets through,
no poll that answers nothing leaves a stale policy. A call that does not get through leaves an
adapter on record whose policy is not the one applied. -/
theorem noStale [LoopFuel] {config : ChargerConfig} {opening : List (Event ChargerEffect)}
    {s₀ s : Charger} {turns : List RunnerTurn}
    (h : RunnerReaches config opening s₀ turns s) :
    (EveryStep lastApplied GetsThrough none turns → EveryStep lastApplied NoStale none turns) ∧
      EveryStep lastApplied (fun last turn => ¬GetsThrough last turn → LeavesStale last turn)
        none turns := by
  constructor
  · -- a charger just opened has no adapter
    have hfresh : Current s₀ none := by
      intro adapter hmem
      have hnone : s₀.adapter = none := (Charger.openSession_yields h.opened).2.2.1
      nomatch hnone.symm.trans hmem
    exact h.calls.everyStep (M := .free RunnerEffect) (I := fun s _ last => Current s last)
      (fun _ _ _ _ _ _ _ hrun hs _ hthrough => (RunnerCall.run_exit hrun).keeps_noStale hs hthrough)
      () none hfresh (Machine.allowed_free _ _)
  · exact h.calls.everyStep (M := .free RunnerEffect) (I := fun _ _ _ => True)
      (P := fun _ _ => True)
      (fun _ _ _ _ _ _ _ hrun _ _ _ => ⟨(RunnerCall.run_exit hrun).leavesStale, trivial⟩)
      () none trivial (Machine.allowed_free _ _) ((everyStep_const none).2 fun _ _ => trivial)

/-! ### A host to run against -/

namespace Bench

/-- The bench with a host whose callback always agrees. -/
def hostAnswer (bench : Bench) : (o : RunnerEffect.Op) → RunnerEffect.Resp o × Bench
  | .inl o => bench.answer o
  | .inr (.sleep _) => ((() : Unit), bench)
  | .inr (.onAdapter _) => ((.ok () : Except ChargerError Unit), bench)
  | .inr .nowMs => ((bench.now : Nat), bench)

/-- The session that opens on the bench and the calls `ops` of the host. -/
def hosted [LoopFuel] (bench : Bench) (config : ChargerConfig) (ops : List RunnerCall) :
    Option (List (Event ChargerEffect) × Charger × List RunnerTurn × Charger) :=
  match (Charger.openSession (Charger.new config)).runWith (E := ChargerEffect) answer bench with
  | (opening, bench', some (.ok (), s₀)) =>
      (History.execute (E := RunnerEffect) hostAnswer RunnerCall.run bench' s₀ ops).map fun out =>
        (opening, s₀, out.1, out.2)
  | _ => none

/-- A bench run that shows a decidable property is a session that has it. -/
theorem exists_hosted [LoopFuel] {P : List RunnerTurn → Charger → Prop}
    [∀ turns s, Decidable (P turns s)] {bench : Bench} {config : ChargerConfig}
    {ops : List RunnerCall}
    (h : (bench.hosted config ops).any (fun out => decide (P out.2.2.1 out.2.2.2)) = true) :
    ∃ opening s₀ turns s, RunnerReaches config opening s₀ turns s ∧ P turns s := by
  obtain ⟨⟨opening, s₀, turns, s⟩, hhosted, hP⟩ := (Option.any_eq_true ..).1 h
  rw [hosted] at hhosted
  split at hhosted
  · -- the opening succeeded, and the calls follow on the same bench
    rename_i opened bench' s₁ hopen
    obtain ⟨⟨turns', s'⟩, hrun, heq⟩ := Option.map_eq_some_iff.1 hhosted
    cases heq
    have hyields := Prog.yields_runWith (E := ChargerEffect) answer _ bench _
      (congrArg (fun out => out.2.2) hopen)
    rw [hopen] at hyields
    exact ⟨_, _, _, _, ⟨hyields, History.of_execute _ _ _ _ _ _ _ hrun⟩,
      of_decide_eq_true hP⟩
  · nomatch hhosted

end Bench

/-- A bench with a charging port. -/
def dcpPort (deaf : List RegAddr) : Bench := ⟨[(1, 0)], patternDcp, 0, [], deaf⟩

/-- A session on a DCP port that applies once and monitors once, with no stale policy. -/
theorem noStale_dcpPort : ∃ opening s₀ turns s,
    @RunnerReaches ⟨0⟩ .forNabu opening s₀ turns s ∧
      turns.map (fun turn => appliedBy turn.result) = [some .dcp, none] ∧
      s.adapter = some .dcp ∧ EveryStep lastApplied NoStale none turns := by
  obtain ⟨opening, s₀, turns, s, hreach, happlied, hadapter, hthrough⟩ :=
    @Bench.exists_hosted ⟨0⟩ (fun turns s =>
      turns.map (fun turn => appliedBy turn.result) = [some .dcp, none] ∧
        s.adapter = some .dcp ∧ EveryStep lastApplied GetsThrough none turns) _ (dcpPort [])
      .forNabu [.runUntilReady .default, .monitorCycle] (by decide +kernel)
  exact ⟨opening, s₀, turns, s, hreach, happlied, hadapter,
    (@noStale ⟨0⟩ _ _ _ _ _ hreach).1 hthrough⟩

/-- The limit register does not take the limit: `apply` fails, and the next poll finds nothing
to do, with an adapter on record and no policy applied. -/
theorem not_noStale : ∃ opening s₀ turns s,
    @RunnerReaches ⟨0⟩ .forNabu opening s₀ turns s ∧
      turns.map (fun turn => appliedBy turn.result) = [none, none] ∧
      turns.map (fun turn => turn.result.isOk) = [false, true] ∧ s.adapter = some .dcp ∧
      ¬EveryStep lastApplied NoStale none turns :=
  @Bench.exists_hosted ⟨0⟩ (fun turns s =>
    turns.map (fun turn => appliedBy turn.result) = [none, none] ∧
      turns.map (fun turn => turn.result.isOk) = [false, true] ∧ s.adapter = some .dcp ∧
      ¬EveryStep lastApplied NoStale none turns) _ (dcpPort [usbinCurrentLimitCfg])
    .forNabu [.runUntilReady .default, .monitorCycle] (by decide +kernel)

end ChargerCore
