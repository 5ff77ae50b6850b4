import NabuCharger.Core.Calls

/-!
# `Core.Session`: runs of the core driver

`Reaches config opening turns s`: a session with `config` opened with the exchanges `opening`,
then made the calls `turns`, and is in `s`. A caller may make any calls in any order, and the
transport, the clock and the journal answer as they like.

`CallSpec` collects the specifications of the operations, for a closed session as well.
`Bench` is a small peripheral to run a session against: a list of polls with the times they
come at, and registers that keep what is written.
-/

set_option autoImplicit false

namespace ChargerCore

open Effectful

/-- A call, as its caller sees it. -/
abbrev CoreTurn : Type := Turn ChargerEffect ChargerError Charger Answer Call

/-- The plan a call returned. -/
def planOf : Except ChargerError Answer → Option ChargePlan
  | .ok (.plan plan) => some plan
  | .ok (.detection _) => none
  | .ok (.monitor _) => none
  | .ok .done => none
  | .error _ => none

/-- Only `apply` answers with a plan. -/
theorem eq_of_planOf {r : Except ChargerError Answer} {plan : ChargePlan}
    (h : planOf r = some plan) : r = .ok (.plan plan) := by
  match r, h with
  | .ok (.plan plan), rfl => rfl

/-- What a call does. A closed session turns every call but `close` away. -/
inductive CallSpec (s : Charger) (t : List (Event ChargerEffect)) :
    Call → Except ChargerError Answer → Charger → Prop
  | refused {op : Call} (hclosed : s.state = .closed) (ht : t = []) (hop : op ≠ .close) :
      CallSpec s t op (.error .notOpen) s
  | closeAgain (hclosed : s.state = .closed) (ht : t = []) : CallSpec s t .close (.ok .done) s
  | detectStep {r : Except ChargerError Detection} {s' : Charger} {now : Nat}
      (hopen : s.state ≠ .closed) (h : DetectStep s t r s' now) :
      CallSpec s t .detectStep (r.map .detection) s'
  | apply {adapter : AdapterType} {r : Except ChargerError ChargePlan} {s' : Charger}
      (hopen : s.state ≠ .closed) (h : Apply s adapter t r s') :
      CallSpec s t (.apply adapter) (r.map .plan) s'
  | monitor {r : Except ChargerError Monitor} {s' : Charger}
      (hopen : s.state ≠ .closed) (h : Poll s t r s') :
      CallSpec s t .monitor (r.map .monitor) s'
  | reinit {r : Except ChargerError Unit} {s' : Charger}
      (hopen : s.state ≠ .closed) (h : Reinit s t r s') :
      CallSpec s t .reinit (r.map fun _ => .done) s'
  | close {r : Except ChargerError Unit} {s' : Charger}
      (hopen : s.state ≠ .closed) (h : Close s t r s') :
      CallSpec s t .close (r.map fun _ => .done) s'

/-- The settings never change. -/
theorem CallSpec.config {s s' : Charger} {t : List (Event ChargerEffect)} {op : Call}
    {r : Except ChargerError Answer} (h : CallSpec s t op r s') : s'.config = s.config := by
  cases h with
  | refused => rfl
  | closeAgain => rfl
  | detectStep _ h => exact h.config
  | apply _ h => exact h.aside.config
  | monitor _ h => exact h.aside.config
  | reinit _ h => exact h.config
  | close _ h => exact h.aside.config

/-- A program with its result wrapped. -/
theorem yields_map {α : Type} {x : ChargerM α} {f : α → Answer} {s s' : Charger}
    {t : List (Event ChargerEffect)} {r : Except ChargerError Answer}
    (h : (x >>= fun a => pure (f a)).Yields s t r s') :
    ∃ out, r = out.map f ∧ x.Yields s t out s' := by
  obtain ⟨t₁, t₂, a, s₁, rfl, hx, hpure⟩ | ⟨e, rfl, hx⟩ := h.bind_cases
  · obtain ⟨rfl, rfl, rfl⟩ := hpure.pure_cases
    rw [List.append_nil]
    exact ⟨.ok a, rfl, hx⟩
  · exact ⟨.error e, rfl, hx⟩

/-- A closed session is left as it is. -/
theorem refused_yields {α : Type} {s s' : Charger} {t : List (Event ChargerEffect)}
    {r : Except ChargerError α} {rest : Charger → ChargerM α} (hclosed : s.state = .closed)
    (h : (Proc.get >>= fun charger : Charger =>
      if charger.state = .closed then Proc.fail .notOpen else rest charger).Yields s t r s') :
    t = [] ∧ r = .error .notOpen ∧ s' = s := by
  replace h := h.get_bind
  rw [if_pos hclosed] at h
  exact h.fail_cases

variable [LoopFuel]

/-- Every call does what its specification says. -/
theorem run_yields {op : Call} {s s' : Charger} {t : List (Event ChargerEffect)}
    {r : Except ChargerError Answer} (h : op.run.Yields s t r s') : CallSpec s t op r s' := by
  -- a closed session refuses every call but `close`, an open one runs the call's own specification
  by_cases hclosed : s.state = .closed
  · cases op with
    | detectStep =>
        obtain ⟨out, rfl, hx⟩ := yields_map h
        obtain ⟨rfl, rfl, rfl⟩ := refused_yields hclosed hx
        exact .refused hclosed rfl (by decide)
    | apply adapter =>
        obtain ⟨out, rfl, hx⟩ := yields_map h
        obtain ⟨rfl, rfl, rfl⟩ := refused_yields hclosed hx
        exact .refused hclosed rfl nofun
    | monitor =>
        obtain ⟨out, rfl, hx⟩ := yields_map h
        obtain ⟨rfl, rfl, rfl⟩ := refused_yields hclosed hx
        exact .refused hclosed rfl (by decide)
    | reinit =>
        obtain ⟨out, rfl, hx⟩ := yields_map h
        obtain ⟨rfl, rfl, rfl⟩ := refused_yields hclosed hx
        exact .refused hclosed rfl (by decide)
    | close =>
        obtain ⟨out, rfl, hx⟩ := yields_map h
        replace hx := Proc.Yields.get_bind hx
        rw [if_pos hclosed] at hx
        obtain ⟨rfl, rfl, rfl⟩ := hx.pure_cases
        exact .closeAgain hclosed rfl
  · cases op with
    | detectStep =>
        obtain ⟨out, rfl, hx⟩ := yields_map h
        obtain ⟨now, hspec⟩ := Charger.detectStep_yields hclosed hx
        exact .detectStep hclosed hspec
    | apply adapter =>
        obtain ⟨out, rfl, hx⟩ := yields_map h
        exact .apply hclosed (Charger.apply_yields hclosed hx)
    | monitor =>
        obtain ⟨out, rfl, hx⟩ := yields_map h
        exact .monitor hclosed (Charger.monitor_yields hclosed hx)
    | reinit =>
        obtain ⟨out, rfl, hx⟩ := yields_map (f := fun _ => Answer.done) h
        exact .reinit hclosed (Charger.reinit_yields hclosed hx)
    | close =>
        obtain ⟨out, rfl, hx⟩ := yields_map (f := fun _ => Answer.done) h
        exact .close hclosed (Charger.close_yields hclosed hx)

/-- The session opened with `opening` in the state `s₀`, made the calls `turns`, and is in
`s`. -/
structure Reaches (config : ChargerConfig) (opening : List (Event ChargerEffect)) (s₀ : Charger)
    (turns : List CoreTurn) (s : Charger) : Prop where
  opened : Charger.openSession.Yields (Charger.new config) opening (.ok ()) s₀
  calls : History Call.run s₀ turns s

/-! ### A peripheral to run against -/

/-- A peripheral with a script. -/
structure Bench where
  /-- What `APSD_STATUS` reads, and the time the clock shows from then on. The last value is
  read for ever. -/
  polls : List (Byte × Nat)
  /-- What `APSD_RESULT_STATUS` reads. -/
  result : Byte
  now : Nat
  /-- The other registers. -/
  memory : List (RegAddr × Byte)
  /-- Registers that a write does not reach. -/
  deaf : List RegAddr

namespace Bench

/-- The value of a register. -/
def load (bench : Bench) (addr : RegAddr) : Byte :=
  ((bench.memory.find? fun cell => cell.1 == addr).map Prod.snd).getD 0

/-- Answers of the bench. The status comes from the polls that are left, and the last one stays. -/
def answer (bench : Bench) : (o : ChargerOp) → ChargerEffect.Resp o × Bench
  | .name => ("bench", bench)
  | .read addr =>
      if addr = apsdStatus then
        match bench.polls with
        | [] => ((.ok 0 : Except TransportError Byte), bench)
        -- the last poll stays, so that the status does not fall back
        | [poll] => ((.ok poll.1 : Except TransportError Byte), { bench with now := poll.2 })
        | poll :: polls =>
            ((.ok poll.1 : Except TransportError Byte), { bench with polls, now := poll.2 })
      else if addr = apsdResultStatus then
        ((.ok bench.result : Except TransportError Byte), bench)
      else ((.ok (bench.load addr) : Except TransportError Byte), bench)
  | .write addr value =>
      ((.ok () : Except TransportError Unit),
        -- a deaf register takes no write
        if bench.deaf.contains addr then bench
        else { bench with memory := (addr, value) :: bench.memory })
  | .reset => ((.ok () : Except TransportError Unit), bench)
  | .nowMs => ((bench.now : Nat), bench)
  | .event _ => ((), bench)

/-- The session that opens on the bench and makes the calls `ops`: the exchanges of `open`, the
state it leaves, the calls and the last state. -/
def session (bench : Bench) (config : ChargerConfig) (ops : List Call) :
    Option (List (Event ChargerEffect) × Charger × List CoreTurn × Charger) :=
  match (Charger.openSession (Charger.new config)).runWith (E := ChargerEffect) answer bench with
  | (opening, bench', some (.ok (), s₀)) =>
      (History.execute (E := ChargerEffect) answer Call.run bench' s₀ ops).map fun out =>
        (opening, s₀, out.1, out.2)
  | _ => none

/-- A session that the bench ran is one of those `Reaches` speaks of. -/
theorem reaches {bench : Bench} {config : ChargerConfig} {ops : List Call}
    {opening : List (Event ChargerEffect)} {s₀ s : Charger} {turns : List CoreTurn}
    (h : bench.session config ops = some (opening, s₀, turns, s)) :
    Reaches config opening s₀ turns s := by
  rw [session] at h
  split at h
  · rename_i opened bench' s₁ hopen
    obtain ⟨⟨turns, s⟩, hrun, heq⟩ := Option.map_eq_some_iff.1 h
    cases heq
    have hyields := Prog.yields_runWith (E := ChargerEffect) answer _ bench _
      (congrArg (fun out => out.2.2) hopen)
    rw [hopen] at hyields
    exact ⟨hyields, History.of_execute _ _ _ _ _ _ _ hrun⟩
  · nomatch h

/-- What the session on the bench shows, some session shows. -/
theorem exists_reaches {P : Charger → List CoreTurn → Charger → Prop}
    [∀ s₀ turns s, Decidable (P s₀ turns s)] {bench : Bench} {config : ChargerConfig}
    {ops : List Call}
    (h : (bench.session config ops).any
      (fun out => decide (P out.2.1 out.2.2.1 out.2.2.2)) = true) :
    ∃ opening s₀ turns s, Reaches config opening s₀ turns s ∧ P s₀ turns s := by
  obtain ⟨⟨opening, s₀, turns, s⟩, hsession, hP⟩ := (Option.any_eq_true ..).1 h
  exact ⟨opening, s₀, turns, s, reaches hsession, of_decide_eq_true hP⟩

/-- A call of a session on the bench. -/
theorem exists_turn {P : CoreTurn → Prop} [DecidablePred P] {bench : Bench}
    {config : ChargerConfig} {ops : List Call}
    (h : (bench.session config ops).any
      (fun out => out.2.2.1.any fun turn => decide (P turn)) = true) :
    ∃ turn : CoreTurn,
      turn.op.run.Yields turn.start turn.trace turn.result turn.finish ∧ P turn := by
  obtain ⟨⟨opening, s₀, turns, s⟩, hsession, hany⟩ := (Option.any_eq_true ..).1 h
  obtain ⟨turn, hmem, hP⟩ := List.any_eq_true.1 hany
  exact ⟨turn, (reaches hsession).calls.yields_of_mem turn hmem, of_decide_eq_true hP⟩

end Bench

end ChargerCore
