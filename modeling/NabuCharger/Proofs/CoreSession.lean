import NabuCharger.Core.Session

/-!
# `Proofs.CoreSession`: what a session state promises

Three promises of the core session, each with the exact condition under which the code keeps
it.

* `State.ready` documents an identified adapter. `monitor` forgets the adapter when power is
  lost and leaves the state alone, so the promise is kept in a whole run exactly when no poll of
  a ready session finds the detection incomplete (`identified_iff`).
* A failed operation faults the session. The one exit that does not is the link check at the
  end of `reinit` (`faulted_iff`).
* `apply` does not exceed the bound. It rounds down to the grid, but not below its minimum, so
  the bound is kept exactly when the grid starts below it (`applied_le_iff`).
-/

set_option autoImplicit false

namespace ChargerCore

open Effectful

/-! ### A ready session has an adapter -/

/-- A ready session has an adapter. -/
def Charger.Identified (s : Charger) : Prop := s.state = .ready → s.adapter ≠ none

instance (s : Charger) : Decidable s.Identified :=
  inferInstanceAs (Decidable (s.state = .ready → s.adapter ≠ none))

/-- A poll of a ready session that reads the detection as incomplete. -/
def LosesPower (turn : CoreTurn) : Prop :=
  turn.op = .monitor ∧ turn.start.state = .ready ∧
    ∃ status ∈ statusReads turn.trace, ¬Complete status

/-- A state that is not ready promises nothing. -/
theorem Charger.identified_of_ne {s : Charger} (h : s.state ≠ .ready) : s.Identified :=
  fun hready => absurd hready h

/-- The adapter of an identified session, where neither field changed. -/
theorem Charger.Identified.of_same {s s' : Charger} (h : s.Identified)
    (hstate : s'.state = s.state) (hadapter : s'.adapter = s.adapter) : s'.Identified := by
  rw [Charger.Identified, hstate, hadapter]
  exact h

/-- A session that polls is identified if it was before. -/
theorem Charger.Identified.of_polling {s s' : Charger} (h : s.Identified)
    (hstate : s'.state = s.polling) (hadapter : s'.adapter = s.adapter) : s'.Identified := by
  by_cases hfresh : s.detectStartedMs = none
  · rw [Charger.polling, if_pos hfresh] at hstate
    exact Charger.identified_of_ne (by rw [hstate]; decide)
  · rw [Charger.polling, if_neg hfresh] at hstate
    exact h.of_same hstate hadapter

/-- A detection step keeps the promise. -/
theorem DetectExit.identified {s s' : Charger} {now : Nat} {t : List (Event ChargerEffect)}
    {r : Except ChargerError Detection} (h : DetectExit s now t r s') (hs : s.Identified) :
    s'.Identified := by
  -- a faulted charger claims no adapter
  have hfaulted (hstate : s'.state = .faulted) : s'.Identified :=
    Charger.identified_of_ne (by rw [hstate]; decide)
  cases h with
  | linkLost _ _ _ _ hstate => exact hfaulted hstate
  | ready _ _ _ _ hadapter =>
      intro _
      rw [hadapter]
      nofun
  | waiting _ _ _ _ _ hstate hadapter => exact hs.of_polling hstate hadapter
  | rerun _ _ _ _ _ hadapter _ hresult =>
      rcases hresult with ⟨n, -, hstate⟩ | ⟨err, -, -, hstate⟩
      · exact hs.of_polling hstate hadapter
      · exact hfaulted hstate
  | timedOut _ _ _ _ _ hstate => exact hfaulted hstate
  | rejected _ _ _ _ hstate => exact hfaulted hstate

/-- The step: a call breaks the promise exactly when it loses power. -/
theorem CallSpec.step_identified {s s' : Charger} {t : List (Event ChargerEffect)} {op : Call}
    {r : Except ChargerError Answer} (h : CallSpec s t op r s') (hs : s.Identified) :
    s'.Identified ↔ ¬LosesPower ⟨op, s, t, r, s'⟩ := by
  have hkept (hop : op ≠ .monitor) (hs' : s'.Identified) :
      s'.Identified ↔ ¬LosesPower ⟨op, s, t, r, s'⟩ :=
    iff_of_true hs' fun hloses => hop hloses.1
  -- one case per call; only a monitoring call that found no adapter can lose the identity
  cases h with
  | refused hclosed =>
      refine iff_of_true hs fun hloses => ?_
      have hready : s.state = .ready := hloses.2.1
      rw [hclosed] at hready
      nomatch hready
  | closeAgain => exact hkept (by decide) hs
  | detectStep _ h => exact hkept (by decide) (h.ends.identified hs)
  | apply _ h =>
      refine hkept nofun ?_
      rcases h.ends with ⟨plan, -, -, -, hadapter⟩ | ⟨err, -, hstate, -⟩
      · intro _
        rw [hadapter]
        nofun
      · exact Charger.identified_of_ne (by rw [hstate]; decide)
  | monitor _ h =>
      cases h.ends with
      | failed hstatus hstate =>
          refine iff_of_true (Charger.identified_of_ne (by rw [hstate]; decide)) ?_
          rintro ⟨-, -, status, hmem, hpending⟩
          exact hpending (hstatus status hmem)
      | detached hstatus hpending hstate hadapter =>
          -- this is the one way to lose power: ready before, and a status that is not done
          have hloses : LosesPower ⟨.monitor, s, t, .ok (.monitor .detached), s'⟩ ↔
              s.state = .ready := by
            refine ⟨fun hloses => hloses.2.1, fun hready => ⟨rfl, hready, _, ?_, hpending⟩⟩
            rw [hstatus]
            exact List.mem_singleton_self _
          rw [Charger.Identified, hstate, hadapter]
          constructor
          · exact fun hpromise hl => hpromise (hloses.1 hl) rfl
          · exact fun hnot hready => absurd (hloses.2 hready) hnot
      | answered hstatus hstate hadapter =>
          refine iff_of_true (fun _ => by rw [hadapter]; nofun) ?_
          rintro ⟨-, -, status, hmem, hpending⟩
          exact hpending (hstatus status hmem)
  | reinit _ h =>
      refine hkept (by decide) ?_
      cases h.ends with
      | resetFailed _ _ _ hstate => exact Charger.identified_of_ne (by rw [hstate]; decide)
      | probed _ _ hstate => exact Charger.identified_of_ne (by rw [hstate]; decide)
  | close _ h => exact hkept (by decide) (Charger.identified_of_ne (by rw [h.state]; decide))

/-- A session that opened is idle. -/
theorem Reaches.start_identified [LoopFuel] {config : ChargerConfig}
    {opening : List (Event ChargerEffect)} {s₀ s : Charger} {turns : List CoreTurn}
    (h : Reaches config opening s₀ turns s) : s₀.Identified := by
  obtain ⟨-, hidle, -⟩ := Charger.openSession_yields h.opened
  exact Charger.identified_of_ne (by rw [hidle]; decide)

/-- A ready session has an adapter in every state of a run exactly when no poll of a ready
session in the run reads the detection as incomplete. -/
theorem identified_iff [LoopFuel] {config : ChargerConfig} {opening : List (Event ChargerEffect)}
    {s₀ s : Charger} {turns : List CoreTurn} (h : Reaches config opening s₀ turns s) :
    (s₀.Identified ∧ ∀ turn ∈ turns, turn.finish.Identified) ↔
      ∀ turn ∈ turns, ¬LosesPower turn := by
  have hstart := h.start_identified
  have hiff : (∀ turn ∈ turns, turn.finish.Identified) ↔ ∀ turn ∈ turns, ¬LosesPower turn :=
    h.calls.forall_finish_iff
      (fun _ _ _ _ _ hrun hs => (run_yields hrun).step_identified hs) hstart
  exact ⟨fun hall => hiff.1 hall.2, fun hnone => ⟨hstart, hiff.2 hnone⟩⟩

instance (turn : CoreTurn) : Decidable (LosesPower turn) :=
  inferInstanceAs (Decidable (_ ∧ _ ∧ ∃ status ∈ statusReads turn.trace, ¬Complete status))

/-- A bench on which a charging port is identified at once and gone at the next poll. -/
def pulledOut : Bench := ⟨[(1, 0), (1, 0), (0, 0)], patternDcp, 0, [], []⟩

/-- A bench with the port still there. -/
def pluggedIn : Bench := ⟨[(1, 0)], patternDcp, 0, [], []⟩

/-- A session of three turns whose calls all end with the charger identified. -/
theorem identified_iff_pluggedIn : ∃ opening s₀ turns s,
    @Reaches ⟨0⟩ .forNabu opening s₀ turns s ∧ turns.length = 3 ∧
      s₀.Identified ∧ ∀ turn ∈ turns, turn.finish.Identified := by
  obtain ⟨opening, s₀, turns, s, hreach, hlength, hnone⟩ := @Bench.exists_reaches ⟨0⟩
    (fun _ turns _ => turns.length = 3 ∧ ∀ turn ∈ turns, ¬LosesPower turn) _ pluggedIn .forNabu
    [.detectStep, .apply .dcp, .monitor] (by decide +kernel)
  exact ⟨opening, s₀, turns, s, hreach, hlength, (@identified_iff ⟨0⟩ _ _ _ _ _ hreach).2 hnone⟩

/-- Power lost in a ready session leaves it ready, without an adapter. -/
theorem not_identified : ∃ opening s₀ turns s,
    @Reaches ⟨0⟩ .forNabu opening s₀ turns s ∧ s.state = .ready ∧ s.adapter = none :=
  @Bench.exists_reaches ⟨0⟩ (fun _ _ s => s.state = .ready ∧ s.adapter = none) _ pulledOut
    .forNabu [.detectStep, .apply .dcp, .monitor] (by decide +kernel)

/-! ### Failures are sticky -/

/-- A result other than a refusal faults the session if it is an error. -/
def Sticky (r : Except ChargerError Answer) (s' : Charger) : Prop :=
  ∀ err, r = .error err → err ≠ .notOpen → s'.state = .faulted

/-- A reinitialization that brings the link back and then reads no status but all ones. -/
def LinkUnread (op : Call) (t : List (Event ChargerEffect)) : Prop :=
  op = .reinit ∧ (resets t).head? = some true ∧ ¬∃ status ∈ statusReads t, status ≠ 0xFF

/-- A charger already faulted satisfies the stickiness of every result. -/
theorem sticky_of_faulted {r : Except ChargerError Answer} {s' : Charger}
    (h : s'.state = .faulted) : Sticky r s' :=
  fun _ _ _ => h

/-- A result that is no error. -/
theorem sticky_of_ok {answer : Answer} {s' : Charger} : Sticky (.ok answer) s' :=
  fun _ herr => nomatch herr

/-- An operation of an open session faults it when it fails, unless it is a reinitialization
whose link check fails. -/
theorem faulted_iff [LoopFuel] {op : Call} {s s' : Charger} {t : List (Event ChargerEffect)}
    {r : Except ChargerError Answer} (hopen : s.state ≠ .closed) (h : op.run.Yields s t r s') :
    Sticky r s' ↔ ¬LinkUnread op t := by
  -- every call but `reinit` leaves a faulted charger faulted or did not fault it
  have hsticky {op : Call} (hop : op ≠ .reinit) {r : Except ChargerError Answer}
      (hs : Sticky r s') : Sticky r s' ↔ ¬LinkUnread op t :=
    iff_of_true hs fun hunread => hop hunread.1
  cases run_yields h with
  | refused hclosed => exact absurd hclosed hopen
  | closeAgain hclosed => exact absurd hclosed hopen
  | detectStep _ h =>
      refine hsticky (by decide) ?_
      cases h.ends with
      | linkLost _ _ _ _ hstate => exact sticky_of_faulted hstate
      | ready => exact sticky_of_ok
      | waiting => exact sticky_of_ok
      | rerun _ _ _ _ _ _ _ hresult =>
          rcases hresult with ⟨n, rfl, -⟩ | ⟨err, -, -, hstate⟩
          · exact sticky_of_ok
          · exact sticky_of_faulted hstate
      | timedOut _ _ _ _ _ hstate => exact sticky_of_faulted hstate
      | rejected _ _ _ _ hstate => exact sticky_of_faulted hstate
  | apply _ h =>
      refine hsticky (by nofun) ?_
      rcases h.ends with ⟨plan, rfl, -⟩ | ⟨err, -, hstate, -⟩
      · exact sticky_of_ok
      · exact sticky_of_faulted hstate
  | monitor _ h =>
      refine hsticky (by decide) ?_
      cases h.ends with
      | failed _ hstate => exact sticky_of_faulted hstate
      | detached => exact sticky_of_ok
      | answered => exact sticky_of_ok
  | close _ h =>
      refine hsticky (by decide) ?_
      rw [h.returns]
      exact sticky_of_ok
  | @reinit out _ _ h =>
      -- a re-initialisation clears the fault exactly if its reset and its probe got through
      cases h.ends with
      | resetFailed hreset _ _ hstate =>
          refine iff_of_true (sticky_of_faulted hstate) fun hunread => ?_
          have hback := hunread.2.1
          rw [hreset] at hback
          nomatch hback
      | probed hreset hprobe hstate =>
          have hanswers : out = .ok () ↔ ¬LinkUnread .reinit t := by
            rw [hprobe.answers]
            constructor
            · exact fun hread hunread => hunread.2.2 hread
            · exact fun hnot => Classical.byContradiction fun hnone => hnot ⟨rfl, hreset, hnone⟩
          rw [← hanswers]
          cases out with
          | ok u => exact iff_of_true sticky_of_ok rfl
          | error err =>
              refine iff_of_false (fun hs => ?_) nofun
              have hfaulted := hs err rfl (hprobe.failure err rfl)
              rw [hstate] at hfaulted
              nomatch hfaulted

instance (op : Call) (t : List (Event ChargerEffect)) : Decidable (LinkUnread op t) :=
  inferInstanceAs (Decidable (_ ∧ _ ∧ ¬∃ status ∈ statusReads t, status ≠ 0xFF))

/-- A bench whose link answers all ones once the session is open. -/
def unreadLink : Bench := ⟨[(1, 0), (0xFF, 0)], 0, 0, [], []⟩

/-- A poll on this link fails, and it faults the session. -/
theorem faulted_iff_unreadLink : ∃ turn : CoreTurn, turn.op = .monitor ∧
    (@Call.run ⟨0⟩ turn.op).Yields turn.start turn.trace turn.result turn.finish ∧
      turn.result = .error (.adapterCheckTimeout 0xFF) ∧ Sticky turn.result turn.finish := by
  obtain ⟨turn, hrun, hop, hopen, hfails, hread⟩ := @Bench.exists_turn ⟨0⟩
    (fun turn => turn.op = .monitor ∧ turn.start.state ≠ .closed ∧
      turn.result = .error (.adapterCheckTimeout 0xFF) ∧ ¬LinkUnread turn.op turn.trace)
    _ unreadLink .forNabu [.monitor] (by decide +kernel)
  exact ⟨turn, hop, hrun, hfails, (@faulted_iff ⟨0⟩ _ _ _ _ _ hopen hrun).2 hread⟩

/-- A link that answers all ones after its reset leaves the session idle, with an error. -/
theorem not_faulted : ∃ turn : CoreTurn, turn.op = .reinit ∧
    (@Call.run ⟨0⟩ turn.op).Yields turn.start turn.trace turn.result turn.finish ∧
      turn.start.state ≠ .closed ∧ turn.result = .error (.deviceFault 0xFF) ∧
      turn.finish.state = .idle := by
  obtain ⟨turn, hrun, hop, hrest⟩ := @Bench.exists_turn ⟨0⟩
    (fun turn => turn.op = .reinit ∧ turn.start.state ≠ .closed ∧
      turn.result = .error (.deviceFault 0xFF) ∧ turn.finish.state = .idle)
    _ unreadLink .forNabu [.reinit] (by decide +kernel)
  exact ⟨turn, hop, hrun, hrest⟩

/-! ### The applied current -/

/-- The current `apply` sets is the one of the code it writes, and it is within the bound of the
policy and the settings exactly when the grid starts within it. -/
theorem applied_le_iff [LoopFuel] {adapter : AdapterType} {s s' : Charger}
    {t : List (Event ChargerEffect)} {plan : ChargePlan}
    (h : (Call.apply adapter).run.Yields s t (.ok (.plan plan)) s') :
    s.config.icl.decode plan.iclRaw = plan.appliedIclUa ∧
      (plan.appliedIclUa ≤ min (policyFor adapter s.config.qc35).iclUa s.config.maxIclUa ↔
        s.config.icl.minUa ≤ min (policyFor adapter s.config.qc35).iclUa s.config.maxIclUa) := by
  obtain ⟨out, hout, hx⟩ := yields_map h
  -- a closed session returns no plan, so the session was open
  have hopen : s.state ≠ .closed := by
    intro hclosed
    obtain ⟨-, rfl, -⟩ := refused_yields hclosed hx
    nomatch hout
  rcases (Charger.apply_yields hopen hx).ends with ⟨made, rfl, hplanned, -⟩ | ⟨err, rfl, -⟩
  · cases hout
    have happlied := hplanned.applied
    rw [hplanned.policy] at happlied
    have hword : s.config.allowedUa (policyFor adapter s.config.qc35) ≤ wordMax 32 :=
      Nat.le_trans (Nat.min_le_left ..)
        (Nat.le_trans (policyFor_iclUa_le adapter s.config.qc35) (by decide))
    have hcode := hplanned.encoded
    rw [happlied] at hcode ⊢
    exact ⟨IclEncoding.decode_encode_quantizeDown hword hcode, IclEncoding.quantizeDown_le_iff _⟩
  · nomatch hout

/-- The SDP limit fits in a 32-bit register value. -/
theorem iclSdpUa_le : iclSdpUa ≤ wordMax 32 := by decide

/-- Settings whose grid starts at 500 mA. -/
def coarseGrid : ChargerConfig :=
  { ChargerConfig.forNabu with
    icl := ⟨iclSdpUa, iclStepUa, iclRawMax, iclSdpUa_le, IclEncoding.standard.stepUa_le⟩ }

/-- A DCP adapter is applied at a limit no greater than the DCP table value. -/
theorem applied_le_dcp : ∃ (turn : CoreTurn) (plan : ChargePlan), turn.op = .apply .dcp ∧
    (@Call.run ⟨0⟩ turn.op).Yields turn.start turn.trace turn.result turn.finish ∧
      turn.result = .ok (.plan plan) ∧ plan.appliedIclUa ≤ iclDcpUa := by
  obtain ⟨turn, hrun, hop, hconfig, hplan⟩ := @Bench.exists_turn ⟨0⟩
    (fun turn => turn.op = .apply .dcp ∧ turn.start.config = .forNabu ∧ (planOf turn.result).isSome)
    _ pluggedIn .forNabu [.apply .dcp] (by decide +kernel)
  obtain ⟨plan, hplan⟩ := Option.isSome_iff_exists.1 hplan
  have hresult := eq_of_planOf hplan
  have hrun' := hrun
  rw [hop, hresult] at hrun'
  have hbound := (@applied_le_iff ⟨0⟩ _ _ _ _ _ hrun').2
  rw [hconfig] at hbound
  exact ⟨turn, plan, hop, hrun, hresult, hbound.2 (by decide)⟩

/-- On a grid that starts at 500 mA, a source that may draw 100 mA is given 500 mA. -/
theorem not_applied_le : ∃ (turn : CoreTurn) (plan : ChargePlan), turn.op = .apply .ocp ∧
    (@Call.run ⟨0⟩ turn.op).Yields turn.start turn.trace turn.result turn.finish ∧
      turn.result = .ok (.plan plan) ∧ ¬plan.appliedIclUa ≤
        min (policyFor .ocp turn.start.config.qc35).iclUa turn.start.config.maxIclUa := by
  obtain ⟨turn, hrun, hop, hplan⟩ := @Bench.exists_turn ⟨0⟩
    (fun turn => turn.op = .apply .ocp ∧ ((planOf turn.result).any fun plan =>
      ¬plan.appliedIclUa ≤ min (policyFor .ocp turn.start.config.qc35).iclUa
        turn.start.config.maxIclUa) = true)
    _ pluggedIn coarseGrid [.apply .ocp] (by decide +kernel)
  obtain ⟨plan, hplan, hexceeds⟩ := (Option.any_eq_true ..).1 hplan
  exact ⟨turn, plan, hop, hrun, eq_of_planOf hplan, of_decide_eq_true hexceeds⟩

end ChargerCore
