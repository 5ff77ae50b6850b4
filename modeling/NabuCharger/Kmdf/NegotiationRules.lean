import NabuCharger.Kmdf.PmicRules

/-!
# `Kmdf.NegotiationRules`: the programs of the Quick Charge machine, and what they own

The programs that wait, step and negotiate make only writes the driver may make. Each of them has
a bound on the time it sleeps, which is read off its loops: a wait sleeps once a poll, a correction
once a pulse, and the pulses have a budget.
-/

set_option autoImplicit false

namespace Kmdf

open Effectful Ln8000

section
variable {ε α : Type} {n : Nat}

/-! ### Waits -/

/-- The polls of the detection: `polls` more pauses reach the deadline. -/
theorem owned_waitApsdDone (bus : Bus) (fuel : Nat) : ∀ waited polls, polls < fuel →
    apsdWaitMs ≤ waited + apsdPollMs * polls →
    Owned (apsdPollMs * polls) (waitApsdDone bus fuel waited) := by
  induction fuel with
  | zero => exact fun _ polls hfuel => absurd hfuel (Nat.not_lt_zero polls)
  | succ fuel ih =>
      intro waited polls hfuel hpolls
      refine (owned_readReg bus _).bind_free fun status => (owned_modify _).bind_free fun _ => ?_
      refine Proc.Costs.ite (fun _ => ?_) fun _ => Proc.Costs.ite (fun _ => ?_) fun hearly => ?_
      · refine Proc.Costs.mono (k := 0) ?_ (Nat.zero_le _)
        exact (owned_readReg bus _).bind_free fun _ => owned_modify _
      · exact (Proc.Costs.fail _).mono (Nat.zero_le _)
      · cases polls with
        | zero => exact absurd hpolls hearly
        | succ polls =>
            have hword : wordMax 32 = 4294967295 := by decide
            -- one poll less to pay for: the waited time counts up to the limit
            have hrest := ih (satAdd 32 waited apsdPollMs) polls (Nat.lt_of_succ_lt_succ hfuel)
              (by simp only [satAdd, hword, apsdWaitMs, apsdPollMs] at *; omega)
            refine ((owned_sleepMs apsdPollMs).bind fun _ => hrest).mono ?_
            rw [Nat.mul_succ, Nat.add_comm]

/-- The polls of a wait for `Vin`. -/
theorem owned_waitVinWindow (timeoutMs : Nat) (htimeout : timeoutMs ≤ 4294967295)
    (pred : Int → Bool) (fuel : Nat) : ∀ waited polls, polls < fuel →
    timeoutMs ≤ waited + qc35VinPollMs * polls →
    Owned (qc35VinPollMs * polls)
      (waitVinWindow timeoutMs pred fuel waited : Proc HvdcpEffect ε HvdcpState (Option Int)) := by
  induction fuel with
  | zero => exact fun _ polls hfuel => absurd hfuel (Nat.not_lt_zero polls)
  | succ fuel ih =>
      intro waited polls hfuel hpolls
      refine owned_readVin.bind_free fun vin => ?_
      refine Proc.Costs.ite (fun _ => (Proc.Costs.pure _).mono (Nat.zero_le _)) fun _ => ?_
      refine Proc.Costs.ite (fun _ => (Proc.Costs.pure _).mono (Nat.zero_le _)) fun hearly => ?_
      cases polls with
      | zero => exact absurd hpolls hearly
      | succ polls =>
          have hword : wordMax 32 = 4294967295 := by decide
          -- one poll less to pay for: the waited time counts up to the limit
          have hrest := ih (satAdd 32 waited qc35VinPollMs) polls (Nat.lt_of_succ_lt_succ hfuel)
            (by simp only [satAdd, hword, qc35VinPollMs] at *; omega)
          refine ((owned_sleepMs qc35VinPollMs).bind fun _ => hrest).mono ?_
          rw [Nat.mul_succ, Nat.add_comm]

/-- The wait for `FORCE_9V` has done `k` pauses. The deadline is moved once, to 4 s. One pause
more follows it when the first sample above the gate comes at the deadline. -/
structure Force9vPoll.Paused (poll : Force9vPoll) (k : Nat) : Prop where
  waited : poll.waited = force9vPollMs * k
  deadline : poll.deadline = if poll.extended then 4000 else force9vSettleMs
  early : k ≤ 80 ∨ k = 81 ∧ 1 ≤ poll.confirm

/-- A poll that goes on has a pause left. -/
theorem Force9vPoll.Paused.judge {poll next : Force9vPoll} {k : Nat} (h : poll.Paused k)
    (hjudge : poll.judge = some next) (last peak : Int) : k ≤ 80 ∧
      Paused { next with
        waited := satAdd 32 next.waited force9vPollMs, last := last, peak := peak } (k + 1) := by
  have hword : wordMax 32 = 4294967295 := by decide
  obtain ⟨hwaited, hdeadline, hearly⟩ := h
  have hsum : ∀ k ≤ 80, satAdd 32 (force9vPollMs * k) force9vPollMs = force9vPollMs * (k + 1) := by
    intro k hk
    simp only [satAdd, hword, force9vPollMs]
    omega
  simp only [Force9vPoll.judge] at hjudge
  split at hjudge
  · -- A sample above the gate: the first one goes on, whatever the deadline is.
    split at hjudge
    · cases hjudge
    · next hfirst =>
        cases hjudge
        have hk : k ≤ 80 := by
          simp only [force9vConfirmN] at hfirst
          omega
        refine ⟨hk, ?_, hdeadline, ?_⟩
        · simp only [hwaited, hsum k hk]
        · simp only
          omega
  · -- A sample below it goes on before the deadline only.
    have hbefore : ∀ {answer}, force9vStep poll.last poll.waited poll.deadline poll.extended
        switchingMinVinUv = answer → answer ≠ .stop → poll.waited < poll.deadline := by
      intro answer hstep hgo
      rw [force9vStep] at hstep
      split at hstep
      · exact absurd hstep.symm hgo
      · next hnot => omega
    have hlast : poll.deadline ≤ 4000 := by
      rw [hdeadline]
      split
      · exact Nat.le_refl _
      · decide
    split at hjudge
    · cases hjudge
    · next hstep =>
        cases hjudge
        have hlt := hbefore hstep (by decide)
        have hk : k + 1 ≤ 80 := by
          simp only [hwaited, force9vPollMs] at hlt
          omega
        have hextended : poll.extended = false := by
          rw [force9vStep] at hstep
          split at hstep
          · cases hstep
          · split at hstep
            · next h => exact h.1
            · cases hstep
        refine ⟨by omega, ?_, ?_, .inl hk⟩
        · simp only [hwaited, hsum k (by omega)]
        · simp only [hdeadline, hextended]
          decide
    · next hstep =>
        cases hjudge
        have hlt := hbefore hstep (by decide)
        have hk : k + 1 ≤ 80 := by
          simp only [hwaited, force9vPollMs] at hlt
          omega
        refine ⟨by omega, ?_, hdeadline, .inl hk⟩
        simp only [hwaited, hsum k (by omega)]

/-- The wait for 9 V polls at most 81 times, the extension of its deadline included. -/
theorem owned_waitForce9vRise (fuel : Nat) : ∀ (poll : Force9vPoll) (k : Nat), poll.Paused k →
    81 < fuel + k → Owned (force9vPollMs * (81 - k)) (waitForce9vRise fuel poll) := by
  induction fuel with
  | zero =>
      intro poll k hpaused hfuel
      obtain hearly | ⟨hlast, _⟩ := hpaused.early <;> omega
  | succ fuel ih =>
      intro poll k hpaused hfuel
      unfold waitForce9vRise
      cases hjudge : poll.judge with
      | none => exact (Proc.Costs.pure _).mono (Nat.zero_le _)
      | some next =>
          refine Proc.Costs.ite (fun _ => (Proc.Costs.pure _).mono (Nat.zero_le _)) fun _ => ?_
          have hstep := fun last peak => hpaused.judge hjudge last peak
          have hk : k ≤ 80 := (hstep 0 0).1
          have hpauses : force9vPollMs * (81 - k) =
              force9vPollMs + force9vPollMs * (81 - (k + 1)) := by
            simp only [force9vPollMs]
            omega
          rw [hpauses]
          -- One pause, and one less of those that are left.
          refine (owned_sleepMs force9vPollMs).bind fun _ => owned_readVin.bind_free fun last => ?_
          exact ih _ (k + 1) (hstep last (max next.peak last)).2 (by omega)

/-- A level is confirmed with a pause before each sample. -/
theorem owned_confirmHold (tries : Nat) :
    ∀ vin hold, Owned (force9vPollMs * tries) (confirmHold tries vin hold) := by
  induction tries with
  | zero => exact fun _ _ => Proc.Costs.pure _
  | succ tries ih =>
      intro vin hold
      refine Proc.Costs.ite (fun _ => (Proc.Costs.pure _).mono (Nat.zero_le _)) fun _ => ?_
      refine ((owned_sleepMs force9vPollMs).bind fun _ =>
        owned_readVin.bind_free fun vin => ih vin _).mono ?_
      rw [Nat.mul_succ, Nat.add_comm]

/-! ### Authentication -/

/-- A pulse of the authentication costs its gap. -/
theorem owned_pulseAuthStep (bus : Bus) (pulse : Qc35AuthPulse) :
    Owned qc35AuthPulseGapMs (pulseAuthStep bus pulse) := by
  cases pulse with
  | inc =>
      refine (owned_pulseIncGap bus _).attempt.bind (n := 0) fun result => ?_
      cases result with
      | ok _ => exact Proc.Costs.pure ()
      | error _ => exact Proc.Costs.fail ()
  | dec =>
      refine (owned_pulseDecGap bus _).attempt.bind (n := 0) fun result => ?_
      cases result with
      | ok _ => exact Proc.Costs.pure ()
      | error _ => exact Proc.Costs.fail ()

/-- A train costs the gaps of its pulses. -/
theorem owned_pulseTrain (bus : Bus) (pulses : List Qc35AuthPulse) :
    Owned (qc35AuthPulseGapMs * pulses.length) (pulseTrain bus pulses) := by
  induction pulses with
  | nil => exact Proc.Costs.pure ()
  | cons pulse rest ih =>
      refine ((owned_pulseAuthStep bus pulse).bind fun _ => ih).mono ?_
      rw [List.length_cons, Nat.mul_succ, Nat.add_comm]

/-- The preparation costs the gaps of the pulses in its budget. -/
theorem owned_prepPulses (bus : Bus) (budget : Nat) :
    ∀ vin, Owned (qc35AuthPulseGapMs * budget) (prepPulses bus budget vin) := by
  induction budget with
  | zero => exact fun _ => Proc.Costs.pure ()
  | succ budget ih =>
      intro vin
      refine Proc.Costs.ite (fun _ => (Proc.Costs.pure ()).mono (Nat.zero_le _)) fun _ => ?_
      -- The voltage is read behind every pulse. Too high or invalid, it ends the preparation.
      refine ((owned_pulseAuthStep bus .inc).bind fun _ => owned_readVin.bind_free fun vin =>
        Proc.Costs.ite (fun _ => (Proc.Costs.fail ()).mono (Nat.zero_le _)) fun _ =>
          ih vin).mono ?_
      rw [Nat.mul_succ, Nat.add_comm]

/-- The pulses of the preparation, and the polls of the first wait. -/
theorem owned_prepQc35DetectWindow (bus : Bus) : Owned 240 (prepQc35DetectWindow bus) := by
  refine owned_readVin.bind_free fun vin => ?_
  refine Proc.Costs.ite (fun _ => (Proc.Costs.fail ()).mono (Nat.zero_le _)) fun _ => ?_
  refine (owned_prepPulses bus qc35PrepMaxInc vin).bind (n := 200) fun _ => ?_
  have hwait := owned_waitVinWindow (ε := Unit) qc35DetectTimeoutMs (by decide)
    qc35DetectWindow (vinPolls qc35DetectTimeoutMs) 0 10 (by decide) (by decide)
  refine hwait.bind (n := 0) fun seen => ?_
  cases seen with
  | some vin => exact Proc.Costs.pure vin
  | none => exact Proc.Costs.fail ()

/-- A power class asks for 3 A at most. -/
theorem qc35IclRaw_le (powerW : Nat) : qc35IclRaw powerW ≤ iclRawPump3a := by
  rw [qc35IclRaw]
  split <;> decide

/-- The preparation, the two trains, and the polls of the second wait. -/
theorem owned_attemptQc35Authenticate (bus : Bus) : Owned 550 (attemptQc35Authenticate bus) := by
  refine (owned_ensureIclFloor500ma bus).discard.bind_free fun _ => ?_
  -- The window, the two trains, and the wait for the answer of the adapter.
  refine (owned_prepQc35DetectWindow bus).bind (n := 310) fun _ => ?_
  refine (owned_pulseTrain bus qc35SrcCapPulses).bind (n := 280) fun _ => ?_
  have hwait := owned_waitVinWindow (ε := Unit) qc35CapTimeoutMs (by decide)
    qc35CapWindow (vinPolls qc35CapTimeoutMs) 0 13 (by decide) (by decide)
  refine hwait.bind (n := 20) fun seen => ?_
  cases seen with
  | none =>
      refine Proc.Costs.mono (k := 0) ?_ (Nat.zero_le _)
      exact owned_readVin.bind_free fun _ => Proc.Costs.fail ()
  | some capVin =>
      cases hpower : qc35PowerLimitW capVin with
      | none =>
          simp only [hpower]
          exact (Proc.Costs.fail ()).mono (Nat.zero_le _)
      | some powerW =>
          simp only [hpower]
          refine (owned_pulseTrain bus qc35ConfirmPulses).bind (n := 0) fun _ => ?_
          exact (owned_ensureIclAtLeast bus (qc35IclRaw_le powerW)).discard.bind_free fun _ =>
            Proc.Costs.pure powerW

/-! ### Elevation -/

/-- Version 3 is raised with a pause after each step. -/
theorem owned_qc3Raise (bus : Bus) (target ceiling : Int) (want : Nat) :
    ∀ vin, Owned (pulseGapMs * want) (qc3Raise bus target ceiling want vin) := by
  induction want with
  | zero => exact fun _ => Proc.Costs.pure ()
  | succ want ih =>
      intro vin
      refine Proc.Costs.get_bind fun st => ?_
      refine Proc.Costs.ite (fun _ => (Proc.Costs.pure ()).mono (Nat.zero_le _)) fun _ => ?_
      rw [Nat.mul_succ, Nat.add_comm]
      refine (owned_pulseIncGap bus pulseGapMs).attempt.bind fun result => ?_
      cases result with
      -- a failed pulse ends the loop, with its gap unpaid
      | error err =>
          refine Proc.Costs.mono (k := 0) ?_ (Nat.zero_le _)
          exact (owned_setPhase _).bind_free fun _ =>
            (owned_safeForce5v bus).bind_free fun _ => Proc.Costs.fail err
      | ok _ =>
          refine owned_readVin.bind_free fun vin => ?_
          exact Proc.Costs.ite (fun _ => (Proc.Costs.pure ()).mono (Nat.zero_le _)) fun _ => ih vin

/-- So is a plain charging port, when steps are tried on it. -/
theorem owned_dcpRaise (bus : Bus) (target : Int) (budget : Nat) :
    ∀ vin, Owned (pulseGapMs * budget) (dcpRaise bus target budget vin) := by
  induction budget with
  | zero => exact fun _ => Proc.Costs.pure _
  | succ budget ih =>
      intro vin
      refine Proc.Costs.get_bind fun st => ?_
      refine Proc.Costs.ite (fun _ => (Proc.Costs.pure _).mono (Nat.zero_le _)) fun _ => ?_
      rw [Nat.mul_succ, Nat.add_comm]
      refine (owned_pulseIncGap bus pulseGapMs).attempt.bind fun result => ?_
      cases result with
      | error err => exact (Proc.Costs.pure _).mono (Nat.zero_le _)
      | ok _ => exact owned_readVin.bind_free fun vin => ih vin

/-- No target is further away than the steps the counter can hold. -/
theorem pulsesTowardTarget_le (vbatUv : Nat) : pulsesTowardTarget vbatUv ≤ maxPulseCnt := by
  simp only [pulsesTowardTarget]
  split
  · exact Nat.zero_le _
  · exact Nat.min_le_right _ _

/-- The authentication, and the steps of version 3. -/
theorem owned_elevateQc3 (bus : Bus) (vbatUv : Nat) : Owned 1470 (elevateQc3 bus vbatUv) := by
  refine (owned_setPhase _).bind_free fun _ => ?_
  refine (owned_attemptQc35Authenticate bus).discard.bind (n := 920) fun _ => ?_
  refine (owned_setPhase _).bind_free fun _ => owned_readVin.bind_free fun vin => ?_
  refine (owned_qc3Raise bus _ _ _ vin).mono ?_
  exact Nat.mul_le_mul_left pulseGapMs (pulsesTowardTarget_le vbatUv)

/-- The request for 9 V is given twice 50 ms. -/
theorem owned_requestForce9v (bus : Bus) : Owned 100 (requestForce9v bus) := by
  refine (owned_setPhase _).bind_free fun _ => ?_
  refine (owned_force9v bus).attempt.bind (n := 0) fun result => ?_
  cases result with
  | error err =>
      exact (owned_setPhase _).bind_free fun _ =>
        (owned_safeForce5v bus).bind_free fun _ => Proc.Costs.fail err
  | ok _ => exact (owned_ensureIclAtLeast bus (by decide)).discard

/-- The wait for 9 V, its confirmation, and the steps that are tried when it fails. -/
theorem owned_elevateDcp (bus : Bus) (vbatUv : Nat) : Owned 5270 (elevateDcp bus vbatUv) := by
  have hpoll : ∀ first : Int, Force9vPoll.Paused
      { waited := 0, deadline := force9vSettleMs, extended := false, last := first, peak := first,
        confirm := 0 } 0 :=
    fun _ => ⟨rfl, rfl, .inl (Nat.zero_le _)⟩
  -- the budget is the sum of the waits in their order
  refine (owned_requestForce9v bus).bind (n := 5170) fun _ => ?_
  refine owned_readVin.bind_free fun first => ?_
  have hrise := owned_waitForce9vRise force9vPolls _ 0 (hpoll first) (by decide)
  refine hrise.bind (n := 1120) fun _ => ?_
  refine owned_readVin.bind_free fun after => ?_
  refine (owned_confirmHold 4 after 0).bind (n := 920) fun held => ?_
  obtain ⟨vin, hold⟩ := held
  refine Proc.Costs.ite (fun _ => ?_) fun _ => (Proc.Costs.pure ()).mono (Nat.zero_le _)
  refine (owned_safeForce5v bus).bind_free fun _ => (owned_modify _).bind_free fun _ => ?_
  refine (owned_dcpRaise bus _ maxPulseCnt vin).bind (n := 0) fun vin => ?_
  refine Proc.Costs.ite (fun _ => ?_) fun _ => (owned_ensureIclAtLeast bus (by decide)).discard
  exact (owned_safeForce5v bus).bind_free fun _ =>
    (owned_ensureIclAtLeast bus (by decide)).discard

/-! ### The negotiation -/

/-- A detection is waited for at most two seconds. -/
theorem owned_rerunApsd (bus : Bus) (pre : ApsdBefore) : Owned 2000 (rerunApsd bus pre) := by
  have hwritten : Owned 0 (writeReg bus Pmic.cmdApsd Pmic.bitApsdRerun) :=
    owned_writeReg fun _ _ _ => .apsdRerun
  refine (owned_setPhase _).bind_free fun _ => hwritten.attempt.bind_free fun written => ?_
  cases written with
  | error err =>
      refine Proc.Costs.mono (k := 0) ?_ (Nat.zero_le _)
      exact (owned_setPhase _).bind_free fun _ => Proc.Costs.fail err
  | ok _ =>
      refine (owned_setPhase _).bind_free fun _ => ?_
      -- ten polls of 200 ms are all the time the rerun may take
      have hwait := owned_waitApsdDone bus apsdPolls 0 10 (by decide) (by decide)
      refine hwait.attempt.bind (n := 0) fun done => ?_
      cases done with
      | error err => exact (owned_setPhase _).bind_free fun _ => Proc.Costs.fail err
      | ok _ => exact Proc.Costs.get_bind fun st => owned_when (owned_modify _)

/-- The pause after the options were set, and the detection. -/
theorem owned_detectAdapter (bus : Bus) : Owned 2050 (detectAdapter bus) := by
  have hanswer : ∀ qc : Byte, Owned 0 (do
      Proc.modify fun st =>
        { st with apsdResult := promoteQcCharger st.apsdResult st.apsdStatus }
      let st ← Proc.get
      Pure.pure (apsdElevatePath st.apsdResult (decide (qc &&& Pmic.bitQcContinuous ≠ 0))) :
        HvdcpM ApsdElevate) :=
    fun qc => (owned_modify _).bind_free fun _ => Proc.Costs.get_bind fun _ => Proc.Costs.pure _
  refine (owned_clearUsbinSuspend bus).bind_free fun _ => ?_
  refine (owned_orFailed (owned_clearApsdCcGate bus)).bind_free fun _ => ?_
  refine (owned_ensureIclFloor500ma bus).discard.bind_free fun _ => ?_
  refine (owned_ensureHvdcpVoltageGates bus).discard.bind_free fun _ => ?_
  refine ((owned_readReg bus _).unwrapOr 0).bind_free fun status => ?_
  refine ((owned_readReg bus _).unwrapOr 0).bind_free fun result => ?_
  refine ((owned_readReg bus _).unwrapOr 0).bind_free fun qc => ?_
  refine (owned_setPhase _).bind_free fun _ => ?_
  refine (owned_orFailed (owned_enableHvdcp bus)).bind_free fun _ => ?_
  refine (owned_sleepMs enableSettleMs).bind (n := 2000) fun _ => ?_
  -- A detection that was done already is not run again.
  refine Proc.Costs.ite (fun _ => ?_) fun _ => ?_
  · exact ((owned_modify _).bind_free fun _ => hanswer qc).mono (Nat.zero_le _)
  · exact (owned_rerunApsd bus _).bind (n := 0) fun _ => hanswer qc

/-- The longest of the paths an adapter can be raised on. -/
theorem owned_raiseAdapter (bus : Bus) (vbatUv : Nat) (path : ApsdElevate) :
    Owned 5270 (raiseAdapter bus vbatUv path) := by
  cases path with
  | qc3Pulse => exact (owned_elevateQc3 bus vbatUv).mono (by decide)
  | force9v =>
      refine Proc.Costs.get_bind fun st => Proc.Costs.ite (fun _ => ?_) fun _ => ?_
      · exact (owned_requestForce9v bus).mono (by decide)
      · exact owned_elevateDcp bus vbatUv
  | reject =>
      refine Proc.Costs.mono (k := 0) ?_ (Nat.zero_le _)
      exact (owned_setPhase _).bind_free fun _ => Proc.Costs.fail _

/-- A negotiation, with the worst of everything: a detection that ends at its deadline, a plain
DCP that rises to the gate and not above it, and all the pulses of the fallback. -/
theorem owned_runNegotiate (usbinId : Option Nat) (vbatUv : Nat) :
    Owned 7520 (runNegotiate usbinId vbatUv) := by
  rw [runNegotiate_eq]
  refine (owned_openBus usbinId).bind_free fun bus => ?_
  rw [negotiateOnBus_eq]
  refine (owned_modify _).bind_free fun _ => (owned_clearUsbinLatched bus).bind_free fun _ => ?_
  refine (owned_detectAdapter bus).bind (n := 5470) fun path => ?_
  refine (owned_raiseAdapter bus vbatUv path).bind (n := 200) fun _ => ?_
  exact (owned_sampleQcStatus bus).discard.bind (n := 0) fun _ => owned_setPhase _

/-! ### Bus corrections -/

/-- A correction downwards costs the gaps of its steps. -/
theorem owned_trimLoop (bus : Bus) (stop floor : Int) (budget : Nat) :
    ∀ vin dec, Owned (pulseGapMs * budget) (trimLoop bus stop floor budget vin dec) := by
  induction budget with
  | zero => exact fun _ _ => Proc.Costs.pure _
  | succ budget ih =>
      intro vin dec
      rw [Nat.mul_succ, Nat.add_comm]
      refine Proc.Costs.ite (fun _ => ?_) fun _ => (Proc.Costs.pure _).mono (Nat.zero_le _)
      refine (owned_pulseDecGap bus pulseGapMs).attempt.bind fun result => ?_
      cases result with
      | error err => exact (Proc.Costs.pure _).mono (Nat.zero_le _)
      | ok _ => exact ih _ _

/-- A correction upwards costs the gaps of its steps. -/
theorem owned_boostLoop (bus : Bus) (stop top : Int) (budget : Nat) :
    ∀ vin inc, Owned (pulseGapMs * budget) (boostLoop bus stop top budget vin inc) := by
  induction budget with
  | zero => exact fun _ _ => Proc.Costs.pure _
  | succ budget ih =>
      intro vin inc
      rw [Nat.mul_succ, Nat.add_comm]
      refine Proc.Costs.ite (fun _ => ?_) fun _ => (Proc.Costs.pure _).mono (Nat.zero_le _)
      refine (owned_pulseIncGap bus pulseGapMs).attempt.bind fun result => ?_
      cases result with
      | error err => exact (Proc.Costs.pure _).mono (Nat.zero_le _)
      | ok _ =>
          exact Proc.Costs.ite (fun _ => (Proc.Costs.pure _).mono (Nat.zero_le _)) fun _ => ih _ _

/-- Twenty steps down at most. -/
theorem owned_trimVinForPump (usbinId : Option Nat) (vinUv : Int) (vbatUv : Nat) :
    Owned 800 (trimVinForPump usbinId vinUv vbatUv) :=
  Proc.Costs.ite (fun _ => (Proc.Costs.pure 0).mono (Nat.zero_le _)) fun _ =>
    owned_onFirstBus usbinId (fun bus => owned_trimLoop bus _ _ maxTrimDec _ _) 0

/-- Twenty-three steps up at most. -/
theorem owned_boostVinForPump (usbinId : Option Nat) (vinUv : Int) (vbatUv : Nat) :
    Owned 920 (boostVinForPump usbinId vinUv vbatUv) :=
  Proc.Costs.ite (fun _ => (Proc.Costs.pure 0).mono (Nat.zero_le _)) fun _ =>
    owned_onFirstBus usbinId (fun bus => owned_boostLoop bus _ _ maxBoostInc _ _) 0

/-- One correction is one of the two, or a single step. -/
theorem owned_nudgeVinIntoWindow (usbinId : Option Nat) (vinUv : Int) (vbatUv : Nat)
    (deadCurrent : Bool) : Owned 920 (nudgeVinIntoWindow usbinId vinUv vbatUv deadCurrent) := by
  -- three of the branches send nothing
  have hidle : Owned 920 (Pure.pure 0 : HvdcpM Nat) := (Proc.Costs.pure 0).mono (Nat.zero_le _)
  -- one pulse down is one gap
  have hone : Owned 40 (oneDecPulse usbinId) := by
    refine owned_onFirstBus usbinId (fun bus => ?_) 0
    refine (owned_pulseDecGap bus pulseGapMs).attempt.bind (n := 0) fun result => ?_
    cases result with
    | ok _ => exact Proc.Costs.pure 1
    | error _ => exact Proc.Costs.pure 0
  refine Proc.Costs.get_bind fun st => Proc.Costs.ite (fun _ => hidle) fun _ => ?_
  refine Proc.Costs.ite (fun _ => hidle) fun _ => ?_
  refine Proc.Costs.ite (fun _ => ?_) fun _ => ?_
  · exact (owned_trimVinForPump usbinId vinUv vbatUv).mono (by decide)
  · refine Proc.Costs.ite (fun _ => owned_boostVinForPump usbinId vinUv vbatUv) fun _ => ?_
    exact Proc.Costs.ite (fun _ => hone.mono (by decide)) fun _ => hidle

/-- A higher input current costs no pause. -/
theorem owned_raiseIcl (usbinId : Option Nat) {target : Byte} (hmax : target ≤ iclRawPump3a) :
    Owned 0 (raiseIcl usbinId target) := by
  have husbin : ∀ id, Owned 0 (do
      let ok : Bool ← usbinOpen id
      if ok then Proc.unwrapOr (ensureIclAtLeast .usbin target) 0 else Pure.pure 0 :
        HvdcpM Byte) := by
    intro id
    refine Proc.Costs.bind_free (owned_spmi (o := .usbinOpen id) rfl) fun (ok : Bool) => ?_
    cases ok with
    | true => exact (owned_ensureIclAtLeast .usbin hmax).unwrapOr 0
    | false => exact Proc.Costs.pure 0
  refine Proc.Costs.bind_free (owned_spmi (o := .superuserOpen) rfl) fun (ok : Bool) => ?_
  cases ok with
  | true =>
      refine (owned_modify _).bind_free fun _ => ?_
      refine (owned_ensureIclAtLeast _ hmax).attempt.bind_free fun first => ?_
      cases first with
      | ok icl => exact Proc.Costs.pure icl
      | error _ =>
          cases usbinId with
          | none => exact Proc.Costs.pure 0
          | some id => exact husbin id
  | false =>
      -- Without a session only the secondary transport is left.
      refine Proc.Costs.bind_free (Proc.Costs.pure (Except.error HvdcpError.spmiIo))
        fun first => ?_
      cases first with
      | ok icl => exact Proc.Costs.pure icl
      | error _ =>
          cases usbinId with
          | none => exact Proc.Costs.pure 0
          | some id => exact husbin id

end

end Kmdf
