import NabuCharger.Kmdf.HvdcpRules
import NabuCharger.Kmdf.MarkedDriver
import NabuCharger.Proofs.PulseCount

/-!
# `Proofs.Replug`: a repeated negotiation against one after a re-plug

A re-plug takes the `FORCE_9V` latch of the last negotiation away before it negotiates
(`Cause.enter`). Every other cause leaves it. Two negotiations on the same answers, one with
the latch and one without, make the same exchanges until the adapter is found (`blind_waits`),
and after that as well when it is raised by `FORCE_9V` (`Forgets`). A QC3 adapter is raised by
pulses, and under the latch none goes out. There the two part at the first pulse.

`PulseWanted` reads from the samples of `Vin` in the QC3 branch whether it comes to a pulse.
The writes of the two negotiations are the same if and only if the latch was down, or no QC3
adapter was found, or none of its samples asked for a pulse (`renegotiation_eq_replug_iff`).
-/

set_option autoImplicit false

namespace Kmdf

open Effectful Ln8000

/-! ### The two negotiations -/

/-- The state without the latch. -/
def HvdcpState.unlatched (st : HvdcpState) : HvdcpState := { st with force9vLatched := false }

/-- The state a cause negotiates from: only a re-plug takes the latch away. -/
def Cause.enter : Cause → HvdcpState → HvdcpState
  | .replug, st => st.unlatched
  | _, st => st

/-- The cause of a tick's negotiation. -/
def Wants.cause (wants : Wants) : Option Cause :=
  if wants.replug then some .replug
  else if wants.retry then some .retry
  else if wants.reelevate then some .reelevate
  else none

section
variable [LoopFuel]

/-- What a cause counts before it negotiates. -/
def Cause.begin : Cause → DriverM Unit
  | .retry => do
      Proc.modify fun s => { s with hvdcpRetryAttempts := satAdd 32 s.hvdcpRetryAttempts 1 }
      let now ← monotonicMs
      Proc.modify fun s => { s with hvdcpRetryNextMs := satAdd 64 now hvdcpSuperuserRetryMs }
  | _ => pure ()

/-- When a cause arms the input edge. -/
def Cause.finish (code : Int) : Cause → DriverM Unit
  | .retry => Proc.when (decide (code = 0)) armHvdcpInputEdge
  | _ => armHvdcpInputEdge

/-- The three branches of the tick are one, and differ in what they enter with. -/
theorem runDue_eq (wants : Wants) :
    runDue wants = (do
      let s ← Proc.get
      if s.deviceBound = false then pure ()
      else
        match wants.cause with
        | none => pure ()
        | some cause => do
            Proc.modify fun s => { s with hvdcp := cause.enter s.hvdcp }
            cause.begin
            let code ← runHvdcpAndLand
            scheduleOrClearSuperuserRetry code
            cause.finish code) := by
  obtain ⟨replug, retry, reelevate⟩ := wants
  refine Proc.bind_congr fun s => ?_
  by_cases hbound : s.deviceBound = false
  · rw [if_pos hbound, if_pos hbound]
  rw [if_neg hbound, if_neg hbound]
  -- the causes in their order, the first that is set
  cases replug with
  | true => rfl
  | false =>
      cases retry with
      | true => rfl
      | false =>
          cases reelevate with
          | true => rfl
          | false => rfl

end

/-- The register write of an operation, if it is one. -/
def HvdcpOp.write? : HvdcpOp → Option (PmicAddr × Byte)
  | .spmi o => o.write?
  | .readVin => none

/-- The register writes of a trace, in order, whether or not they went through. -/
def pmicWrites (t : List (Event HvdcpEffect)) : List (PmicAddr × Byte) :=
  t.filterMap fun e => e.op.write?

/-- The samples of `Vin` so far. -/
def sampled (m : List Int) : (o : HvdcpOp) → HvdcpEffect.Resp o → List Int
  | .readVin => fun (vin : Int) => m ++ [vin]
  | .spmi _ => fun _ => m

/-- The samples of `Vin` in a trace. -/
def vinSamples (t : List (Event HvdcpEffect)) : List Int := Prog.ghost sampled [] t

/-- Samples the authentication waits for the detect window. -/
def detectPolls : Nat := qc35DetectTimeoutMs / qc35VinPollMs + 1

/-- The samples of the QC3 branch come to a pulse: the authentication wants one outside its
window, or after the bus has shown up in it, and without an authentication the raise wants one
below the target. -/
def PulseWanted (vbatUv : Nat) : List Int → Prop
  | [] => False
  | vin :: rest =>
      if decideQc35AuthAttempt vin = .attempt then
        qc35DetectWindow vin = false ∨
          (∃ v ∈ rest.take detectPolls, qc35DetectWindow v = true) ∨
          ∃ v ∈ rest[detectPolls]?, v < asI32 (targetVbusUv vbatUv)
      else ∃ v ∈ rest.head?, v < asI32 (targetVbusUv vbatUv)

section
variable {H : Type} (env : H → (o : HvdcpEffect.Op) → HvdcpEffect.Resp o × H) (h : H)

/-- The register writes of a negotiation that `cause` starts. -/
def negotiationWrites (cause : Cause) (usbinId : Option Nat) (vbatUv : Nat) (st : HvdcpState) :
    List (PmicAddr × Byte) :=
  pmicWrites (Prog.runWith env h (runNegotiate usbinId vbatUv (cause.enter st))).1

/-- On these answers a QC3 adapter is found, and its samples come to a pulse. -/
def Qc3PulseWanted (usbinId : Option Nat) (vbatUv : Nat) (st : HvdcpState) : Prop :=
  ∃ bus st', (Prog.runWith env h (findAdapter usbinId st)).2.2
      = some (.ok (bus, .qc3Pulse), st') ∧
    PulseWanted vbatUv (vinSamples (Prog.runWith env
      (Prog.runWith env h (findAdapter usbinId st)).2.1
      (elevateQc3 bus vbatUv st')).1)

end

/-- More samples do not take a wanted pulse back. -/
theorem PulseWanted.append {vbatUv : Nat} {vs : List Int} (h : PulseWanted vbatUv vs)
    (us : List Int) : PulseWanted vbatUv (vs ++ us) := by
  cases vs with
  | nil => exact h.elim
  | cons vin rest =>
      have hget : ∀ (n : Nat) (P : Int → Prop), (∃ v ∈ rest[n]?, P v) →
          ∃ v ∈ (rest ++ us)[n]?, P v := by
        rintro n P ⟨v, hv, hP⟩
        have hlt : n < rest.length := (List.getElem?_eq_some_iff.1 hv).1
        refine ⟨v, ?_, hP⟩
        rw [List.getElem?_append_left hlt]
        exact hv
      rw [List.cons_append]
      rw [PulseWanted] at h ⊢
      -- later samples do not change the ones that asked for the pulse
      by_cases hattempt : decideQc35AuthAttempt vin = .attempt
      · rw [if_pos hattempt] at h ⊢
        rcases h with hout | ⟨v, hv, hwindow⟩ | hbelow
        · exact .inl hout
        · refine .inr (.inl ⟨v, ?_, hwindow⟩)
          rw [List.take_append]
          exact List.mem_append_left _ hv
        · exact .inr (.inr (hget _ _ hbelow))
      · rw [if_neg hattempt] at h ⊢
        rw [List.head?_eq_getElem?] at h ⊢
        exact hget _ _ h

/-! ### Up to the adapter -/

/-- What neither writes the step register nor looks at the latch and the counter is blind to
any change of the two. -/
theorem blind_waits (latch : Bool → Nat → Bool) (cnt : Bool → Nat → Nat) :
    HvdcpWaits fun _ _ x => Proc.Blind (fun st : HvdcpState => st.withPulses
      (latch st.force9vLatched st.pulseCnt) (cnt st.force9vLatched st.pulseCnt)) x where
  pure a := Proc.Blind.pure a
  fail e := Proc.Blind.fail e
  bind hx hf := hx.bind hf
  attempt hx := hx.attempt
  discard hx := hx.discard
  unwrapOr d hx := hx.unwrapOr d
  get_bind hsame hf := Proc.Blind.get_bind (fun st => hsame st _ _) hf
  modify {_ f} hf := Proc.Blind.modify fun st => by
    have hkept : f st = (f st).withPulses st.force9vLatched st.pulseCnt :=
      hf st st.force9vLatched st.pulseCnt
    rw [hf, hkept]
    rfl
  quiet _ := Proc.Blind.perform _
  diverge := Proc.Blind.diverge
  readVin := Proc.Blind.perform _

/-- The latch is not looked at. -/
theorem unlatched_waits :
    HvdcpWaits fun _ _ x => Proc.Blind HvdcpState.unlatched x :=
  blind_waits (fun _ _ => false) fun _ cnt => cnt

/-- Looking for the adapter reads neither the latch nor the counter. -/
theorem findAdapter_blind (usbinId : Option Nat) :
    Proc.Blind HvdcpState.unlatched (findAdapter usbinId) := by
  have h := unlatched_waits
  refine (h.openBus usbinId).bind fun bus => ?_
  refine Proc.Blind.bind (Proc.Blind.modify (by exact fun _ => rfl)) fun _ => ?_
  refine (h.discard (h.writeReg_of bus fun _ _ => Proc.Blind.perform _)).bind fun _ => ?_
  exact (h.detectAdapter bus).bind fun path => Proc.Blind.pure _

/-- A program without waits leaves the latch and the counter as they were. -/
theorem keeps_pulses (latch : Bool) :
    HvdcpRules (Machine.free HvdcpEffect) fun st _ => st.force9vLatched = latch :=
  HvdcpRules.of (fun _ _ _ hlatch _ h => hlatch.trans h)
    (fun _ _ _ _ h => ⟨trivial, fun _ _ => h⟩) fun _ _ h => ⟨trivial, fun _ _ => h⟩

/-- An invariant of latch and counter at rest survives everything that pulses nothing. -/
theorem keeps_zero (latch : Bool) : HvdcpRules (Machine.free HvdcpEffect)
    fun st _ => st.force9vLatched = latch ∧ st.pulseCnt = 0 :=
  HvdcpRules.of (fun _ _ _ hlatch hcnt h => ⟨hlatch.trans h.1, hcnt.trans h.2⟩)
    (fun _ _ _ _ h => ⟨trivial, fun _ _ => h⟩) fun _ _ h => ⟨trivial, fun _ _ => h⟩

/-- The adapter is found under the latch that was there, and with no pulse counted. -/
theorem findAdapter_leaves {usbinId : Option Nat} {st st' : HvdcpState}
    {t : List (Event HvdcpEffect)} {found : Bus × ApsdElevate}
    (h : Prog.Yields (findAdapter usbinId st) t (.ok found, st')) :
    st'.force9vLatched = st.force9vLatched ∧ st'.pulseCnt = 0 := by
  have hlatch := keeps_pulses st.force9vLatched
  have hzero := keeps_zero st.force9vLatched
  -- the counter is cleared before the detection, which pulses nothing
  have hwp : ∀ m, (findAdapter usbinId).wp (Machine.free HvdcpEffect)
      (fun r st' _ => ∀ found, r = .ok found →
        st'.force9vLatched = st.force9vLatched ∧ st'.pulseCnt = 0) st m := by
    intro m
    refine Proc.Keeps.wp_bind (hlatch.openBus usbinId) rfl (fun bus st₁ m hst₁ => ?_)
      fun e _ _ _ _ h => nomatch h
    refine (Proc.wp_modify_bind st₁ m _ _ _).2 ?_
    have hrest : Proc.Keeps (Machine.free HvdcpEffect)
        (fun st' _ => st'.force9vLatched = st.force9vLatched ∧ st'.pulseCnt = 0) (do
          clearUsbinLatched bus
          let path ← detectAdapter bus
          pure (bus, path) : HvdcpM (Bus × ApsdElevate)) := by
      refine (hzero.discard (hzero.writeReg_of bus fun o _ => ?_)).bind fun _ => ?_
      · exact HvdcpKeeps.perform fun _ _ h => ⟨trivial, fun _ _ => h⟩
      · exact (hzero.detectAdapter bus).bind fun path => Proc.Keeps.pure _
    exact Proc.wp_mono (hrest.run _ m ⟨hst₁, rfl⟩) fun _ _ _ h _ _ => h
  exact Proc.post_free (Q := fun r st' => ∀ found, r = .ok found →
    st'.force9vLatched = st.force9vLatched ∧ st'.pulseCnt = 0) hwp h found rfl

/-! ### A `FORCE_9V` adapter -/

/-- The program does not depend on the latch. -/
def Forgets {α : Type} (x : HvdcpM α) : Prop := ∀ st : HvdcpState, x st.unlatched = x st

/-- A program that forgets the counter still does with a continuation behind it. -/
theorem Forgets.bind {α β : Type} {x : HvdcpM α} (hx : Forgets x) (f : α → HvdcpM β) :
    Forgets (x >>= f) := by
  intro st
  rw [Proc.bind_apply, Proc.bind_apply, hx st]

/-- What follows an attempt that is blind to the latch decides. -/
theorem forgets_attempt_bind {α β : Type} {x : HvdcpM α}
    (hx : Proc.Blind HvdcpState.unlatched x) {f : Except HvdcpError α → HvdcpM β}
    (hf : ∀ r, Forgets (f r)) : Forgets (Proc.attempt x >>= f) := by
  intro st
  show ((x st.unlatched).map _).bind _ = ((x st).map _).bind _
  rw [hx st, Prog.map_map, Prog.map_bind, Prog.map_bind]
  refine congrArg _ (funext fun out => ?_)
  exact hf out.1 out.2

/-- Attempting a sequence is attempting its first part and going on only when it succeeds. -/
theorem attempt_bind_bind {α β γ : Type} {ε' : Type} (x : HvdcpM α) (f : α → HvdcpM β)
    (g : Except HvdcpError β → Proc HvdcpEffect ε' HvdcpState γ) :
    Proc.attempt (x >>= f) >>= g = Proc.attempt x >>= fun r =>
      match r with
      | .ok a => Proc.attempt (f a) >>= g
      | .error e => g (.error e) := by
  funext st
  show (((x st).bind _).map _).bind _ = ((x st).map _).bind _
  rw [Prog.bind_map, Prog.bind_assoc, Prog.map_bind]
  refine congrArg _ (funext fun out => ?_)
  obtain ⟨result, st'⟩ := out
  cases result with
  | ok a => rfl
  | error e => rfl

/-- The latch overwrites what is forgotten. -/
theorem latched_forgets (bus : Bus) : Forgets (Proc.attempt (do
    Proc.modify fun st => { st with force9vLatched := true, pulseCnt := 20 }
    sleepMs 100 : HvdcpM Unit) >>= fun r => match r with
      | .error err => do
          setPhase .failed
          safeForce5v bus
          Proc.fail err
      | .ok _ => Proc.discard (ensureIclAtLeast bus iclRawHvdcp21p5a) : HvdcpM Unit) := by
  intro st
  rfl

/-- The request of 9 V sets the latch, or takes it away. -/
theorem requestForce9v_forgets (bus : Bus) : Forgets (requestForce9v bus) := by
  have h := unlatched_waits
  -- what the outcome of the request leads to
  have herror : ∀ err, Forgets (do
      setPhase .failed
      safeForce5v bus
      Proc.fail err : HvdcpM Unit) := by
    intro err st
    have hforce : Forgets (do
        safeForce5v bus
        Proc.fail err : HvdcpM Unit) := by
      have hwrite : Proc.Blind HvdcpState.unlatched
          (writeReg bus Pmic.cmdHvdcp2 Pmic.bitForce5v) :=
        h.writeReg_of bus fun _ _ => Proc.Blind.perform _
      intro st
      show (((writeReg bus _ _ st.unlatched).map _).bind _).bind _
        = (((writeReg bus _ _ st).map _).bind _).bind _
      rw [hwrite st, Prog.map_map, Prog.map_bind, Prog.map_bind]
      rfl
    exact hforce { st with phase := .failed }
  have hrequest : Forgets (do
      match ← Proc.attempt (force9v bus) with
      | .error err =>
          setPhase .failed
          safeForce5v bus
          Proc.fail err
      | .ok _ => Proc.discard (ensureIclAtLeast bus iclRawHvdcp21p5a) : HvdcpM Unit) := by
    rw [force9v, attempt_bind_bind]
    refine forgets_attempt_bind (h.unwrapOr 0 (h.readReg bus _)) fun existing => ?_
    cases existing with
    | error err => exact herror err
    | ok existing =>
        show Forgets (Proc.attempt (writeReg bus Pmic.cmdHvdcp2 (existing ||| Pmic.bitForce9v)
          >>= fun _ => _) >>= _)
        rw [attempt_bind_bind]
        refine forgets_attempt_bind (h.writeReg_of bus fun _ _ => Proc.Blind.perform _)
          fun written => ?_
        cases written with
        | error err => exact herror err
        | ok _ => exact latched_forgets bus
  exact fun st => hrequest { st with phase := .qc2Force9v }

/-- A pulse that is not held back goes out. -/
def StepWrite (o : HvdcpOp) : Prop := ∃ value, o.write? = some (Pmic.cmdHvdcp2, value)

/-- An unlatched INC pulse writes its step. -/
theorem pulseIncGap_comes (bus : Bus) (gapMs : Nat) {st : HvdcpState}
    (hst : st.force9vLatched = false) : (pulseIncGap bus gapMs st).Comes StepWrite := by
  -- without the latch the command register is written, whatever the read gave
  have hcmd : (pulseCmdBit bus Pmic.bitSingleInc st).Comes StepWrite := by
    unfold pulseCmdBit
    rw [Proc.bind_apply]
    show Prog.Comes StepWrite ((if st.force9vLatched then _ else _ : HvdcpM Bool) st)
    rw [if_neg (by simp [hst])]
    cases bus with
    | superuser =>
        refine Prog.Comes.later fun (answer : Option Byte) => ?_
        cases answer <;> exact Prog.Comes.now ⟨_, rfl⟩
    | usbin =>
        refine Prog.Comes.later fun (answer : Option Byte) => ?_
        cases answer <;> exact Prog.Comes.now ⟨_, rfl⟩
  exact hcmd.bind _

/-! ### A QC3 adapter -/

/-- A program of the QC3 branch from a state and from the same state without the latch. The
ghost has the samples so far. -/
abbrev Qc3Forks (vbatUv : Nat) {ε α : Type} (x : Proc HvdcpEffect ε HvdcpState α)
    (Q : Except ε α → HvdcpState → List Int → Prop) (st : HvdcpState) (m : List Int) : Prop :=
  Proc.Forks sampled StepWrite (PulseWanted vbatUv) HvdcpState.unlatched x Q st m

/-- What reads no sample parts nowhere. -/
theorem quiet_forks (vbatUv : Nat) : HvdcpClosed fun _ _ x => ∀ st m,
    Qc3Forks vbatUv x (fun _ st' m' => st'.force9vLatched = st.force9vLatched ∧
      st'.pulseCnt = st.pulseCnt ∧ m' = m) st m where
  pure a st m := Proc.Forks.pure ⟨rfl, rfl, rfl⟩
  fail e st m := Proc.Forks.fail ⟨rfl, rfl, rfl⟩
  bind hx hf st m := by
    refine Proc.Forks.bind (hx st m) (fun a st' m' h => ?_) fun _ _ _ h => h
    -- the two runs stay together, and apart from the latch they stay equal
    obtain ⟨hlatch, hcnt, rfl⟩ := h
    refine Proc.Forks.mono (hf a st' m') fun _ _ _ h => ?_
    exact ⟨h.1.trans hlatch, h.2.1.trans hcnt, h.2.2⟩
  attempt hx st m := Proc.Forks.attempt (hx st m)
  discard hx st m := Proc.Forks.discard (hx st m)
  unwrapOr d hx st m := by
    refine Prog.Forks.map (hx st m) fun m out out' h => ?_
    obtain ⟨rfl, hQ⟩ := h
    exact ⟨rfl, hQ⟩
  get_bind hsame hf st m := Proc.Forks.get_bind (hsame st false st.pulseCnt) (hf st st m)
  modify {_ f} hf st m := by
    have hkept : f st = (f st).withPulses st.force9vLatched st.pulseCnt :=
      hf st st.force9vLatched st.pulseCnt
    refine Proc.Forks.modify ?_ ⟨?_, ?_, rfl⟩
    · show f (st.withPulses false st.pulseCnt) = (f st).unlatched
      rw [hf, hkept]
      rfl
    · rw [hkept]
      rfl
    · rw [hkept]
      rfl
  quiet _ st m := Proc.Forks.perform fun _ => ⟨rfl, rfl, rfl⟩

section
variable {vbatUv : Nat} {st : HvdcpState} {m : List Int} {ε : Type}

/-- A sample is remembered, and the program goes on with it. -/
theorem readVin_bind_forks {α : Type} {f : Int → Proc HvdcpEffect ε HvdcpState α}
    {Q : Except ε α → HvdcpState → List Int → Prop}
    (h : ∀ vin, Qc3Forks vbatUv (f vin) Q st (m ++ [vin])) :
    Qc3Forks vbatUv (readVin >>= f) Q st m :=
  Prog.Forks.op fun (vin : Int) => h vin

/-- A sleep decides nothing. -/
theorem sleepMs_bind_forks {α : Type} {ms : Nat} {f : Unit → Proc HvdcpEffect ε HvdcpState α}
    {Q : Except ε α → HvdcpState → List Int → Prop} (h : Qc3Forks vbatUv (f ()) Q st m) :
    Qc3Forks vbatUv (sleepMs ms >>= f) Q st m :=
  Prog.Forks.op fun (_ : Unit) => h

/-- The phase decides nothing. -/
theorem setPhase_bind_forks {α : Type} {phase : HvdcpPhase}
    {f : Unit → Proc HvdcpEffect ε HvdcpState α} {Q : Except ε α → HvdcpState → List Int → Prop}
    (h : Qc3Forks vbatUv (f ()) Q { st with phase := phase } m) :
    Qc3Forks vbatUv (setPhase phase >>= f) Q st m := h

/-- A discarded program is followed by the rest, whatever it returned. -/
theorem discard_bind_forks {ε' α β : Type} {x : Proc HvdcpEffect ε' HvdcpState α}
    {f : Unit → Proc HvdcpEffect ε HvdcpState β}
    {P : Except ε' α → HvdcpState → List Int → Prop}
    {Q : Except ε β → HvdcpState → List Int → Prop} (hx : Qc3Forks vbatUv x P st m)
    (hf : ∀ r st' m', P r st' m' → Qc3Forks vbatUv (f ()) Q st' m') :
    Qc3Forks vbatUv (Proc.discard x >>= f) Q st m := by
  refine Proc.Forks.bind (P := fun r st' m' => r = .ok () ∧ ∃ r', P r' st' m') ?_ ?_ ?_
  · exact Proc.Forks.discard (Proc.Forks.mono hx fun r _ _ h => ⟨rfl, r, h⟩)
  · intro _ st' m' h
    obtain ⟨_, r, hP⟩ := h
    exact hf r st' m' hP
  · exact fun _ _ _ h => nomatch h.1

/-! #### The wait for the detect window -/

/-- Polls that are left of the wait for the detect window. -/
def pollsLeft (waited : Nat) : Nat :=
  (qc35DetectTimeoutMs - waited + (qc35VinPollMs - 1)) / qc35VinPollMs + 1

/-- One poll less is left after each wait. -/
theorem pollsLeft_step {waited : Nat} (h : waited < qc35DetectTimeoutMs) :
    pollsLeft (satAdd 32 waited qc35VinPollMs) + 1 = pollsLeft waited := by
  have hword : wordMax 32 = 4294967295 := by decide
  simp only [pollsLeft, satAdd, hword, qc35DetectTimeoutMs, qc35VinPollMs] at h ⊢
  omega

/-- What the wait for the detect window has seen in the samples `vs`. -/
def SeenWindow (polls : Nat) (vs : List Int) : Except ε (Option Int) → Prop
  | .ok (some _) => ∃ v ∈ vs.take polls, qc35DetectWindow v = true
  | .ok none => vs.length = polls ∧ ∀ v ∈ vs, qc35DetectWindow v = false
  | .error _ => False

/-- One sample more, outside the window. -/
theorem SeenWindow.cons {polls : Nat} {vs : List Int} {r : Except ε (Option Int)} {vin : Int}
    (h : SeenWindow polls vs r) (hout : qc35DetectWindow vin = false) :
    SeenWindow (polls + 1) (vin :: vs) r := by
  match r, h with
  | .ok (some _), ⟨v, hv, hwindow⟩ => exact ⟨v, List.mem_cons_of_mem _ hv, hwindow⟩
  | .ok none, ⟨hlength, hall⟩ =>
      refine ⟨congrArg (· + 1) hlength, fun v hv => ?_⟩
      rcases List.mem_cons.1 hv with rfl | hrest
      · exact hout
      · exact hall v hrest

/-- The wait takes a sample for each poll until one is in the window. -/
theorem waitVinWindow_forks (fuel : Nat) : ∀ waited (m : List Int), pollsLeft waited ≤ fuel →
    Qc3Forks vbatUv (waitVinWindow (ε := ε) qc35DetectTimeoutMs qc35DetectWindow fuel waited)
      (fun r st' m' => st' = st ∧ ∃ vs, m' = m ++ vs ∧ SeenWindow (pollsLeft waited) vs r)
      st m := by
  -- induction on the polls left: the two runs see the same samples
  induction fuel with
  | zero => exact fun waited m hfuel => absurd hfuel (Nat.not_succ_le_zero _)
  | succ fuel ih =>
      intro waited m hfuel
      refine readVin_bind_forks fun vin => Proc.Forks.ite (fun hwindow => ?_) fun hout => ?_
      · refine Proc.Forks.pure ⟨rfl, [vin], rfl, vin, ?_, hwindow⟩
        exact List.mem_cons_self ..
      have hout : qc35DetectWindow vin = false := Bool.eq_false_of_not_eq_true hout
      refine Proc.Forks.ite (fun hlate => ?_) fun hearly => ?_
      · refine Proc.Forks.pure ⟨rfl, [vin], rfl, ?_, fun v hv => ?_⟩
        · rw [pollsLeft, Nat.sub_eq_zero_of_le hlate]
          rfl
        · rw [List.mem_singleton.1 hv]
          exact hout
      · have hstep := pollsLeft_step (Nat.lt_of_not_le hearly)
        refine sleepMs_bind_forks ?_
        refine Proc.Forks.mono (ih (satAdd 32 waited qc35VinPollMs) (m ++ [vin]) (by omega))
          fun r st' m' h => ?_
        obtain ⟨rfl, vs, rfl, hseen⟩ := h
        refine ⟨rfl, vin :: vs, ?_, ?_⟩
        · rw [List.append_assoc]
          rfl
        · rw [← hstep]
          exact hseen.cons hout

/-! #### The authentication -/

/-- The authentication has sent no pulse: the bus was not at 5 V, or it was in the detect
window first and never again. -/
def AuthMissed : List Int → Prop
  | [] => False
  | vin :: rest =>
      if decideQc35AuthAttempt vin = .attempt then
        qc35DetectWindow vin = true ∧ SeenWindow (ε := Unit) detectPolls rest (.ok none)
      else rest = []

/-- After it, the next sample decides. -/
theorem AuthMissed.pulseWanted_iff {vs : List Int} (h : AuthMissed vs) (vin : Int) :
    PulseWanted vbatUv (vs ++ [vin]) ↔ vin < asI32 (targetVbusUv vbatUv) := by
  cases vs with
  | nil => exact h.elim
  | cons first rest =>
      rw [AuthMissed] at h
      rw [List.cons_append, PulseWanted]
      -- the attempt missed, so of the samples only the last can ask for a pulse
      by_cases hattempt : decideQc35AuthAttempt first = .attempt
      · rw [if_pos hattempt] at h ⊢
        obtain ⟨hwindow, hlength, hall⟩ := h
        have htake : (rest ++ [vin]).take detectPolls = rest := by
          rw [List.take_append_of_le_length (Nat.le_of_eq hlength.symm), ← hlength,
            List.take_length]
        have hget : (rest ++ [vin])[detectPolls]? = some vin := by
          rw [← hlength, List.getElem?_append_right (Nat.le_refl _), Nat.sub_self]
          rfl
        rw [htake, hget, hwindow]
        constructor
        · rintro (hnot | ⟨v, hv, hseen⟩ | ⟨v, hv, hbelow⟩)
          · cases hnot
          · rw [hall v hv] at hseen
            cases hseen
          · rwa [Option.some.inj hv]
        · exact fun hbelow => .inr (.inr ⟨vin, rfl, hbelow⟩)
      · rw [if_neg hattempt] at h ⊢
        subst h
        constructor
        · rintro ⟨v, hv, hbelow⟩
          rwa [Option.some.inj hv]
        · exact fun hbelow => ⟨vin, rfl, hbelow⟩

/-- An attempted pulse writes its step first. -/
theorem attempt_pulse_comes {ε' α : Type} (bus : Bus) (gapMs : Nat)
    (f : Except HvdcpError Unit → Proc HvdcpEffect ε' HvdcpState α)
    (hst : st.force9vLatched = false) :
    ((Proc.attempt (pulseIncGap bus gapMs) >>= f) st).Comes StepWrite :=
  ((pulseIncGap_comes bus gapMs hst).map _).bind _

/-- The first step of the authentication train is an INC pulse. -/
theorem pulseAuthStep_comes (bus : Bus) (hst : st.force9vLatched = false) :
    (pulseAuthStep bus .inc st).Comes StepWrite :=
  attempt_pulse_comes bus _ _ hst

/-- The attempt either writes a step or misses, leaving latch and counter as they were. -/
theorem attemptQc35Authenticate_forks (bus : Bus) (st : HvdcpState) :
    Qc3Forks vbatUv (attemptQc35Authenticate bus) (fun _ st' m' =>
      st'.force9vLatched = st.force9vLatched ∧ st'.pulseCnt = st.pulseCnt ∧ AuthMissed m')
      st [] := by
  have hquiet := quiet_forks vbatUv
  refine discard_bind_forks (hquiet.ensureIclFloor500ma bus st []) fun _ st₁ m₁ h => ?_
  obtain ⟨hlatch, hcnt, rfl⟩ := h
  -- the fork of the preparation goes on into the train
  refine Proc.Forks.bind (P := fun r st' m' => st' = st₁ ∧
    ((∃ seen, r = .ok seen ∧ PulseWanted vbatUv m') ∨ r = .error () ∧ AuthMissed m')) ?_ ?_ ?_
  · refine readVin_bind_forks fun vin => Proc.Forks.ite (fun hskip => ?_) fun hattempt => ?_
    · refine Proc.Forks.fail ⟨rfl, .inr ⟨rfl, ?_⟩⟩
      show AuthMissed [vin]
      rw [AuthMissed, if_neg hskip]
    · have hattempt : decideQc35AuthAttempt vin = .attempt := Decidable.of_not_not hattempt
      by_cases hwindow : qc35DetectWindow vin = true
      · have hprep : prepPulses bus qc35PrepMaxInc vin = pure () := by
          rw [qc35PrepMaxInc, prepPulses, if_pos hwindow]
        rw [hprep, Proc.pure_bind]
        refine Proc.Forks.bind
          (waitVinWindow_forks (vinPolls qc35DetectTimeoutMs) 0 _ (by decide)) ?_ ?_
        · intro seen st' m' h
          obtain ⟨rfl, vs, rfl, hseen⟩ := h
          cases seen with
          | some v =>
              refine Proc.Forks.pure ⟨rfl, .inl ⟨v, rfl, ?_⟩⟩
              show PulseWanted vbatUv (vin :: vs)
              rw [PulseWanted, if_pos hattempt]
              exact .inr (.inl hseen)
          | none =>
              refine Proc.Forks.fail ⟨rfl, .inr ⟨rfl, ?_⟩⟩
              show AuthMissed (vin :: vs)
              rw [AuthMissed, if_pos hattempt]
              exact ⟨hwindow, hseen⟩
        · intro _ _ _ h
          obtain ⟨_, _, _, hseen⟩ := h
          exact hseen.elim
      · have hout : qc35DetectWindow vin = false := Bool.eq_false_of_not_eq_true hwindow
        refine Proc.Forks.apart ?_ ?_
        · show PulseWanted vbatUv [vin]
          rw [PulseWanted, if_pos hattempt]
          exact .inl hout
        · have hprep : prepPulses bus qc35PrepMaxInc vin = (do
              pulseAuthStep bus .inc
              let vin ← readVin
              if decideQc35AuthAttempt vin ≠ .attempt then Proc.fail ()
              else prepPulses bus 7 vin) := by
            rw [qc35PrepMaxInc, prepPulses, if_neg hwindow]
          rw [hprep]
          exact ((pulseAuthStep_comes bus rfl).bind _).bind _
  · intro seen st' m' h
    obtain ⟨rfl, ⟨_, _, hwanted⟩ | ⟨hnot, _⟩⟩ := h
    · refine Proc.Forks.apart hwanted ?_
      exact ((pulseAuthStep_comes bus rfl).bind _).bind _
    · cases hnot
  · intro e st' m' h
    obtain ⟨rfl, ⟨_, hnot, _⟩ | ⟨_, hmissed⟩⟩ := h
    · cases hnot
    · exact ⟨hlatch, hcnt, hmissed⟩

/-! #### The raise -/

/-- The target of the bus is at least the absolute minimum of the pump. -/
theorem targetVbusUv_ge (vbatUv : Nat) : pumpVinTargetAbsMinUv ≤ targetVbusUv vbatUv := by
  -- the ceiling is above the minimum, so the clamp to it keeps the bound
  have hclamp : ∀ target : Nat, pumpVinTargetAbsMinUv ≤
      if target > pumpVinTargetCeilUv then pumpVinTargetCeilUv
      else max target pumpVinTargetAbsMinUv := by
    intro target
    by_cases hhigh : target > pumpVinTargetCeilUv
    · rw [if_pos hhigh]
      decide
    · rw [if_neg hhigh]
      exact Nat.le_max_right ..
  rw [targetVbusUv]
  by_cases hzero : vbatUv = 0
  · rw [if_pos hzero]
    decide
  · rw [if_neg hzero]
    by_cases hlow : windowTargetUv vbatUv < pumpVinTargetAbsMinUv
    · simp only [if_pos hlow]
      decide
    · simp only [if_neg hlow]
      have hkept := hclamp (windowTargetUv vbatUv)
      rwa [Nat.max_eq_left (Nat.le_of_not_lt hlow)] at hkept

/-- The target is above 5 V, so it takes at least one pulse. -/
theorem pulsesTowardTarget_pos (vbatUv : Nat) : 0 < pulsesTowardTarget vbatUv := by
  have htarget := targetVbusUv_ge vbatUv
  simp only [pumpVinTargetAbsMinUv] at htarget
  rw [pulsesTowardTarget, if_neg]
  · simp only [micro5vUv, qc3StepUv, maxPulseCnt]
    omega
  · rw [micro5vUv]
    omega

/-- The QC3 branch parts from the one under the latch at its first pulse, if it comes to
one. -/
theorem elevateQc3_forks (bus : Bus) (hzero : st.pulseCnt = 0) :
    Qc3Forks vbatUv (elevateQc3 bus vbatUv) (fun _ _ m' => ¬PulseWanted vbatUv m') st [] := by
  refine setPhase_bind_forks (discard_bind_forks (attemptQc35Authenticate_forks bus _) ?_)
  intro _ st₁ m₁ h
  obtain ⟨_, hcnt, hmissed⟩ := h
  refine setPhase_bind_forks (readVin_bind_forks fun vin => ?_)
  obtain ⟨want, hwant⟩ := Nat.exists_eq_succ_of_ne_zero (pulsesTowardTarget_pos vbatUv).ne'
  rw [hwant, qc3Raise]
  refine Proc.Forks.get_bind rfl ?_
  -- the counter was cleared, so the loop has room for a pulse
  have hroom : ¬maxPulseCnt ≤ st₁.pulseCnt := by
    rw [hcnt]
    show ¬23 ≤ st.pulseCnt
    omega
  refine Proc.Forks.ite (fun hstay => ?_) fun hraise => ?_
  · have habove := hstay.resolve_left hroom
    refine Proc.Forks.pure ?_
    rw [hmissed.pulseWanted_iff]
    exact Int.not_lt.2 habove
  · rw [not_or, Int.not_le] at hraise
    refine Proc.Forks.apart ((hmissed.pulseWanted_iff vin).2 hraise.2) ?_
    -- here the two part: one pulse goes out, under the latch none does
    exact attempt_pulse_comes bus _ _ rfl

end

/-! #### Under the latch -/

/-- Nothing goes out to the step register. -/
abbrev noStep : Machine HvdcpEffect := Machine.only HvdcpEffect fun o => ¬StepWrite o

/-- The latch stays up through everything that is not a pulse. -/
theorem latched_rules : HvdcpRules noStep fun st _ => st.force9vLatched = true :=
  HvdcpRules.of (fun _ _ _ hlatch _ h => hlatch.trans h)
    (fun o ho _ _ h => ⟨fun hstep => by
      obtain ⟨value, hwrite⟩ := hstep
      have hwrite : o.write? = some (Pmic.cmdHvdcp2, value) := hwrite
      simp [SpmiOp.quiet, hwrite] at ho, fun _ _ => h⟩)
    fun _ _ h => ⟨fun hstep => (nomatch hstep.choose_spec), fun _ _ => h⟩

/-- A pulse under the latch is not sent, and succeeds. -/
theorem pulseCmdBit_latched {α : Type} {bus : Bus} {stepBit : Byte} {f : Bool → HvdcpM α}
    {Q : Except HvdcpError α → HvdcpState → noStep.State → Prop} {st : HvdcpState}
    {m : noStep.State} (hst : st.force9vLatched = true) (h : (f false).wp noStep Q st m) :
    (pulseCmdBit bus stepBit >>= f).wp noStep Q st m := by
  refine (Proc.wp_bind _ _ _ _ _).2 ?_
  rw [pulseCmdBit]
  refine (Proc.wp_get_bind _ _ _ _).2 (Proc.wp_ite (fun _ => ?_) fun hnot => absurd hst hnot)
  exact (Proc.wp_pure _ _ _ _).2 h

/-- Under the latch a pulse writes nothing. -/
theorem latched_pulses : PulseRules noStep fun st _ => st.force9vLatched = true where
  toHvdcpWaits := latched_rules
  inc _ gapMs :=
    ⟨fun st m hs => pulseCmdBit_latched hs ((latched_rules.sleepMs gapMs).run st m hs)⟩
  dec _ gapMs :=
    ⟨fun st m hs => pulseCmdBit_latched hs ((latched_rules.sleepMs gapMs).run st m hs)⟩

/-- A pulse under the latch cannot fail, so the branch does not return to 5 V. -/
theorem qc3Raise_latched (bus : Bus) (target ceiling : Int) (want : Nat) :
    ∀ vin, Proc.Keeps noStep (fun st _ => st.force9vLatched = true)
      (qc3Raise bus target ceiling want vin) := by
  induction want with
  | zero => exact fun _ => Proc.Keeps.pure ()
  | succ want ih =>
      intro vin
      refine Proc.Keeps.get.bind fun st => Proc.Keeps.ite (fun _ => Proc.Keeps.pure ()) fun _ => ?_
      refine ⟨fun st m hs => (Proc.wp_attempt_bind _ _ _ _ _).2 (pulseCmdBit_latched hs ?_)⟩
      -- under the latch the pulse is skipped
      have hpulse : Proc.Keeps noStep (fun st _ => st.force9vLatched = true) (do
          let vin ← readVin
          if vin > ceiling then pure () else qc3Raise bus target ceiling want vin : HvdcpM Unit) :=
        latched_rules.readVin.bind fun vin =>
          Proc.Keeps.ite (fun _ => Proc.Keeps.pure ()) fun _ => ih vin
      have hsleep : ¬StepWrite (.spmi (.sleep pulseGapMs)) := fun hstep => nomatch hstep.choose_spec
      exact (Proc.wp_perform (M := noStep) st m (.spmi (.sleep pulseGapMs)) _).2
        ⟨hsleep, fun _ _ => hpulse.run st _ hs⟩

/-- No step goes out in the QC3 branch under the latch. -/
theorem elevateQc3_latched {bus : Bus} {vbatUv : Nat} {st : HvdcpState}
    (hst : st.force9vLatched = true) {t : List (Event HvdcpEffect)}
    {q : Prog HvdcpEffect (Except HvdcpError Unit × HvdcpState)}
    (h : Prog.Steps ((elevateQc3 bus vbatUv >>= fun _ => finishNegotiation bus) st) t q) :
    ∀ e ∈ t, ¬StepWrite e.op := by
  have hr := latched_rules
  have hbranch : Proc.Keeps noStep (fun st _ => st.force9vLatched = true)
      (elevateQc3 bus vbatUv) := by
    refine (hr.setPhase _).bind fun _ => ?_
    refine (latched_pulses.attemptQc35Authenticate bus).discard.bind fun _ => ?_
    refine (hr.setPhase _).bind fun _ => hr.readVin.bind fun vin => ?_
    exact qc3Raise_latched bus _ _ _ vin
  have hall := hbranch.bind fun _ => hr.finishNegotiation bus
  exact Prog.Steps.forall_op h (hall.run st () hst).prog

/-! ### Both negotiations -/

/-- The writes of two traces in a row are those of each. -/
theorem pmicWrites_append (t u : List (Event HvdcpEffect)) :
    pmicWrites (t ++ u) = pmicWrites t ++ pmicWrites u :=
  List.filterMap_append

/-- A write of the command register stands in the list when an operation of the trace made it. -/
theorem mem_pmicWrites {t : List (Event HvdcpEffect)} {value : Byte} :
    (Pmic.cmdHvdcp2, value) ∈ pmicWrites t ↔
      ∃ e ∈ t, e.op.write? = some (Pmic.cmdHvdcp2, value) :=
  List.mem_filterMap

section
variable {H : Type} (env : H → (o : HvdcpEffect.Op) → HvdcpEffect.Resp o × H) (h : H)

/-- The QC3 branch: the writes are the same if and only if no pulse is wanted. -/
theorem qc3_writes_eq_iff {bus : Bus} {vbatUv : Nat} {st : HvdcpState}
    (hlatch : st.force9vLatched = true) (hzero : st.pulseCnt = 0) :
    pmicWrites (Prog.runWith env h (raiseFound vbatUv (bus, .qc3Pulse) st)).1
        = pmicWrites (Prog.runWith env h
            (raiseFound vbatUv (bus, .qc3Pulse) st.unlatched)).1 ↔
      ¬PulseWanted vbatUv (vinSamples (Prog.runWith env h
        (elevateQc3 bus vbatUv st.unlatched)).1) := by
  have hS : ∀ m o r, PulseWanted vbatUv m → PulseWanted vbatUv (sampled m o r) := by
    intro m o r hm
    cases o with
    | readVin => exact hm.append _
    | spmi o => exact hm
  have hqc3 : Qc3Forks vbatUv (elevateQc3 bus vbatUv) _ st [] := elevateQc3_forks bus hzero
  rcases Prog.Forks.runWith hS env hqc3 h with
    ⟨hwanted, e, he, value, hstep⟩ | ⟨ht, hh, a, b, ha, hb, hab, hnot⟩
  · refine iff_of_false (fun heq => ?_) fun hnot => hnot hwanted
    -- the run without the latch shows a step, the other one does not
    have hmem : (Pmic.cmdHvdcp2, value) ∈ pmicWrites (Prog.runWith env h
        (raiseFound vbatUv (bus, .qc3Pulse) st.unlatched)).1 :=
      mem_pmicWrites.2 ⟨e, Prog.mem_runWith_bind env h _ he, hstep⟩
    rw [← heq] at hmem
    obtain ⟨e', he', hstep'⟩ := mem_pmicWrites.1 hmem
    obtain ⟨q, hq, _⟩ := Prog.steps_runWith env (raiseFound vbatUv (bus, .qc3Pulse) st) h
    exact elevateQc3_latched hlatch hq e' he' ⟨value, hstep'⟩
  · refine iff_of_true ?_ hnot
    have hbind : ∀ st, raiseFound vbatUv (bus, .qc3Pulse) st
        = (elevateQc3 bus vbatUv st).bind (Proc.andThen fun _ => finishNegotiation bus) :=
      fun _ => rfl
    rw [hbind, hbind, Prog.runWith_bind, Prog.runWith_bind, ha, hb, ht, hh, hab]
    refine congrArg pmicWrites (congrArg (_ ++ ·) ?_)
    obtain ⟨result, st'⟩ := a
    cases result with
    | ok _ =>
        have hblind := (unlatched_waits.finishNegotiation bus).runWith env
        exact (congrArg Prod.fst (hblind _ st')).symm
    | error _ => rfl

/-- What follows the adapter that was found. -/
theorem raiseFound_writes_eq_iff (found : Bus × ApsdElevate) (vbatUv : Nat) {st : HvdcpState}
    (hlatch : st.force9vLatched = true) (hzero : st.pulseCnt = 0) :
    pmicWrites (Prog.runWith env h (raiseFound vbatUv found st)).1
        = pmicWrites (Prog.runWith env h
            (raiseFound vbatUv found st.unlatched)).1 ↔
      (found.2 = .qc3Pulse → ¬PulseWanted vbatUv (vinSamples (Prog.runWith env h
        (elevateQc3 found.1 vbatUv st.unlatched)).1)) := by
  obtain ⟨bus, path⟩ := found
  -- only the pulsed path depends on the latch
  cases path with
  | qc3Pulse =>
      rw [qc3_writes_eq_iff env h hlatch hzero]
      exact ⟨fun hnot _ => hnot, fun hnot => hnot rfl⟩
  | force9v =>
      have hraise : Forgets (raiseFound vbatUv (bus, .force9v)) := by
        refine Forgets.bind (fun st => ?_) _
        have hchoose : ∀ qc2 : Prop, [Decidable qc2] →
            Forgets (if qc2 then requestForce9v bus else elevateDcp bus vbatUv) := by
          intro qc2 _
          by_cases hqc2 : qc2
          · rw [if_pos hqc2]
            exact requestForce9v_forgets bus
          · rw [if_neg hqc2]
            exact (requestForce9v_forgets bus).bind _
        exact hchoose (st.apsdResult &&& Pmic.bitQc2 ≠ 0) st
      rw [hraise st]
      exact iff_of_true rfl fun hpath => nomatch hpath
  | reject => exact iff_of_true rfl fun hpath => nomatch hpath

/-- A negotiation under the latch against one without it, on the same answers. -/
theorem latched_writes_eq_iff (usbinId : Option Nat) (vbatUv : Nat) (st : HvdcpState) :
    pmicWrites (Prog.runWith env h (runNegotiate usbinId vbatUv st)).1
        = pmicWrites (Prog.runWith env h
            (runNegotiate usbinId vbatUv st.unlatched)).1 ↔
      (st.force9vLatched = true → ¬Qc3PulseWanted env h usbinId vbatUv st.unlatched) := by
  -- with the latch down the two are one run
  by_cases hlatch : st.force9vLatched = true
  · have hblind := (findAdapter_blind usbinId).runWith env h st
    have hbind : ∀ st, runNegotiate usbinId vbatUv st
        = (findAdapter usbinId st).bind (Proc.andThen (raiseFound vbatUv)) := by
      intro st
      rw [runNegotiate_eq_raiseFound]
      rfl
    rw [hbind, hbind, Prog.runWith_bind, Prog.runWith_bind, Qc3PulseWanted, hblind]
    -- up to the adapter the two make the same exchanges; from there on its path decides
    cases hout : (Prog.runWith env h (findAdapter usbinId st)).2.2 with
    | none => exact iff_of_true rfl fun _ ⟨_, _, hnot, _⟩ => nomatch hnot
    | some out =>
        obtain ⟨result, st'⟩ := out
        cases result with
        | error e => exact iff_of_true rfl fun _ ⟨_, _, hnot, _⟩ => nomatch hnot
        | ok found =>
            obtain ⟨hlatch', hzero⟩ :=
              findAdapter_leaves (Prog.yields_runWith env (findAdapter usbinId st) h _ hout)
            have hiff := raiseFound_writes_eq_iff env
              (Prog.runWith env h (findAdapter usbinId st)).2.1 found vbatUv
              (hlatch'.trans hlatch) hzero
            have hwanted : (st.force9vLatched = true → ¬∃ bus st₁,
                (some (Except.ok found, st'.unlatched) :
                    Option (Except HvdcpError (Bus × ApsdElevate) × HvdcpState))
                  = some (.ok (bus, .qc3Pulse), st₁) ∧
                PulseWanted vbatUv (vinSamples (Prog.runWith env
                  (Prog.runWith env h (findAdapter usbinId st)).2.1
                  (elevateQc3 bus vbatUv st₁)).1)) ↔
                (found.2 = .qc3Pulse → ¬PulseWanted vbatUv (vinSamples (Prog.runWith env
                  (Prog.runWith env h (findAdapter usbinId st)).2.1
                  (elevateQc3 found.1 vbatUv st'.unlatched)).1)) := by
              constructor
              · rintro hnone hpath hpulse
                refine hnone hlatch ⟨found.1, st'.unlatched, ?_, hpulse⟩
                rw [← hpath]
              · rintro hnot _ ⟨bus, st₁, hfound, hpulse⟩
                cases hfound
                exact hnot rfl hpulse
            refine Iff.trans ?_ (hiff.trans hwanted.symm)
            show pmicWrites (_ ++ _) = pmicWrites (_ ++ _) ↔ _
            rw [pmicWrites_append, pmicWrites_append, List.append_cancel_left_eq]
            rfl
  · have hdown : st.unlatched = st := by
      have hfalse := Bool.eq_false_of_not_eq_true hlatch
      rw [HvdcpState.unlatched, ← hfalse]
    rw [hdown]
    exact iff_of_true rfl fun hup => absurd hup hlatch

end

/-- The writes of a negotiation are those of one after a re-plug if and only if it was entered
without the latch, or its answers come to no pulse of the QC3 branch. -/
theorem renegotiation_eq_replug_iff {H : Type}
    (env : H → (o : HvdcpEffect.Op) → HvdcpEffect.Resp o × H) (h : H) (cause : Cause)
    (usbinId : Option Nat) (vbatUv : Nat) (st : HvdcpState) :
    negotiationWrites env h cause usbinId vbatUv st
        = negotiationWrites env h .replug usbinId vbatUv st ↔
      ((cause.enter st).force9vLatched = true →
        ¬Qc3PulseWanted env h usbinId vbatUv (Cause.replug.enter st)) := by
  have hiff := latched_writes_eq_iff env h usbinId vbatUv (cause.enter st)
  have hreplug : (cause.enter st).unlatched = Cause.replug.enter st := by
    cases cause <;> rfl
  rw [hreplug] at hiff
  exact hiff

/-! ### A brick that comes back as QC3 -/

/-- What a QC2 brick leaves: the latch is up. -/
def afterQc2 : HvdcpState where
  pulseCnt := 20
  apsdStatus := Pmic.bitApsdDone
  apsdResult := Pmic.bitQc2
  options1 := 0x4C
  phase := .done
  bigEndian := true
  endianKnown := true
  transport := .superuser
  force9vLatched := true

/-- The latch of a QC2 brick holds back every pulse of a re-elevation, and none of a
re-plug. -/
theorem not_renegotiation_eq_replug :
    ¬∀ (log : List (Entry HvdcpEffect HvdcpState PulseOp)) (st : HvdcpState),
      Run PulseOp.run HvdcpState.new log st →
      ∀ (H : Type) (env : H → (o : HvdcpEffect.Op) → HvdcpEffect.Resp o × H) (h : H) (cause : Cause)
        (usbinId : Option Nat) (vbatUv : Nat),
        negotiationWrites env h cause usbinId vbatUv st
          = negotiationWrites env h .replug usbinId vbatUv st := by
  intro hall
  have hleaves : negotiateLeaves { qc3Bench with result := Pmic.bitQc2 } = some afterQc2 := by
    decide +kernel
  have hsame := hall _ afterQc2 (run_negotiateLog hleaves) QcBench QcBench.answer qc3Bench
    .reelevate none 3900000
  -- the latch kept from the first negotiation changes the writes of the second
  have hdiffer : negotiationWrites QcBench.answer qc3Bench .reelevate none 3900000 afterQc2
      ≠ negotiationWrites QcBench.answer qc3Bench .replug none 3900000 afterQc2 := by
    decide +kernel
  exact hdiffer hsame

end Kmdf
