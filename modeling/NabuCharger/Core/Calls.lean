import NabuCharger.Core.Access

/-!
# `Core.Calls`: what each operation of an open session does

One specification for every operation, proved once from its code. `DetectStep`, `Apply`,
`Poll`, `Reinit` and `Close` relate the session before, the exchanges, the result and the
session after. `DetectExit` has one case for each way a detection step can end.

Of the exchanges the properties need three things: the values of `APSD_STATUS` the session
read (`statusReads`), the reruns the journal shows (`rerunReasons`), and how many writes of
`CMD_APSD` succeeded (`rerunWrites`).
-/

set_option autoImplicit false

namespace ChargerCore

open Effectful

/-- A value read from `APSD_STATUS`. -/
def Transfer.status : Transfer → Option Byte
  | .read addr value => if addr = apsdStatus then some value else none
  | .write _ _ => none

/-- A write of `CMD_APSD`. -/
def Transfer.isRerun : Transfer → Bool
  | .read _ _ => false
  | .write addr _ => addr == cmdApsd

/-- The values read from `APSD_STATUS`. -/
def statusReads (t : List (Event ChargerEffect)) : List Byte :=
  (transfers t).filterMap Transfer.status

/-- The number of successful writes of `CMD_APSD`. -/
def rerunWrites (t : List (Event ChargerEffect)) : Nat :=
  (transfers t).countP Transfer.isRerun

/-- APSD reports its detection as complete. -/
def Complete (status : Byte) : Prop := status &&& apsdDtcStatusDone ≠ 0

instance (status : Byte) : Decidable (Complete status) :=
  inferInstanceAs (Decidable (status &&& apsdDtcStatusDone ≠ 0))

section projections

variable (t u : List (Event ChargerEffect))

/-- The status reads of two traces one after the other. -/
@[simp] theorem statusReads_append : statusReads (t ++ u) = statusReads t ++ statusReads u := by
  simp [statusReads]

/-- The rerun commands of two traces add up. -/
@[simp] theorem rerunWrites_append : rerunWrites (t ++ u) = rerunWrites t + rerunWrites u := by
  simp [rerunWrites]

end projections

/-- Exchanges that neither read `APSD_STATUS` nor rerun the detection. -/
structure Plain (t : List (Event ChargerEffect)) : Prop where
  statusReads : statusReads t = []
  rerunReasons : rerunReasons t = []
  rerunWrites : rerunWrites t = 0

/-- Two plain traces make a plain one. -/
theorem Plain.append {t u : List (Event ChargerEffect)} (ht : Plain t) (hu : Plain u) :
    Plain (t ++ u) where
  statusReads := by rw [statusReads_append, ht.statusReads, hu.statusReads, List.append_nil]
  rerunReasons := by rw [rerunReasons_append, ht.rerunReasons, hu.rerunReasons, List.append_nil]
  rerunWrites := by rw [rerunWrites_append, ht.rerunWrites, hu.rerunWrites]

/-- Without a transfer, a trace is plain. -/
theorem Quiet.plain {t : List (Event ChargerEffect)} (h : Quiet t) : Plain t where
  statusReads := by rw [statusReads, h.transfers]; rfl
  rerunReasons := h.rerunReasons
  rerunWrites := by rw [rerunWrites, h.transfers]; rfl

section accesses

variable {addr : RegAddr} {value : Byte} {s s' : Charger} {t : List (Event ChargerEffect)}
  {r : Except ChargerError Byte} {u : Except ChargerError Unit}

/-- A read of another register. -/
theorem ReadReg.plain (h : ReadReg addr s t r s') (haddr : addr ≠ apsdStatus) : Plain t where
  statusReads := by
    rw [ChargerCore.statusReads, h.transfers]
    cases r <;> simp [Except.toOption, Transfer.status, haddr]
  rerunReasons := h.rerunReasons
  rerunWrites := by
    rw [ChargerCore.rerunWrites, h.transfers]
    cases r <;> simp [Except.toOption, Transfer.isRerun]

/-- A read of `APSD_STATUS`. -/
theorem ReadReg.statusReads (h : ReadReg apsdStatus s t r s') :
    statusReads t = r.toOption.toList := by
  rw [ChargerCore.statusReads, h.transfers]
  cases r <;> simp [Except.toOption, Transfer.status]

/-- A read sends no command. -/
theorem ReadReg.rerunWrites (h : ReadReg addr s t r s') : rerunWrites t = 0 := by
  rw [ChargerCore.rerunWrites, h.transfers]
  cases r <;> simp [Except.toOption, Transfer.isRerun]

/-- A write of another register. -/
theorem WriteReg.plain (h : WriteReg addr value s t u s') (hstatus : addr ≠ apsdStatus)
    (hcmd : addr ≠ cmdApsd) : Plain t where
  statusReads := by
    rw [ChargerCore.statusReads]
    rcases h.transfers with ⟨hnone, -⟩ | ⟨back, hback⟩
    · rw [hnone]; rfl
    · rw [hback]
      cases back <;> simp [Transfer.status, hstatus]
  rerunReasons := h.rerunReasons
  rerunWrites := by
    rw [ChargerCore.rerunWrites]
    rcases h.transfers with ⟨hnone, -⟩ | ⟨back, hback⟩
    · rw [hnone]; rfl
    · rw [hback]
      cases back <;> simp [Transfer.isRerun, hcmd]

/-- An update of another register than `APSD_STATUS`. -/
theorem UpdateReg.statusReads (h : UpdateReg addr s t u s') (hstatus : addr ≠ apsdStatus) :
    statusReads t = [] := by
  rw [ChargerCore.statusReads]
  rcases h.transfers with hnone | ⟨value, hone | ⟨wrote, back, hback⟩⟩
  · rw [hnone]; rfl
  · rw [hone]
    simp [Transfer.status, hstatus]
  · rw [hback]
    cases back <;> simp [Transfer.status, hstatus]

/-- An update writes once, so it sends one command at most. -/
theorem UpdateReg.rerunWrites_le (h : UpdateReg addr s t u s') : rerunWrites t ≤ 1 := by
  rw [ChargerCore.rerunWrites]
  rcases h.transfers with hnone | ⟨value, hone | ⟨wrote, back, hback⟩⟩
  · rw [hnone]
    exact Nat.zero_le 1
  · rw [hone]
    simp [Transfer.isRerun]
  · rw [hback]
    cases back <;> by_cases haddr : addr = cmdApsd <;> simp [Transfer.isRerun, haddr]

/-- An update of any other register is plain. -/
theorem UpdateReg.plain (h : UpdateReg addr s t u s') (hstatus : addr ≠ apsdStatus)
    (hcmd : addr ≠ cmdApsd) : Plain t where
  statusReads := h.statusReads hstatus
  rerunReasons := h.rerunReasons
  rerunWrites := by
    rw [ChargerCore.rerunWrites]
    rcases h.transfers with hnone | ⟨value, hone | ⟨wrote, back, hback⟩⟩
    · rw [hnone]; rfl
    · rw [hone]
      simp [Transfer.isRerun]
    · rw [hback]
      cases back <;> simp [Transfer.isRerun, hcmd]

end accesses

/-! ### Detection -/

/-- When the detection that a step at `now` belongs to started. -/
def Charger.startedAt (s : Charger) (now : Nat) : Nat := s.detectStartedMs.getD now

/-- The state in which a detection step polls. -/
def Charger.polling (s : Charger) : State :=
  if s.detectStartedMs = none then .detecting else s.state

/-- The ways a detection step at `now` can end. -/
inductive DetectExit (s : Charger) (now : Nat) (t : List (Event ChargerEffect)) :
    Except ChargerError Detection → Charger → Prop
  /-- A register could not be read. -/
  | linkLost {err : ChargerError} {s' : Charger} (hlink : LinkError err)
      (hstatus : ∀ status ∈ statusReads t, Complete status)
      (hreasons : rerunReasons t = []) (hwrites : rerunWrites t = 0)
      (hstate : s'.state = .faulted) (hadapter : s'.adapter = s.adapter)
      (hreruns : s'.reruns = s.reruns) : DetectExit s now t (.error err) s'
  /-- The adapter is identified. -/
  | ready {adapter : AdapterType} {s' : Charger}
      (hstatus : ∀ status ∈ statusReads t, Complete status)
      (hreasons : rerunReasons t = []) (hwrites : rerunWrites t = 0)
      (hstate : s'.state = .ready) (hadapter : s'.adapter = some adapter)
      (hreruns : s'.reruns = s.reruns) : DetectExit s now t (.ok (.ready adapter)) s'
  /-- APSD is not complete, and there is time left. -/
  | waiting {status : Byte} {n : Nat} {s' : Charger}
      (hstatus : statusReads t = [status]) (hpending : ¬Complete status)
      (htime : now - s.startedAt now < s.config.detectTimeoutMs)
      (hreasons : rerunReasons t = []) (hwrites : rerunWrites t = 0)
      (hstate : s'.state = s.polling) (hadapter : s'.adapter = s.adapter)
      (hreruns : s'.reruns = s.reruns) :
      DetectExit s now t (.ok (.pending (now - s.startedAt now) n)) s'
  /-- APSD is rerun: it is not complete in time, or the adapter is unstable. The rerun may
  fail. -/
  | rerun {status : Byte} {reason : String} {r : Except ChargerError Detection} {s' : Charger}
      (hstatus : statusReads t = [status])
      (hreason : ¬Complete status ∧ s.config.detectTimeoutMs ≤ now - s.startedAt now ∧
          reason = "timeout" ∨ Complete status ∧ reason = "adapter_check_timeout")
      (hbudget : s.reruns < s.config.maxDetectReruns)
      (hreasons : rerunReasons t = [reason]) (hwrites : rerunWrites t ≤ 1)
      (hadapter : s'.adapter = s.adapter) (hreruns : s'.reruns = s.reruns + 1)
      (hresult : (∃ n, r = .ok (.pending (now - s.startedAt now) n) ∧ s'.state = s.polling) ∨
          ∃ err, r = .error err ∧ LinkError err ∧ s'.state = .faulted) : DetectExit s now t r s'
  /-- APSD is not complete in time, and there is no rerun left. -/
  | timedOut {status : Byte} {s' : Charger}
      (hstatus : statusReads t = [status]) (hpending : ¬Complete status)
      (htime : s.config.detectTimeoutMs ≤ now - s.startedAt now)
      (hreasons : rerunReasons t = []) (hwrites : rerunWrites t = 0)
      (hstate : s'.state = .faulted) (hadapter : s'.adapter = s.adapter)
      (hreruns : s'.reruns = s.reruns) :
      DetectExit s now t (.error (.detectionTimeout (now - s.startedAt now))) s'
  /-- The registers cannot be made sense of, or the adapter stays unstable. -/
  | rejected {err : ChargerError} {s' : Charger}
      (herr : (∃ raw, err = .adapterCheckTimeout raw) ∨ ∃ raw, err = .unknownAdapterPattern raw)
      (hstatus : ∀ status ∈ statusReads t, Complete status)
      (hreasons : rerunReasons t = []) (hwrites : rerunWrites t = 0)
      (hstate : s'.state = .faulted) (hadapter : s'.adapter = s.adapter)
      (hreruns : s'.reruns = s.reruns) : DetectExit s now t (.error err) s'

/-- A quiet beginning changes nothing of how a step ends. -/
theorem DetectExit.of_quiet {s₀ s' : Charger} {now : Nat} {u t : List (Event ChargerEffect)}
    {r : Except ChargerError Detection} (hu : Quiet u) (h : DetectExit s₀ now t r s') :
    DetectExit s₀ now (u ++ t) r s' := by
  have hstatus : statusReads (u ++ t) = statusReads t := by
    rw [statusReads_append, hu.plain.statusReads, List.nil_append]
  have hreasons : rerunReasons (u ++ t) = rerunReasons t := by
    rw [rerunReasons_append, hu.rerunReasons, List.nil_append]
  have hwrites : rerunWrites (u ++ t) = rerunWrites t := by
    rw [rerunWrites_append, hu.plain.rerunWrites, Nat.zero_add]
  -- each exit speaks of the status reads, the reasons and the rerun writes only, which a quiet
  -- prefix leaves
  cases h with
  | linkLost hlink h₁ h₂ h₃ hstate hadapter hreruns =>
      exact .linkLost hlink (hstatus ▸ h₁) (hreasons ▸ h₂) (hwrites ▸ h₃) hstate hadapter hreruns
  | ready h₁ h₂ h₃ hstate hadapter hreruns =>
      exact .ready (hstatus ▸ h₁) (hreasons ▸ h₂) (hwrites ▸ h₃) hstate hadapter hreruns
  | waiting h₁ hpending htime h₂ h₃ hstate hadapter hreruns =>
      exact .waiting (hstatus ▸ h₁) hpending htime (hreasons ▸ h₂) (hwrites ▸ h₃) hstate hadapter
        hreruns
  | rerun h₁ hreason hbudget h₂ h₃ hadapter hreruns hresult =>
      exact .rerun (hstatus ▸ h₁) hreason hbudget (hreasons ▸ h₂) (hwrites ▸ h₃) hadapter hreruns
        hresult
  | timedOut h₁ hpending htime h₂ h₃ hstate hadapter hreruns =>
      exact .timedOut (hstatus ▸ h₁) hpending htime (hreasons ▸ h₂) (hwrites ▸ h₃) hstate hadapter
        hreruns
  | rejected herr h₁ h₂ h₃ hstate hadapter hreruns =>
      exact .rejected herr (hstatus ▸ h₁) (hreasons ▸ h₂) (hwrites ▸ h₃) hstate hadapter hreruns

/-- A detection step of an open session. -/
structure DetectStep (s : Charger) (t : List (Event ChargerEffect))
    (r : Except ChargerError Detection) (s' : Charger) (now : Nat) : Prop where
  polled : (clocks t).head? = some now
  config : s'.config = s.config
  started : s'.detectStartedMs = some (s.startedAt now)
  ends : DetectExit s now t r s'

/-- A detection step after its polls: the session, and the exchanges up to here. -/
structure Polled (s₀ : Charger) (now : Nat) (t₀ : List (Event ChargerEffect)) (status : Byte)
    (s : Charger) : Prop where
  config : s.config = s₀.config
  state : s.state = s₀.polling
  adapter : s.adapter = s₀.adapter
  reruns : s.reruns = s₀.reruns
  started : s.detectStartedMs = some (s₀.startedAt now)
  status : statusReads t₀ = [status]
  reasons : rerunReasons t₀ = []
  writes : rerunWrites t₀ = 0

namespace Polled

variable {s₀ s s' : Charger} {now : Nat} {t₀ u : List (Event ChargerEffect)} {status : Byte}

/-- A failure of a step after its polls keeps what the step does not touch. -/
theorem failed (h : Polled s₀ now t₀ status s) (hkept : Bookkept { s with state := .faulted } s') :
    s'.state = .faulted ∧ s'.adapter = s₀.adapter ∧ s'.reruns = s₀.reruns ∧
      s'.config = s₀.config ∧ s'.detectStartedMs = some (s₀.startedAt now) :=
  ⟨hkept.state, hkept.adapter.trans h.adapter, hkept.reruns.trans h.reruns,
    hkept.config.trans h.config, hkept.detectStartedMs.trans h.started⟩

/-- Behind the polls, a trace that reads no status leaves it at the one read of the step. -/
theorem statusReads (h : Polled s₀ now t₀ status s) (hu : statusReads u = []) :
    statusReads (t₀ ++ u) = [status] := by
  rw [statusReads_append, h.status, hu]
  rfl

/-- Behind the polls, a quiet trace leaves the step without a rerun. -/
theorem reasons_quiet (h : Polled s₀ now t₀ status s) (hu : Quiet u) :
    rerunReasons (t₀ ++ u) = [] := by
  rw [rerunReasons_append, h.reasons, hu.rerunReasons]
  rfl

/-- Nor does it leave a rerun command. -/
theorem writes_quiet (h : Polled s₀ now t₀ status s) (hu : Quiet u) :
    rerunWrites (t₀ ++ u) = 0 := by
  rw [rerunWrites_append, h.writes, hu.plain.rerunWrites]

/-- When the status read was complete, all of them are. -/
theorem complete (h : Polled s₀ now t₀ status s) (hu : Quiet u) (hdone : Complete status) :
    ∀ v ∈ ChargerCore.statusReads (t₀ ++ u), Complete v := by
  rw [h.statusReads hu.plain.statusReads]
  simpa using hdone

end Polled

namespace Charger

variable {s s' : Charger} {t : List (Event ChargerEffect)}

/-- What follows `orFail`: the rest of the operation, or nothing. -/
theorem orFail_bind {α β : Type} {request : Nat} {op : String} {x : ChargerM α}
    {f : α → ChargerM β} {r : Except ChargerError β}
    (h : (orFail request op x >>= f).Yields s t r s') :
    (∃ t₁ t₂ value s₁, t = t₁ ++ t₂ ∧ x.Yields s t₁ (.ok value) s₁ ∧
        (f value).Yields s₁ t₂ r s') ∨
      ∃ err t₁ t₂ s₁, r = .error err ∧ t = t₁ ++ t₂ ∧ x.Yields s t₁ (.error err) s₁ ∧
        Bookkept { s₁ with state := .faulted } s' ∧ Quiet t₂ := by
  obtain ⟨t₁, t₂, value, s₁, rfl, hx, hf⟩ | ⟨err, rfl, hx⟩ := h.bind_cases
  · rcases orFail_cases hx with ⟨v, hv, hyields⟩ | ⟨err, t₃, t₄, s₂, heq, -⟩
    · cases hv
      exact .inl ⟨t₁, t₂, value, s₁, rfl, hyields, hf⟩
    · -- a success of the pair is a success of its first half
      nomatch heq
  · rcases orFail_cases hx with ⟨v, hv, -⟩ | ⟨err', t₃, t₄, s₂, heq, ht, hyields, hkept, hquiet⟩
    · nomatch hv
    · cases heq
      exact .inr ⟨err, t₃, t₄, s₂, rfl, ht, hyields, hkept, hquiet⟩

/-- The first step of a detection starts it. -/
theorem beginDetection_yields {now : Nat} {r : Except ChargerError Nat}
    (h : (beginDetection now).Yields s t r s') :
    r = .ok (s.startedAt now) ∧ Quiet t ∧
      Bookkept { s with detectStartedMs := some (s.startedAt now), state := s.polling } s' := by
  replace h := Proc.Yields.get_bind h
  -- a detection in progress keeps its start, a new one moves to `Detecting`
  cases hstarted : s.detectStartedMs with
  | some started =>
      rw [hstarted] at h
      obtain ⟨rfl, rfl, rfl⟩ := Proc.Yields.pure_cases h
      have hstate : s'.polling = s'.state := by rw [polling, hstarted]; rfl
      rw [startedAt, hstarted, hstate]
      refine ⟨rfl, .nil, ?_⟩
      rw [Bookkept, Option.getD_some, ← hstarted]
  | none =>
      rw [hstarted] at h
      replace h := Proc.Yields.modify_bind h
      have hstate : s.polling = .detecting := by rw [polling, hstarted]; rfl
      rw [startedAt, hstarted, hstate]
      obtain ⟨t₁, t₂, a, s₁, rfl, hmove, hpure⟩ | ⟨e, -, hmove⟩ := h.bind_cases
      · obtain ⟨-, hkept, hquiet⟩ := transition_yields hmove
        obtain ⟨rfl, rfl, rfl⟩ := hpure.pure_cases
        exact ⟨rfl, hquiet.append .nil, hkept⟩
      · cases (transition_yields hmove).1

/-- A session in which a detection step at `now` has begun: the detection started, and the
session polls. -/
def begun (s : Charger) (request now : Nat) : Charger :=
  { s with
    requestId := request
    detectStartedMs := some (s.startedAt now)
    state := s.polling }

/-- A step whose poll failed. `t₀` is what it showed before. -/
theorem linkLost_exit {s₀ : Charger} {request now : Nat} {t₀ : List (Event ChargerEffect)}
    {err : ChargerError} (hkept : Bookkept { begun s₀ request now with state := .faulted } s')
    (hlink : LinkError err) (hstatus : ∀ status ∈ statusReads t₀, Complete status)
    (hreasons : rerunReasons t₀ = []) (hwrites : rerunWrites t₀ = 0) :
    DetectExit s₀ now t₀ (.error err) s' ∧ s'.config = s₀.config ∧
      s'.detectStartedMs = some (s₀.startedAt now) :=
  ⟨.linkLost hlink hstatus hreasons hwrites hkept.state hkept.adapter hkept.reruns,
    hkept.config, hkept.detectStartedMs⟩

variable [LoopFuel]

/-- A rerun that the budget allows. -/
theorem retryDetection_yields {request : Nat} {reason : String} {r : Except ChargerError Unit}
    (hbudget : s.reruns < s.config.maxDetectReruns)
    (h : (retryDetection request reason).Yields s t r s') :
    rerunReasons t = [reason] ∧ rerunWrites t ≤ 1 ∧ statusReads t = [] ∧
      (r = .ok () ∧ Bookkept { s with reruns := s.reruns + 1 } s' ∨
        ∃ err, r = .error err ∧ LinkError err ∧
          Bookkept { s with reruns := s.reruns + 1, state := .faulted } s') := by
  replace h := Proc.Yields.get_bind h
  rw [if_neg (Nat.not_le_of_lt hbudget)] at h
  have hbyte := s.config.maxDetectReruns_le
  -- the budget keeps the counter below the largest byte, so the increment does not saturate
  have hsat : satAdd 8 s.reruns 1 = s.reruns + 1 := by
    simp only [satAdd]
    omega
  rw [hsat] at h
  replace h := Proc.Yields.modify_bind h
  obtain ⟨t₁, t₂, a, s₁, rfl, hlog, hupdate⟩ | ⟨e, -, hlog⟩ := h.bind_cases
  · obtain ⟨-, hkept, htransfers, hreasons⟩ := log_yields hlog
    have hshown : rerunReasons t₁ = [reason] := hreasons
    have hstatus : statusReads t₁ = [] := by rw [statusReads, htransfers]; rfl
    have hwrites : rerunWrites t₁ = 0 := by rw [rerunWrites, htransfers]; rfl
    -- the rerun bit is set by a read-modify-write, whose failure faults the charger
    rcases orFail_cases hupdate with ⟨value, rfl, hyields⟩ | hfailed
    · have hspec := updateReg_yields hyields
      have hone := hspec.rerunWrites_le
      refine ⟨?_, ?_, ?_, .inl ⟨rfl, hkept.trans hspec.bookkept⟩⟩
      · rw [rerunReasons_append, hshown, hspec.rerunReasons, List.append_nil]
      · rw [rerunWrites_append, hwrites]
        omega
      · rw [statusReads_append, hstatus, hspec.statusReads (by decide), List.append_nil]
    · obtain ⟨err, t₃, t₄, s₂, rfl, rfl, hyields, hfault, hquiet⟩ := hfailed
      have hspec := updateReg_yields hyields
      have hone := hspec.rerunWrites_le
      have hkeptAll := hkept.trans hspec.bookkept
      refine ⟨?_, ?_, ?_, .inr ⟨err, rfl, hspec.failure err rfl, hkeptAll.faulted hfault⟩⟩
      · simp only [rerunReasons_append, hshown, hspec.rerunReasons, hquiet.rerunReasons,
          List.append_nil]
      · simp only [rerunWrites_append, hwrites, hquiet.plain.rerunWrites]
        omega
      · simp only [statusReads_append, hstatus, hspec.statusReads (by decide),
          hquiet.plain.statusReads, List.append_nil]
  · cases (log_yields hlog).1

/-- The end of a detection step that reruns the detection. -/
theorem rerun_yields {s₀ : Charger} {request now : Nat} {status : Byte} {reason : String}
    {n : Nat} {t₀ : List (Event ChargerEffect)} {r : Except ChargerError Detection}
    (hpolled : Polled s₀ now t₀ status s) (hbudget : s.reruns < s.config.maxDetectReruns)
    (hreason : ¬Complete status ∧ s₀.config.detectTimeoutMs ≤ now - s₀.startedAt now ∧
      reason = "timeout" ∨ Complete status ∧ reason = "adapter_check_timeout")
    (h : (retryDetection request reason >>= fun _ =>
      (pure (.pending (now - s₀.startedAt now) n) : ChargerM Detection)).Yields s t r s') :
    DetectExit s₀ now (t₀ ++ t) r s' ∧ s'.config = s₀.config ∧
      s'.detectStartedMs = some (s₀.startedAt now) := by
  -- the poll left the budget alone, so the condition can be read in the state before it
  have hbudget₀ : s₀.reruns < s₀.config.maxDetectReruns := by
    rw [← hpolled.reruns, ← hpolled.config]
    exact hbudget
  have hreruns : s.reruns + 1 = s₀.reruns + 1 := congrArg (· + 1) hpolled.reruns
  have hshow {u : List (Event ChargerEffect)} (hu : rerunReasons u = [reason]) :
      rerunReasons (t₀ ++ u) = [reason] := by
    rw [rerunReasons_append, hpolled.reasons, hu]
    rfl
  have hwrite {u : List (Event ChargerEffect)} (hu : rerunWrites u ≤ 1) :
      rerunWrites (t₀ ++ u) ≤ 1 := by
    rw [rerunWrites_append, hpolled.writes]
    omega
  obtain ⟨t₁, t₂, a, s₁, rfl, hretry, hpure⟩ | ⟨err, rfl, hretry⟩ := h.bind_cases
  · obtain ⟨hshown, hone, hnone, ⟨-, hkept⟩ | ⟨err, herr, -⟩⟩ :=
      retryDetection_yields hbudget hretry
    · obtain ⟨rfl, rfl, rfl⟩ := hpure.pure_cases
      rw [List.append_nil]
      exact ⟨.rerun (hpolled.statusReads hnone) hreason hbudget₀ (hshow hshown) (hwrite hone)
        (hkept.adapter.trans hpolled.adapter) (hkept.reruns.trans hreruns)
        (.inl ⟨_, rfl, hkept.state.trans hpolled.state⟩),
        hkept.config.trans hpolled.config, hkept.detectStartedMs.trans hpolled.started⟩
    · nomatch herr
  · obtain ⟨hshown, hone, hnone, ⟨hr, -⟩ | ⟨err', herr, hlink, hkept⟩⟩ :=
      retryDetection_yields hbudget hretry
    · nomatch hr
    · cases herr
      exact ⟨.rerun (hpolled.statusReads hnone) hreason hbudget₀ (hshow hshown) (hwrite hone)
        (hkept.adapter.trans hpolled.adapter) (hkept.reruns.trans hreruns)
        (.inr ⟨_, rfl, hlink, hkept.state⟩),
        hkept.config.trans hpolled.config, hkept.detectStartedMs.trans hpolled.started⟩

/-- The end of a detection step, from the status it read. -/
theorem concludeDetection_yields {s₀ : Charger} {request now : Nat} {status result : Byte}
    {t₀ : List (Event ChargerEffect)} {r : Except ChargerError Detection}
    (hpolled : Polled s₀ now t₀ status s)
    (h : (concludeDetection request status result (now - s₀.startedAt now)).Yields s t r s') :
    DetectExit s₀ now (t₀ ++ t) r s' ∧ s'.config = s₀.config ∧
      s'.detectStartedMs = some (s₀.startedAt now) := by
  replace h := Proc.Yields.get_bind h
  rw [hpolled.config] at h
  rcases AdapterType.decode_cases status result s₀.config.qc35 with
    ⟨hpending, hdecode⟩ | ⟨hdone, hdecode | ⟨raw, hdecode⟩ | ⟨adapter, hdecode⟩⟩
  · -- not done yet: wait, or after the time limit rerun while the budget lasts
    have hnot : ¬Complete status := fun hc => hc hpending
    rw [hdecode] at h
    dsimp only at h
    by_cases htime : s₀.config.detectTimeoutMs ≤ now - s₀.startedAt now
    · rw [if_pos htime] at h
      by_cases hbudget : s₀.config.maxDetectReruns ≤ s.reruns
      · rw [if_pos hbudget] at h
        obtain ⟨rfl, hkept, hquiet⟩ := fail_yields h
        obtain ⟨hstate, hadapter, hreruns, hrest⟩ := hpolled.failed hkept
        exact ⟨.timedOut (hpolled.statusReads hquiet.plain.statusReads) hnot htime
          (hpolled.reasons_quiet hquiet) (hpolled.writes_quiet hquiet) hstate hadapter hreruns,
          hrest⟩
      · rw [if_neg hbudget] at h
        rw [← hpolled.config] at hbudget
        exact rerun_yields hpolled (Nat.lt_of_not_le hbudget) (.inl ⟨hnot, htime, rfl⟩) h
    · rw [if_neg htime] at h
      obtain ⟨rfl, rfl, rfl⟩ := Proc.Yields.pure_cases h
      exact ⟨.waiting (hpolled.statusReads rfl) hnot (Nat.lt_of_not_le htime)
        (hpolled.reasons_quiet .nil) (hpolled.writes_quiet .nil) hpolled.state hpolled.adapter
        hpolled.reruns, hpolled.config, hpolled.started⟩
  · rw [hdecode] at h
    dsimp only at h
    -- done, but no adapter bit is set: a rerun, or the error of the decoder
    by_cases hbudget : s₀.config.maxDetectReruns ≤ s.reruns
    · rw [if_pos hbudget] at h
      obtain ⟨rfl, hkept, hquiet⟩ := fail_yields h
      obtain ⟨hstate, hadapter, hreruns, hrest⟩ := hpolled.failed hkept
      exact ⟨.rejected (.inl ⟨_, rfl⟩) (hpolled.complete hquiet hdone)
        (hpolled.reasons_quiet hquiet) (hpolled.writes_quiet hquiet) hstate hadapter hreruns,
        hrest⟩
    · rw [if_neg hbudget] at h
      rw [← hpolled.config] at hbudget
      exact rerun_yields hpolled (Nat.lt_of_not_le hbudget) (.inr ⟨hdone, rfl⟩) h
  · rw [hdecode] at h
    obtain ⟨rfl, hkept, hquiet⟩ := fail_yields h
    obtain ⟨hstate, hadapter, hreruns, hrest⟩ := hpolled.failed hkept
    exact ⟨.rejected (.inr ⟨_, rfl⟩) (hpolled.complete hquiet hdone)
      (hpolled.reasons_quiet hquiet) (hpolled.writes_quiet hquiet) hstate hadapter hreruns, hrest⟩
  · rw [hdecode] at h
    -- an adapter: it is recorded and the charger is ready
    obtain ⟨s₁, hkept₁, h⟩ := count_bind h
    replace h := h.modify_bind
    obtain ⟨t₁, t', a, s₂, rfl, hmove, hrecord⟩ | ⟨e, -, hmove⟩ := h.bind_cases
    · obtain ⟨-, hkept₂, hquiet₂⟩ := transition_yields hmove
      obtain ⟨t₂, t₃, b, s₃, rfl, hlog, hpure⟩ | ⟨e, -, hlog⟩ := hrecord.bind_cases
      · obtain ⟨-, hkept₃, hquiet₃⟩ := log_quiet rfl hlog
        obtain ⟨rfl, rfl, rfl⟩ := hpure.pure_cases
        have hquiet := hquiet₂.append (hquiet₃.append .nil)
        have hkept := hkept₂.trans hkept₃
        refine ⟨.ready (hpolled.complete hquiet hdone) (hpolled.reasons_quiet hquiet)
          (hpolled.writes_quiet hquiet) hkept.state hkept.adapter ?_, ?_, ?_⟩
        · exact hkept.reruns.trans (hkept₁.reruns.trans hpolled.reruns)
        · exact hkept.config.trans (hkept₁.config.trans hpolled.config)
        · exact hkept.detectStartedMs.trans (hkept₁.detectStartedMs.trans hpolled.started)
      · nomatch (log_quiet rfl hlog).1
    · nomatch (transition_yields hmove).1

/-- The polls of a detection step, and what it makes of them. -/
theorem polls_yields {s₀ : Charger} {n request now started : Nat}
    {r : Except ChargerError Detection} (hkept : Bookkept (begun s₀ n now) s)
    (hstarted : started = s₀.startedAt now)
    (h : (do
      let status ← orFail request "detect.read_status" (readReg apsdStatus request)
      let result ← readResult status request
      Proc.modify fun charger => { charger with attempts := satAdd 8 charger.attempts 1 }
      concludeDetection request status result (now - started) :
        ChargerM Detection).Yields s t r s') :
    DetectExit s₀ now t r s' ∧ s'.config = s₀.config ∧
      s'.detectStartedMs = some (s₀.startedAt now) := by
  subst hstarted
  -- what holds after any quiet reads that ended with this status
  have hpolled {u : List (Event ChargerEffect)} {status : Byte} {s₁ : Charger}
      (hu : statusReads u = [status] ∧ rerunReasons u = [] ∧ rerunWrites u = 0)
      (h₁ : Bookkept s s₁) :
      Polled s₀ now u status { s₁ with attempts := satAdd 8 s₁.attempts 1 } :=
    have hall := hkept.trans h₁
    ⟨hall.config, hall.state, hall.adapter, hall.reruns, hall.detectStartedMs, hu.1, hu.2.1,
      hu.2.2⟩
  -- each of the two reads may lose the link, which faults the charger
  rcases orFail_bind h with ⟨t₁, t', status, s₁, rfl, hread, hrest⟩ | hlost
  · have hfirst := readReg_yields hread
    have hstatus : statusReads t₁ = [status] := hfirst.statusReads
    by_cases hdone : status &&& apsdDtcStatusDone ≠ 0
    · rw [readResult, if_pos hdone] at hrest
      rcases orFail_bind hrest with ⟨t₂, t₃, result, s₂, rfl, hread₂, hlast⟩ | hlost
      · have hsecond := readReg_yields hread₂
        have hplain := hsecond.plain (by decide)
        rw [← List.append_assoc]
        refine concludeDetection_yields (hpolled ⟨?_, ?_, ?_⟩
          (hfirst.bookkept.trans hsecond.bookkept)) hlast.modify_bind
        · rw [statusReads_append, hstatus, hplain.statusReads]
          rfl
        · rw [rerunReasons_append, hfirst.rerunReasons, hplain.rerunReasons]
          rfl
        · rw [rerunWrites_append, hfirst.rerunWrites, hplain.rerunWrites]
      · obtain ⟨err, t₂, t₃, s₂, rfl, rfl, hread₂, hfault, hquiet⟩ := hlost
        have hsecond := readReg_yields hread₂
        have hplain := (hsecond.plain (by decide)).append hquiet.plain
        have hcomplete : Complete status := hdone
        have hall := hkept.trans (hfirst.bookkept.trans hsecond.bookkept)
        refine linkLost_exit (hall.faulted hfault) (hsecond.failure err rfl) ?_ ?_ ?_
        · rw [statusReads_append, hstatus, hplain.statusReads]
          simpa using hcomplete
        · rw [rerunReasons_append, hfirst.rerunReasons, hplain.rerunReasons]
          rfl
        · rw [rerunWrites_append, hfirst.rerunWrites, hplain.rerunWrites]
    · rw [readResult, if_neg hdone, Proc.pure_bind] at hrest
      exact concludeDetection_yields (hpolled ⟨hstatus, hfirst.rerunReasons, hfirst.rerunWrites⟩
        hfirst.bookkept) hrest.modify_bind
  · obtain ⟨err, t₂, t₃, s₁, rfl, rfl, hread, hfault, hquiet⟩ := hlost
    have hfirst := readReg_yields hread
    have hall := hkept.trans hfirst.bookkept
    refine linkLost_exit (hall.faulted hfault) (hfirst.failure err rfl) ?_ ?_ ?_
    · rw [statusReads_append, hfirst.statusReads, hquiet.plain.statusReads]
      exact fun status hmem => nomatch hmem
    · rw [rerunReasons_append, hfirst.rerunReasons, hquiet.rerunReasons]
      rfl
    · rw [rerunWrites_append, hfirst.rerunWrites, hquiet.plain.rerunWrites]

/-- What a detection step of an open session does. -/
theorem detectStep_yields {r : Except ChargerError Detection} (hopen : s.state ≠ .closed)
    (h : detectStep.Yields s t r s') : ∃ now, DetectStep s t r s' now := by
  -- the session is open, so the guard is passed
  replace h := Proc.Yields.get_bind h
  rw [if_neg hopen] at h
  obtain ⟨t₁, t', request, s₁, rfl, hrequest, hclock⟩ | ⟨e, -, hrequest⟩ := h.bind_cases
  · obtain ⟨rfl, -, n, rfl⟩ := nextRequest_yields hrequest
    obtain ⟨t₁, t', now, s₁, rfl, hnow, hbegin⟩ | ⟨e, -, hnow⟩ := hclock.bind_cases
    · obtain ⟨now, rfl, heq, rfl⟩ := nowMs_yields hnow
      cases heq
      obtain ⟨t₂, t', started, s₂, rfl, hbegun, hpolls⟩ | ⟨e, -, hbegun⟩ := hbegin.bind_cases
      · -- the start of the detection logs, so only the polls can end the call
        obtain ⟨heq, hquiet, hkept⟩ := beginDetection_yields hbegun
        have hstarted : started = s.startedAt now := Except.ok.inj heq
        have hkept' : Bookkept (begun s n now) s₂ := hkept
        obtain ⟨hexit, hconfig, hstarted⟩ := polls_yields hkept' hstarted hpolls
        refine ⟨now, rfl, hconfig, hstarted, ?_⟩
        exact .of_quiet (u := [⟨.nowMs, now⟩]) ⟨rfl, rfl⟩ (.of_quiet hquiet hexit)
      · nomatch (beginDetection_yields hbegun).1
    · obtain ⟨now, -, heq, -⟩ := nowMs_yields hnow
      nomatch heq
  · obtain ⟨-, ⟨_, heq⟩, -⟩ := nextRequest_yields hrequest
    nomatch heq

end Charger

/-! ### The other operations -/

/-- What an operation that is no part of a detection leaves alone. -/
structure Aside (s : Charger) (t : List (Event ChargerEffect)) (s' : Charger) : Prop where
  config : s'.config = s.config
  started : s'.detectStartedMs = s.detectStartedMs
  reruns : s'.reruns = s.reruns
  reasons : rerunReasons t = []
  writes : rerunWrites t = 0

/-- The current `apply` may set for a policy. -/
def ChargerConfig.allowedUa (config : ChargerConfig) (policy : ChargePolicy) : Nat :=
  min policy.iclUa config.maxIclUa

/-- The plan `apply` returns. -/
structure Planned (s : Charger) (adapter : AdapterType) (plan : ChargePlan) : Prop where
  forAdapter : plan.adapter = adapter
  policy : plan.policy = policyFor adapter s.config.qc35
  applied : plan.appliedIclUa = s.config.icl.quantizeDown (s.config.allowedUa plan.policy)
  encoded : s.config.icl.encode plan.appliedIclUa = .ok plan.iclRaw

/-- `apply` on an open session. -/
structure Apply (s : Charger) (adapter : AdapterType) (t : List (Event ChargerEffect))
    (r : Except ChargerError ChargePlan) (s' : Charger) : Prop where
  aside : Aside s t s'
  status : statusReads t = []
  ends : (∃ plan, r = .ok plan ∧ Planned s adapter plan ∧ s'.state = .ready ∧
      s'.adapter = some adapter) ∨
    ∃ err, r = .error err ∧ s'.state = .faulted ∧ s'.adapter = s.adapter

/-- The ways a poll can end. -/
inductive PollExit (s : Charger) (t : List (Event ChargerEffect)) :
    Except ChargerError Monitor → Charger → Prop
  /-- A register could not be read or made sense of. -/
  | failed {err : ChargerError} {s' : Charger}
      (hstatus : ∀ status ∈ statusReads t, Complete status)
      (hstate : s'.state = .faulted) (hadapter : s'.adapter = s.adapter) :
      PollExit s t (.error err) s'
  /-- Detection is not complete: the adapter is gone. -/
  | detached {status : Byte} {s' : Charger}
      (hstatus : statusReads t = [status]) (hpending : ¬Complete status)
      (hstate : s'.state = s.state) (hadapter : s'.adapter = none) :
      PollExit s t (.ok .detached) s'
  /-- The registers name an adapter. -/
  | answered {adapter : AdapterType} {s' : Charger}
      (hstatus : ∀ status ∈ statusReads t, Complete status)
      (hstate : s'.state = s.state) (hadapter : s'.adapter = some adapter) :
      PollExit s t
        (.ok (if s.adapter = some adapter then .unchanged adapter else .changed adapter)) s'

/-- `monitor` on an open session. -/
structure Poll (s : Charger) (t : List (Event ChargerEffect)) (r : Except ChargerError Monitor)
    (s' : Charger) : Prop where
  aside : Aside s t s'
  ends : PollExit s t r s'

/-- Whether the link reset of an exchange succeeded. -/
def resetOf : (o : ChargerOp) → ChargerEffect.Resp o → Option Bool
  | .reset, answer => some (show Except TransportError Unit from answer).isOk
  | .read _, _ => none
  | .write _ _, _ => none
  | .name, _ => none
  | .nowMs, _ => none
  | .event _, _ => none

/-- Whether the link resets of a trace succeeded, in order. -/
def resets (t : List (Event ChargerEffect)) : List Bool :=
  t.filterMap fun e => resetOf e.op e.resp

/-- What the link check says of the values it read. -/
structure Probed (t : List (Event ChargerEffect)) (r : Except ChargerError Unit) : Prop where
  reasons : rerunReasons t = []
  writes : rerunWrites t = 0
  answers : r = .ok () ↔ ∃ status ∈ statusReads t, status ≠ 0xFF
  failure : ∀ err, r = .error err → err ≠ .notOpen

/-- The ways `reinit` can end. -/
inductive ReinitExit (s : Charger) (t : List (Event ChargerEffect)) :
    Except ChargerError Unit → Charger → Prop
  /-- The link does not come back. -/
  | resetFailed {err : ChargerError} {s' : Charger} (hreset : (resets t).head? = some false)
      (hreasons : rerunReasons t = []) (hwrites : rerunWrites t = 0)
      (hstate : s'.state = .faulted) (hadapter : s'.adapter = s.adapter)
      (hstarted : s'.detectStartedMs = s.detectStartedMs) (hreruns : s'.reruns = s.reruns) :
      ReinitExit s t (.error err) s'
  /-- The link is back and is checked. -/
  | probed {r : Except ChargerError Unit} {s' : Charger} (hreset : (resets t).head? = some true)
      (hprobe : Probed t r) (hstate : s'.state = .idle) (hadapter : s'.adapter = none)
      (hstarted : s'.detectStartedMs = none) (hreruns : s'.reruns = 0) : ReinitExit s t r s'

/-- `reinit` on an open session. -/
structure Reinit (s : Charger) (t : List (Event ChargerEffect)) (r : Except ChargerError Unit)
    (s' : Charger) : Prop where
  config : s'.config = s.config
  ends : ReinitExit s t r s'

/-- `close` on an open session. -/
structure Close (s : Charger) (t : List (Event ChargerEffect)) (r : Except ChargerError Unit)
    (s' : Charger) : Prop where
  aside : Aside s t s'
  returns : r = .ok ()
  state : s'.state = .closed

namespace Charger

variable {s s' : Charger} {t : List (Event ChargerEffect)}

/-- Register accesses next to the detection: what they show, and how they end on a session that
faults when one fails. -/
structure Served {α : Type} (s : Charger) (t : List (Event ChargerEffect))
    (r : Except ChargerError α) (s' : Charger) : Prop where
  plain : Plain t
  ends : (∃ value, r = .ok value ∧ Bookkept s s') ∨
    ∃ err, r = .error err ∧ Bookkept { s with state := .faulted } s'

/-- A value is returned without an access. -/
theorem Served.pure {α : Type} (value : α) : Served s [] (.ok value) s :=
  ⟨Quiet.nil.plain, .inl ⟨value, rfl, .refl s⟩⟩

/-- One access after another. -/
theorem Served.bind {α β : Type} {x : ChargerM α} {f : α → ChargerM β}
    {r : Except ChargerError β}
    (hx : ∀ {t r s'}, x.Yields s t r s' → Served s t r s')
    (hf : ∀ {value s t r s'}, (f value).Yields s t r s' → Served s t r s')
    (h : (x >>= f).Yields s t r s') : Served s t r s' := by
  obtain ⟨t₁, t₂, value, s₁, rfl, hfirst, hrest⟩ | ⟨err, rfl, hfirst⟩ := h.bind_cases
  · obtain ⟨hplain, ⟨_, -, hkept⟩ | ⟨err, herr, -⟩⟩ := hx hfirst
    · -- the second half starts where a success of the first left the charger
      obtain ⟨hplain', hends⟩ := hf hrest
      refine ⟨hplain.append hplain', ?_⟩
      rcases hends with ⟨value, rfl, hkept'⟩ | ⟨err, rfl, hfault⟩
      · exact .inl ⟨value, rfl, hkept.trans hkept'⟩
      · exact .inr ⟨err, rfl, hkept.faulted hfault⟩
    · nomatch herr
  · -- the first half failed: the second does not run
    obtain ⟨hplain, ⟨_, heq, -⟩ | ⟨err', heq, hfault⟩⟩ := hx hfirst
    · nomatch heq
    · cases heq
      exact ⟨hplain, .inr ⟨err, rfl, hfault⟩⟩

/-- An access whose failure faults the session. -/
theorem served_of_orFail {α : Type} {request : Nat} {op : String} {x : ChargerM α}
    {r : Except ChargerError α}
    (hx : ∀ {t r s'}, x.Yields s t r s' → Bookkept s s' ∧ Plain t)
    (h : (orFail request op x).Yields s t r s') : Served s t r s' := by
  rcases orFail_cases h with ⟨value, rfl, hyields⟩ | ⟨err, t₁, t₂, s₁, rfl, rfl, hyields, hrest⟩
  · exact ⟨(hx hyields).2, .inl ⟨value, rfl, (hx hyields).1⟩⟩
  · obtain ⟨hkept, hplain⟩ := hx hyields
    exact ⟨hplain.append hrest.2.plain, .inr ⟨err, rfl, hkept.faulted hrest.1⟩⟩

/-- `nextRequest` at the start of an operation. -/
theorem nextRequest_bind {α : Type} {f : Nat → ChargerM α} {r : Except ChargerError α}
    (h : (nextRequest >>= f).Yields s t r s') :
    ∃ request, (f request).Yields { s with requestId := request } t r s' :=
  ⟨satAdd 64 s.requestId 1, h⟩

/-- The bound of `apply` is the smaller of the two. -/
theorem bounded_eq (config : ChargerConfig) (policy : ChargePolicy) :
    (if config.maxIclUa < policy.iclUa then config.maxIclUa else policy.iclUa) =
      config.allowedUa policy := by
  simp only [ChargerConfig.allowedUa]
  split <;> omega

/-- A poll that failed. -/
theorem failed_poll {n : Nat} {err : ChargerError} {r : Except ChargerError Monitor}
    (hr : r = .error err)
    (hfault : Bookkept { s with requestId := n, state := .faulted } s')
    (hstatus : ∀ status ∈ statusReads t, Complete status) (hreasons : rerunReasons t = [])
    (hwrites : rerunWrites t = 0) : Poll s t r s' := by
  subst hr
  exact ⟨⟨hfault.config, hfault.detectStartedMs, hfault.reruns, hreasons, hwrites⟩,
    .failed hstatus hfault.state hfault.adapter⟩

/-- What `compareAdapter` answers. -/
theorem compareAdapter_yields {request : Nat} {status result : Byte} {adapter : AdapterType}
    {r : Except ChargerError Monitor}
    (h : (compareAdapter request status result adapter).Yields s t r s') :
    r = .ok (if s.adapter = some adapter then .unchanged adapter else .changed adapter) ∧
      Bookkept { s with adapter := some adapter } s' ∧ Quiet t := by
  replace h := (Proc.Yields.get_bind h).modify_bind
  by_cases hsame : s.adapter = some adapter
  · -- the same adapter is not logged again
    rw [if_pos hsame] at h
    obtain ⟨rfl, rfl, rfl⟩ := h.pure_cases
    rw [if_pos hsame]
    exact ⟨rfl, .refl _, .nil⟩
  · rw [if_neg hsame] at h
    rw [if_neg hsame]
    obtain ⟨t₁, t₂, a, s₁, rfl, hlog, hpure⟩ | ⟨e, -, hlog⟩ := h.bind_cases
    · obtain ⟨-, hkept, hquiet⟩ := log_quiet rfl hlog
      obtain ⟨rfl, rfl, rfl⟩ := hpure.pure_cases
      exact ⟨rfl, hkept, hquiet.append .nil⟩
    · nomatch (log_quiet rfl hlog).1

section
variable [LoopFuel]

/-- The registers of a plan are updated one after the other, and the first failure ends the call. -/
theorem applyRegisters_yields {request : Nat} {policy : ChargePolicy} {iclRaw : Byte}
    {r : Except ChargerError Unit} (h : (applyRegisters request policy iclRaw).Yields s t r s') :
    Served s t r s' := by
  have hupdate {addr : RegAddr} {mask value : Byte} {op : String} {s s' : Charger}
      {t : List (Event ChargerEffect)} {r : Except ChargerError Unit}
      (hstatus : addr ≠ apsdStatus) (hcmd : addr ≠ cmdApsd)
      (h : (orFail request op (updateReg addr mask value request)).Yields s t r s') :
      Served s t r s' :=
    served_of_orFail (fun hx =>
      ⟨(updateReg_yields hx).bookkept, (updateReg_yields hx).plain hstatus hcmd⟩) h
  refine Served.bind (fun hx => served_of_orFail (fun hy =>
    ⟨(writeReg_yields hy).bookkept, (writeReg_yields hy).plain (by decide) (by decide)⟩) hx)
    (fun hrest => Served.bind (fun hx => hupdate (by decide) (by decide) hx) (fun hlast => ?_)
      hrest) h
  -- the last write is made only for a QC 2.0 policy
  cases hvoltage : policy.qc2Voltage with
  | none =>
      rw [hvoltage] at hlast
      obtain ⟨rfl, rfl, rfl⟩ := Proc.Yields.pure_cases hlast
      exact .pure ()
  | some voltage =>
      rw [hvoltage] at hlast
      exact hupdate (by decide) (by decide) hlast

/-- What `apply` does on an open session. -/
theorem apply_yields {adapter : AdapterType} {r : Except ChargerError ChargePlan}
    (hopen : s.state ≠ .closed) (h : (apply adapter).Yields s t r s') : Apply s adapter t r s' := by
  replace h := Proc.Yields.get_bind h
  rw [if_neg hopen] at h
  obtain ⟨request, h⟩ := nextRequest_bind h
  dsimp only at h
  rw [bounded_eq] at h
  -- the limit may have no code on the grid, which fails before any transfer
  rcases orFail_bind h with ⟨t₁, t', iclRaw, s₁, rfl, hencode, hrest⟩ | hfailed
  · obtain ⟨rfl, hcode, rfl⟩ := hencode.ofExcept_cases
    obtain ⟨t₂, t', a, s₂, rfl, hregisters, hlast⟩ | ⟨err, rfl, hregisters⟩ := hrest.bind_cases
    · obtain ⟨hplain, ⟨_, -, hkept⟩ | ⟨err, herr, -⟩⟩ := applyRegisters_yields hregisters
      · replace hlast := hlast.modify_bind
        obtain ⟨t₃, t', b, s₃, rfl, hmove, hrecord⟩ | ⟨e, -, hmove⟩ := hlast.bind_cases
        · obtain ⟨-, hmoved, hquiet⟩ := transition_yields hmove
          obtain ⟨t₄, t₅, c, s₄, rfl, hlog, hpure⟩ | ⟨e, -, hlog⟩ := hrecord.bind_cases
          · obtain ⟨-, hlogged, hquiet'⟩ := log_quiet rfl hlog
            obtain ⟨rfl, rfl, rfl⟩ := hpure.pure_cases
            have hall := hplain.append (hquiet.append (hquiet'.append .nil)).plain
            have hlate := hmoved.trans hlogged
            exact {
              aside := ⟨hlate.config.trans hkept.config,
                hlate.detectStartedMs.trans hkept.detectStartedMs,
                hlate.reruns.trans hkept.reruns, hall.rerunReasons, hall.rerunWrites⟩
              status := hall.statusReads
              ends := .inl ⟨_, rfl, ⟨rfl, rfl, rfl, hcode.symm⟩, hlate.state, hlate.adapter⟩ }
          · nomatch (log_quiet rfl hlog).1
        · nomatch (transition_yields hmove).1
      · nomatch herr
    · obtain ⟨hplain, ⟨_, heq, -⟩ | ⟨err', -, hfault⟩⟩ := applyRegisters_yields hregisters
      · nomatch heq
      · exact {
          aside := ⟨hfault.config, hfault.detectStartedMs, hfault.reruns, hplain.rerunReasons,
            hplain.rerunWrites⟩
          status := hplain.statusReads
          ends := .inr ⟨err, rfl, hfault.state, hfault.adapter⟩ }
  · obtain ⟨err, t₁, t₂, s₁, rfl, rfl, hencode, hfault, hquiet⟩ := hfailed
    obtain ⟨rfl, -, rfl⟩ := hencode.ofExcept_cases
    exact {
      aside := ⟨hfault.config, hfault.detectStartedMs, hfault.reruns, hquiet.rerunReasons,
        hquiet.plain.rerunWrites⟩
      status := hquiet.plain.statusReads
      ends := .inr ⟨err, rfl, hfault.state, hfault.adapter⟩ }

/-- What `monitor` does on an open session. -/
theorem monitor_yields {r : Except ChargerError Monitor} (hopen : s.state ≠ .closed)
    (h : monitor.Yields s t r s') : Poll s t r s' := by
  replace h := Proc.Yields.get_bind h
  rw [if_neg hopen] at h
  obtain ⟨request, h⟩ := nextRequest_bind h
  rcases orFail_bind h with ⟨t₁, t', status, s₁, rfl, hread, hrest⟩ | hlost
  · have hfirst := readReg_yields hread
    have hkept := hfirst.bookkept
    have hstatus : statusReads t₁ = [status] := hfirst.statusReads
    -- a status that is not done means the adapter is gone: no second read
    by_cases hpending : status &&& apsdDtcStatusDone = 0
    · rw [if_pos hpending] at hrest
      obtain ⟨rfl, rfl, rfl⟩ := (Proc.Yields.modify_bind hrest).pure_cases
      rw [List.append_nil]
      exact ⟨⟨hkept.config, hkept.detectStartedMs, hkept.reruns, hfirst.rerunReasons,
        hfirst.rerunWrites⟩, .detached hstatus (fun hc => hc hpending) hkept.state rfl⟩
    · rw [if_neg hpending] at hrest
      have hcomplete : Complete status := hpending
      rcases orFail_bind hrest with ⟨t₂, t₃, result, s₂, rfl, hread₂, hlast⟩ | hlost
      · have hsecond := readReg_yields hread₂
        have hplain := hsecond.plain (by decide)
        have hboth := hkept.trans hsecond.bookkept
        have hshown {u : List (Event ChargerEffect)} (hu : Quiet u) :
            (∀ v ∈ statusReads (t₁ ++ (t₂ ++ u)), Complete v) ∧
              rerunReasons (t₁ ++ (t₂ ++ u)) = [] ∧ rerunWrites (t₁ ++ (t₂ ++ u)) = 0 := by
          have hlate := hplain.append hu.plain
          refine ⟨?_, ?_, ?_⟩
          · rw [statusReads_append, hstatus, hlate.statusReads]
            simpa using hcomplete
          · rw [rerunReasons_append, hfirst.rerunReasons, hlate.rerunReasons]
            rfl
          · rw [rerunWrites_append, hfirst.rerunWrites, hlate.rerunWrites]
        -- the adapter in both registers is compared with the recorded one
        rcases AdapterType.decode_cases status result s.config.qc35 with
          ⟨hno, -⟩ | ⟨-, hdecode | ⟨raw, hdecode⟩ | ⟨adapter, hdecode⟩⟩
        · exact absurd hno hpending
        · rw [hdecode] at hlast
          obtain ⟨rfl, hfault, hquiet⟩ := fail_yields hlast
          obtain ⟨hcompletes, hreasons, hwrites⟩ := hshown hquiet
          exact failed_poll rfl (hboth.faulted hfault) hcompletes hreasons hwrites
        · rw [hdecode] at hlast
          obtain ⟨rfl, hfault, hquiet⟩ := fail_yields hlast
          obtain ⟨hcompletes, hreasons, hwrites⟩ := hshown hquiet
          exact failed_poll rfl (hboth.faulted hfault) hcompletes hreasons hwrites
        · rw [hdecode] at hlast
          obtain ⟨rfl, hlate, hquiet⟩ := compareAdapter_yields hlast
          obtain ⟨hcompletes, hreasons, hwrites⟩ := hshown hquiet
          have hadapter : s₂.adapter = s.adapter := hboth.adapter
          rw [hadapter]
          exact ⟨⟨hlate.config.trans hboth.config,
            hlate.detectStartedMs.trans hboth.detectStartedMs, hlate.reruns.trans hboth.reruns,
            hreasons, hwrites⟩, .answered hcompletes (hlate.state.trans hboth.state)
            hlate.adapter⟩
      · obtain ⟨err, t₂, t₃, s₂, rfl, rfl, hread₂, hfault, hquiet⟩ := hlost
        have hsecond := readReg_yields hread₂
        have hplain := (hsecond.plain (by decide)).append hquiet.plain
        refine failed_poll rfl ((hkept.trans hsecond.bookkept).faulted hfault) ?_ ?_ ?_
        · rw [statusReads_append, hstatus, hplain.statusReads]
          simpa using hcomplete
        · rw [rerunReasons_append, hfirst.rerunReasons, hplain.rerunReasons]
          rfl
        · rw [rerunWrites_append, hfirst.rerunWrites, hplain.rerunWrites]
  · obtain ⟨err, t₂, t₃, s₁, rfl, rfl, hread, hfault, hquiet⟩ := hlost
    have hfirst := readReg_yields hread
    refine failed_poll rfl (hfirst.bookkept.faulted hfault) ?_ ?_ ?_
    · rw [statusReads_append, hfirst.statusReads, hquiet.plain.statusReads]
      exact fun status hmem => nomatch hmem
    · rw [rerunReasons_append, hfirst.rerunReasons, hquiet.rerunReasons]
      rfl
    · rw [rerunWrites_append, hfirst.rerunWrites, hquiet.plain.rerunWrites]

/-- The link check: bookkeeping, one read of `APSD_STATUS`, and its verdict. -/
theorem probe_yields {r : Except ChargerError Unit} (h : probe.Yields s t r s') :
    (∃ request, Bookkept { s with requestId := request } s') ∧ Probed t r := by
  obtain ⟨request, h⟩ := nextRequest_bind h
  obtain ⟨t₁, t₂, status, s₁, rfl, hread, hrest⟩ | ⟨err, rfl, hread⟩ := h.bind_cases
  · have hfirst := readReg_yields hread
    have hstatus : statusReads t₁ = [status] := hfirst.statusReads
    -- a bus that floats reads all ones: the charger is not there
    by_cases hunread : status = 0xFF
    · rw [if_pos hunread] at hrest
      obtain ⟨rfl, rfl, rfl⟩ := hrest.fail_cases
      rw [List.append_nil]
      refine ⟨⟨request, hfirst.bookkept⟩, hfirst.rerunReasons, hfirst.rerunWrites, ?_, ?_⟩
      · rw [hstatus]
        simpa using hunread
      · intro err herr
        cases herr
        decide
    · rw [if_neg hunread] at hrest
      obtain ⟨rfl, rfl, rfl⟩ := hrest.pure_cases
      rw [List.append_nil]
      refine ⟨⟨request, hfirst.bookkept⟩, hfirst.rerunReasons, hfirst.rerunWrites, ?_,
        fun err herr => nomatch herr⟩
      rw [hstatus]
      simpa using hunread
  · have hfirst := readReg_yields hread
    refine ⟨⟨request, hfirst.bookkept⟩, hfirst.rerunReasons, hfirst.rerunWrites, ?_, ?_⟩
    · rw [hfirst.statusReads]
      simp [Except.toOption]
    · intro err' herr
      cases herr
      exact (hfirst.failure err rfl).ne_notOpen

/-- What `reinit` does on an open session. -/
theorem reinit_yields {r : Except ChargerError Unit} (hopen : s.state ≠ .closed)
    (h : reinit.Yields s t r s') : Reinit s t r s' := by
  replace h := Proc.Yields.get_bind h
  rw [if_neg hopen] at h
  obtain ⟨request, h⟩ := nextRequest_bind h
  obtain ⟨answer, t', rfl, hcounted⟩ := h.perform_bind
  obtain ⟨s₀, hkept₀, hlogged⟩ := count_bind hcounted
  obtain ⟨t₁, t₂, a, s₁, rfl, hlog, hrest⟩ | ⟨e, -, hlog⟩ := hlogged.bind_cases
  · obtain ⟨-, hkept₁, hquiet⟩ := log_quiet rfl hlog
    have hkept := hkept₀.trans hkept₁
    -- a reset that fails faults the charger, else it is probed again
    cases answer with
    | error err =>
        obtain ⟨rfl, hfault, hquiet'⟩ := fail_yields hrest
        have hall := hquiet.append hquiet'
        have hdown := hkept.faulted hfault
        exact ⟨hdown.config, .resetFailed rfl hall.rerunReasons hall.plain.rerunWrites hdown.state
          hdown.adapter hdown.detectStartedMs hdown.reruns⟩
    | ok u =>
        replace hrest := Proc.Yields.modify_bind hrest
        obtain ⟨t₃, t₄, b, s₂, rfl, hmove, hprobe⟩ | ⟨e, -, hmove⟩ := hrest.bind_cases
        · obtain ⟨-, hmoved, hquiet'⟩ := transition_yields hmove
          obtain ⟨⟨n, hlate⟩, hprobed⟩ := probe_yields hprobe
          have hall := (hquiet.append hquiet').plain
          refine ⟨hlate.config.trans (hmoved.config.trans hkept.config),
            .probed rfl ⟨?_, ?_, ?_, hprobed.failure⟩
              (hlate.state.trans hmoved.state) (hlate.adapter.trans hmoved.adapter)
              (hlate.detectStartedMs.trans hmoved.detectStartedMs)
              (hlate.reruns.trans hmoved.reruns)⟩
          · show rerunReasons (t₁ ++ (t₃ ++ t₄)) = []
            rw [← List.append_assoc, rerunReasons_append, hall.rerunReasons, hprobed.reasons]
            rfl
          · show rerunWrites (t₁ ++ (t₃ ++ t₄)) = 0
            rw [← List.append_assoc, rerunWrites_append, hall.rerunWrites, hprobed.writes]
          · -- the probe decides the outcome, so the equivalence is the probe's
            show r = .ok () ↔ ∃ status ∈ statusReads (t₁ ++ (t₃ ++ t₄)), status ≠ 0xFF
            rw [← List.append_assoc, statusReads_append, hall.statusReads, List.nil_append]
            exact hprobed.answers
        · nomatch (transition_yields hmove).1
  · nomatch (log_quiet rfl hlog).1

/-- What `close` does on an open session. -/
theorem close_yields {r : Except ChargerError Unit} (hopen : s.state ≠ .closed)
    (h : close.Yields s t r s') : Close s t r s' := by
  replace h := Proc.Yields.get_bind h
  rw [if_neg hopen] at h
  obtain ⟨request, h⟩ := nextRequest_bind h
  obtain ⟨t₁, t', out, s₁, rfl, hsafe, hrest⟩ := h.attempt_bind
  -- the limit goes to the safe value whether or not that write succeeds
  have hwritten : Bookkept { s with requestId := request } s₁ ∧ Plain t₁ := by
    obtain ⟨t₂, t₃, raw, s₂, rfl, hencode, hwrite⟩ | ⟨err, rfl, hencode⟩ := hsafe.bind_cases
    · obtain ⟨rfl, -, rfl⟩ := hencode.ofExcept_cases
      have hspec := writeReg_yields hwrite
      exact ⟨hspec.bookkept, hspec.plain (by decide) (by decide)⟩
    · obtain ⟨rfl, -, rfl⟩ := hencode.ofExcept_cases
      exact ⟨.refl _, Quiet.nil.plain⟩
  obtain ⟨hkept, hplain⟩ := hwritten
  obtain ⟨t₂, t₃, a, s₂, rfl, hmove, hlog⟩ | ⟨e, -, hmove⟩ := hrest.bind_cases
  · obtain ⟨-, hmoved, hquiet⟩ := transition_yields hmove
    obtain ⟨rfl, hlogged, hquiet'⟩ := log_quiet rfl hlog
    have hlate := hmoved.trans hlogged
    have hall := hplain.append (hquiet.append hquiet').plain
    exact ⟨⟨hlate.config.trans hkept.config, hlate.detectStartedMs.trans hkept.detectStartedMs,
      hlate.reruns.trans hkept.reruns, hall.rerunReasons, hall.rerunWrites⟩, rfl, hlate.state⟩
  · nomatch (transition_yields hmove).1

/-- What a session that opened starts with. -/
theorem openSession_yields {config : ChargerConfig}
    (h : openSession.Yields (new config) t (.ok ()) s) :
    s.config = config ∧ s.state = .idle ∧ s.adapter = none ∧ s.detectStartedMs = none ∧
      s.reruns = 0 ∧ rerunReasons t = [] ∧ rerunWrites t = 0 := by
  obtain ⟨request, h⟩ := nextRequest_bind h
  obtain ⟨name, t', rfl, hreset⟩ := h.perform_bind
  obtain ⟨answer, t', rfl, hlogged⟩ := hreset.perform_bind
  obtain ⟨t₁, t', a, s₁, rfl, hlog, hrest⟩ | ⟨e, -, hlog⟩ := hlogged.bind_cases
  · obtain ⟨-, hkept, hquiet⟩ := log_quiet rfl hlog
    obtain ⟨t₂, t', out, s₂, rfl, hprobe, hlast⟩ := hrest.attempt_bind
    obtain ⟨⟨n, hprobed⟩, hshown⟩ := probe_yields hprobe
    -- the session opens only on a probe that succeeded
    cases out with
    | ok u =>
        obtain ⟨t₃, t₄, b, s₃, rfl, hmove, hlog₂⟩ | ⟨e, -, hmove⟩ := hlast.bind_cases
        · obtain ⟨-, hmoved, hquiet'⟩ := transition_yields hmove
          obtain ⟨-, hlogged₂, hquiet''⟩ := log_quiet rfl hlog₂
          have hlate := hmoved.trans hlogged₂
          have hquiets := hquiet'.append hquiet''
          refine ⟨hlate.config.trans (hprobed.config.trans hkept.config), hlate.state,
            hlate.adapter.trans (hprobed.adapter.trans hkept.adapter),
            hlate.detectStartedMs.trans (hprobed.detectStartedMs.trans hkept.detectStartedMs),
            hlate.reruns.trans (hprobed.reruns.trans hkept.reruns), ?_, ?_⟩
          · show rerunReasons (t₁ ++ (t₂ ++ (t₃ ++ t₄))) = []
            rw [rerunReasons_append, rerunReasons_append, hquiet.rerunReasons, hshown.reasons,
              hquiets.rerunReasons]
            rfl
          · show rerunWrites (t₁ ++ (t₂ ++ (t₃ ++ t₄))) = 0
            rw [rerunWrites_append, rerunWrites_append, hquiet.plain.rerunWrites, hshown.writes,
              hquiets.plain.rerunWrites]
        · nomatch (transition_yields hmove).1
    | error err =>
        obtain ⟨s₃, -, hrecord⟩ := count_bind hlast
        obtain ⟨t₃, t₄, b, s₄, -, -, hlate⟩ | ⟨e, heq, -⟩ := hrecord.bind_cases
        · obtain ⟨t₅, t₆, c, s₅, -, -, hfail⟩ | ⟨e, heq, -⟩ := hlate.bind_cases
          · nomatch hfail.fail_cases.2.1
          · nomatch heq
        · nomatch heq
  · nomatch (log_quiet rfl hlog).1

end

end Charger

end ChargerCore
