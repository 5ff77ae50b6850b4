import NabuCharger.Core.Session

/-!
# `Core.Recognition`: the adapter the registers name

A session recognises an adapter from two registers: `APSD_STATUS`, and `APSD_RESULT_STATUS` when
the detection is complete. `ApsdView` keeps what the session last read of them, and
`ApsdView.adapter` is the adapter they name.

`Unseen config adapter view x` says that `x` reads neither register and leaves the settings and
the recorded adapter alone. Against that, `detectStep_sees` and `monitor_sees` say that the
adapter they record is the one the registers name, and that without one they record none.
-/

set_option autoImplicit false

namespace ChargerCore

open Effectful

/-- What was last read of the two registers. A read of the status begins a new look. -/
structure ApsdView where
  status : Option Byte
  result : Option Byte
  deriving DecidableEq, Repr

namespace ApsdView

/-- Neither register was read. -/
def start : ApsdView := ⟨none, none⟩

/-- A register was read. -/
def read (view : ApsdView) (addr : RegAddr) (value : Byte) : ApsdView :=
  if addr = apsdStatus then ⟨some value, none⟩
  else if addr = apsdResultStatus then { view with result := some value }
  else view

/-- The adapter the two registers name. -/
def adapter (view : ApsdView) (qc35 : Qc35Support) : Option AdapterType :=
  match view.status, view.result with
  | some status, some result => (AdapterType.decode status result qc35).toOption
  | _, _ => none

/-- An exchange updates the view, if it is a successful read. -/
def next (view : ApsdView) : (o : ChargerOp) → ChargerEffect.Resp o → ApsdView
  | .read addr, answer =>
      match (show Except TransportError Byte from answer) with
      | .ok value => view.read addr value
      | .error _ => view
  | .write _ _, _ => view
  | .name, _ => view
  | .reset, _ => view
  | .nowMs, _ => view
  | .event _, _ => view

/-- Another register. -/
theorem read_of_ne (view : ApsdView) {addr : RegAddr} {value : Byte}
    (hstatus : addr ≠ apsdStatus) (hresult : addr ≠ apsdResultStatus) :
    view.read addr value = view := by
  rw [read, if_neg hstatus, if_neg hresult]

/-- A new status makes the old result worthless. -/
theorem read_status (view : ApsdView) (value : Byte) :
    view.read apsdStatus value = ⟨some value, none⟩ :=
  if_pos rfl

/-- A result belongs to the status before it. -/
theorem read_result (view : ApsdView) (value : Byte) :
    view.read apsdResultStatus value = { view with result := some value } := by
  rw [read, if_neg (by decide), if_pos rfl]

end ApsdView

/-- The watch on the two registers. Nothing is asked of either side. -/
def apsdWatch : Machine ChargerEffect where
  State := ApsdView
  allow _ _ _ := True
  require _ _ := True
  next := ApsdView.next

/-- The view takes any answer. -/
theorem apsdWatch_allowed {t : List (Event ChargerEffect)} : ∀ view, apsdWatch.Allowed view t := by
  induction t with
  | nil => exact fun _ => trivial
  | cons e t ih => exact fun _ => ⟨trivial, ih _⟩

/-- A session with these settings and this adapter, that has seen `view`. -/
structure Sees (config : ChargerConfig) (adapter : Option AdapterType) (view : ApsdView)
    (s : Charger) (m : apsdWatch.State) : Prop where
  config : s.config = config
  adapter : s.adapter = adapter
  view : m = view

/-- A program that reads neither register and leaves the settings and the adapter alone. -/
abbrev Unseen {α : Type} (config : ChargerConfig) (adapter : Option AdapterType) (view : ApsdView)
    (x : ChargerM α) : Prop :=
  Proc.Keeps apsdWatch (Sees config adapter view) x

namespace Charger

variable {config : ChargerConfig} {adapter : Option AdapterType} {view : ApsdView}

/-- A change of the session's other fields is not seen. -/
theorem modify_unseen {f : Charger → Charger} (hconfig : ∀ s, (f s).config = s.config)
    (hadapter : ∀ s, (f s).adapter = s.adapter) :
    Unseen config adapter view (Proc.modify f : ChargerM Unit) :=
  .modify fun s _ h => ⟨(hconfig s).trans h.config, (hadapter s).trans h.adapter, h.view⟩

/-- Counting is not seen. -/
theorem count_unseen (f : Stats → Stats) : Unseen config adapter view (count f) :=
  modify_unseen (fun _ => rfl) fun _ => rfl

/-- An operation that is no read. -/
theorem perform_unseen {o : ChargerOp} (ho : ∀ view answer, ApsdView.next view o answer = view) :
    Unseen config adapter view
      (Proc.perform (E := ChargerEffect) o : ChargerM (ChargerEffect.Resp o)) :=
  .perform fun _ m h => ⟨trivial, fun r _ => ⟨h.config, h.adapter, (ho m r).trans h.view⟩⟩

/-- Reading the clock is not seen. -/
theorem nowMs_unseen : Unseen config adapter view nowMs :=
  perform_unseen (o := .nowMs) fun _ _ => rfl

/-- A journal record is not seen. -/
theorem log_unseen (request : Nat) (level : Level) (kind : EventKind) :
    Unseen config adapter view (log request level kind) :=
  .bind (modify_unseen (fun _ => rfl) fun _ => rfl) fun _ => .bind .get fun _ =>
    .bind nowMs_unseen fun _ => perform_unseen (o := .event _) fun _ _ => rfl

/-- A transition of the session is not seen. -/
theorem transition_unseen (target : State) : Unseen config adapter view (transition target) :=
  .get_bind fun _ _ _ => .ite (fun _ => .pure ()) fun _ =>
    .bind (modify_unseen (fun _ => rfl) fun _ => rfl) fun _ => log_unseen ..

/-- A record is always made. -/
theorem log_sees (request : Nat) (level : Level) (kind : EventKind) {s : Charger}
    {m : apsdWatch.State} (h : Sees config adapter view s m) :
    (log request level kind).wp apsdWatch
      (fun r s' m' => r = .ok () ∧ Sees config adapter view s' m') s m := by
  refine (Proc.wp_modify_bind s m _ _ _).2 ((Proc.wp_get_bind _ m _ _).2 ?_)
  refine (Proc.wp_perform_bind (M := apsdWatch) _ m ChargerOp.nowMs _ _).2 ⟨trivial, ?_⟩
  intro (tsMs : Nat) _
  refine (Proc.wp_perform (M := apsdWatch) _ m (ChargerOp.event _) _).2 ⟨trivial, ?_⟩
  intro (u : Unit) _
  exact ⟨rfl, h.config, h.adapter, h.view⟩

/-- A transition succeeds, and is not seen. -/
theorem transition_sees (target : State) {s : Charger} {m : apsdWatch.State}
    (h : Sees config adapter view s m) : (transition target).wp apsdWatch
      (fun r s' m' => r = .ok () ∧ Sees config adapter view s' m') s m := by
  refine (Proc.wp_get_bind s m _ _).2 (Proc.wp_ite (fun _ => ?_) fun _ => ?_)
  · exact (Proc.wp_pure _ s m ()).2 ⟨rfl, h⟩
  · refine (Proc.wp_modify_bind s m _ _ _).2 ?_
    exact log_sees _ _ _ ⟨h.config, h.adapter, h.view⟩

/-- A new request number is not seen. -/
theorem nextRequest_unseen : Unseen config adapter view nextRequest :=
  .bind (modify_unseen (fun _ => rfl) fun _ => rfl) fun _ => .bind .get fun _ => .pure _

/-- A failure is recorded without a look at the registers. -/
theorem fail_unseen {α : Type} (request : Nat) (op : String) (err : ChargerError) :
    Unseen config adapter view (fail request op err : ChargerM α) :=
  .bind (count_unseen _) fun _ => .bind (transition_unseen _) fun _ =>
    .bind (log_unseen ..) fun _ => .fail err

/-- A fault returns an error and nothing else. -/
theorem fail_sees {α : Type} (request : Nat) (op : String) (err : ChargerError) {s : Charger}
    {m : apsdWatch.State} (h : Sees config adapter view s m) :
    (fail request op err : ChargerM α).wp apsdWatch
      (fun r s' m' => (∃ e, r = .error e) ∧ Sees config adapter view s' m') s m := by
  refine (count_unseen _).wp_bind h (fun _ s₁ m₁ h₁ => ?_) fun e s₁ m₁ h₁ => ⟨⟨e, rfl⟩, h₁⟩
  refine (transition_unseen _).wp_bind h₁ (fun _ s₂ m₂ h₂ => ?_) fun e s₂ m₂ h₂ => ⟨⟨e, rfl⟩, h₂⟩
  refine (log_unseen ..).wp_bind h₂ (fun _ s₃ m₃ h₃ => ?_) fun e s₃ m₃ h₃ => ⟨⟨e, rfl⟩, h₃⟩
  exact (Proc.wp_fail _ s₃ m₃ _).2 ⟨⟨err, rfl⟩, h₃⟩

/-- Recording the failure of a program shows no more than the program does. -/
theorem orFail_unseen {α : Type} {request : Nat} {op : String} {x : ChargerM α}
    (hx : Unseen config adapter view x) : Unseen config adapter view (orFail request op x) := by
  refine .bind (.attempt hx) fun answer => ?_
  cases answer with
  | ok value => exact .pure value
  | error err => exact fail_unseen request op err

/-- The recovery resets the link, and reads neither register. -/
theorem recover_unseen (request : Nat) (op : String) (attempt : Nat) (err : TransportError) :
    Unseen config adapter view (recover request op attempt err) := by
  refine .bind (count_unseen _) fun _ => .bind (log_unseen ..) fun _ =>
    .bind (perform_unseen (o := .reset) fun _ _ => rfl) fun answer =>
      .bind (count_unseen _) fun _ => .bind (log_unseen ..) fun _ => ?_
  revert answer
  intro (answer : Except TransportError Unit)
  cases answer with
  | ok u => exact .pure ()
  | error e => exact .bind (count_unseen _) fun _ => .fail _

/-- The loop of a register access. The attempts that fail show nothing. -/
theorem attemptLoop_sees {α β : Type} {request : Nat} {op : String}
    {transfer : ChargerM (Except TransportError α)} {finish : α → ChargerM β}
    {Q : Except ChargerError β → Charger → apsdWatch.State → Prop} (after : α → ApsdView)
    (htransfer : ∀ s m, Sees config adapter view s m → transfer.wp apsdWatch (fun r s' m' =>
      ∃ answer, r = .ok answer ∧ Sees config adapter (answer.toOption.elim view after) s' m') s m)
    (hfinish : ∀ value s m, Sees config adapter (after value) s m →
      (finish value).wp apsdWatch Q s m)
    (herr : ∀ err s m, Sees config adapter view s m → Q (.error err) s m) (fuel : Nat) :
    ∀ attempt s m, Sees config adapter view s m →
      (attemptLoop request op transfer finish fuel attempt).wp apsdWatch Q s m := by
  -- induction on the fuel: only the try that succeeds is seen, recoveries are not
  induction fuel with
  | zero => exact fun attempt s m _ => (Proc.wp_diverge Q s m).2 trivial
  | succ fuel ih =>
      intro attempt s m h
      refine (Proc.wp_bind s m _ _ _).2 (Proc.wp_mono (htransfer s m h) ?_)
      rintro r s' m' ⟨answer, rfl, h'⟩
      refine (Proc.thenWp_ok s' m' _ _ _).2 ?_
      cases answer with
      | ok value => exact hfinish value s' m' h'
      | error err =>
          refine (Proc.wp_get_bind s' m' _ _).2 (Proc.wp_ite (fun _ => ?_) fun _ => ?_)
          · exact (count_unseen _).wp_bind h' (fun _ s₁ m₁ h₁ => (Proc.wp_fail Q s₁ m₁ _).2
              (herr _ s₁ m₁ h₁)) fun e s₁ m₁ h₁ => herr e s₁ m₁ h₁
          · exact (recover_unseen ..).wp_bind h' (fun _ s₁ m₁ h₁ => ih _ s₁ m₁ h₁)
              fun e s₁ m₁ h₁ => herr e s₁ m₁ h₁

/-- The record of a transfer, after the counters and the clock. -/
theorem finish_sees {α : Type} {request started : Nat} {kind : Nat → EventKind}
    {rest : ChargerM α} {Q : Except ChargerError α → Charger → apsdWatch.State → Prop}
    (f : Stats → Stats) (s : Charger) (m : apsdWatch.State) (h : Sees config adapter view s m)
    (hrest : ∀ {s' m'}, Sees config adapter view s' m' → rest.wp apsdWatch Q s' m') :
    (do
      count f
      let elapsed ← elapsedUs started
      log request .trace (kind elapsed)
      rest : ChargerM α).wp apsdWatch Q s m := by
  refine (Proc.wp_modify_bind s m _ _ _).2 ?_
  refine (Proc.wp_bind _ m (elapsedUs started) _ _).2 ?_
  refine (Proc.wp_perform_bind (M := apsdWatch) _ m ChargerOp.nowMs _ _).2 ⟨trivial, ?_⟩
  intro (now : Nat) _
  refine (Proc.wp_pure _ _ m _).2 ((Proc.thenWp_ok _ m _ _ _).2 ?_)
  -- counting changes the statistics only, which the view does not hold
  have hseen : Sees config adapter view { s with stats := f s.stats } m :=
    ⟨h.config, h.adapter, h.view⟩
  refine (Proc.wp_bind _ m (log request .trace _) _ _).2
    (Proc.wp_mono (log_sees _ _ _ hseen) ?_)
  rintro _ s' m' ⟨rfl, h'⟩
  exact (Proc.thenWp_ok s' m' _ _ _).2 (hrest h')

section
variable [LoopFuel]

/-- A register read: its value is seen. -/
theorem readReg_sees (addr : RegAddr) (request : Nat) {s : Charger} {m : apsdWatch.State}
    (h : Sees config adapter view s m) : (readReg addr request).wp apsdWatch
      (fun r s' m' => Sees config adapter (r.toOption.elim view (view.read addr)) s' m') s m := by
  refine nowMs_unseen.wp_bind h (fun started s₁ m₁ h₁ => ?_) fun e s₁ m₁ h₁ => h₁
  refine attemptLoop_sees (view.read addr) (fun s m h => ?_) (fun value s m h => ?_)
    (fun err s m h => h) _ 0 s₁ m₁ h₁
  · refine (Proc.wp_perform (M := apsdWatch) s m (ChargerOp.read addr) _).2 ⟨trivial, ?_⟩
    intro (answer : Except TransportError Byte) _
    refine ⟨answer, rfl, h.config, h.adapter, ?_⟩
    rw [h.view]
    cases answer <;> rfl
  · exact finish_sees _ _ _ h ((Proc.wp_pure _ _ _ value).2 ·)

/-- Accesses to another register. -/
theorem readReg_unseen {addr : RegAddr} (hstatus : addr ≠ apsdStatus)
    (hresult : addr ≠ apsdResultStatus) (request : Nat) :
    Unseen config adapter view (readReg addr request) := by
  refine ⟨fun s m h => Proc.wp_mono (readReg_sees addr request h) fun r s' m' h' => ?_⟩
  cases r with
  | ok value => exact view.read_of_ne hstatus hresult ▸ h'
  | error err => exact h'

/-- Reading another register back is not seen. -/
theorem verify_unseen {addr : RegAddr} (hstatus : addr ≠ apsdStatus)
    (hresult : addr ≠ apsdResultStatus) (wrote : Byte) (request : Nat) :
    Unseen config adapter view (verify addr wrote request) :=
  .get_bind fun _ _ _ => .ite (fun _ => .pure ()) fun _ =>
    .bind (readReg_unseen hstatus hresult request) fun _ => .ite
      (fun _ => .bind (count_unseen _) fun _ => .bind (log_unseen ..) fun _ => .fail _)
      fun _ => .pure ()

/-- Writing another register is not seen. -/
theorem writeReg_unseen {addr : RegAddr} (hstatus : addr ≠ apsdStatus)
    (hresult : addr ≠ apsdResultStatus) (value : Byte) (request : Nat) :
    Unseen config adapter view (writeReg addr value request) := by
  refine .bind nowMs_unseen fun started => ⟨?_⟩
  refine attemptLoop_sees (fun _ => view) (fun s m h => ?_) (fun value s m h => ?_)
    (fun err s m h => h) _ 0
  · refine (Proc.wp_perform (M := apsdWatch) s m (ChargerOp.write addr value) _).2 ⟨trivial, ?_⟩
    intro (answer : Except TransportError Unit) _
    refine ⟨answer, rfl, h.config, h.adapter, ?_⟩
    rw [h.view]
    cases answer <;> rfl
  · exact finish_sees _ _ _ h ((verify_unseen hstatus hresult _ request).run _ _ ·)

/-- Updating another register is not seen. -/
theorem updateReg_unseen {addr : RegAddr} (hstatus : addr ≠ apsdStatus)
    (hresult : addr ≠ apsdResultStatus) (mask value : Byte) (request : Nat) :
    Unseen config adapter view (updateReg addr mask value request) :=
  .bind (readReg_unseen hstatus hresult request) fun _ =>
    writeReg_unseen hstatus hresult _ request

/-- A read whose failure faults the session. -/
theorem orFail_readReg_sees (addr : RegAddr) (request : Nat) (op : String) {s : Charger}
    {m : apsdWatch.State} (h : Sees config adapter view s m) :
    (orFail request op (readReg addr request)).wp apsdWatch
      (fun r s' m' => Sees config adapter (r.toOption.elim view (view.read addr)) s' m') s m := by
  refine (Proc.wp_attempt_bind s m _ _ _).2 (Proc.wp_mono (readReg_sees addr request h) ?_)
  intro r s' m' h'
  cases r with
  | ok value => exact (Proc.wp_pure _ s' m' _).2 h'
  | error err =>
      refine Proc.wp_mono (fail_sees request op err h') ?_
      rintro _ s₁ m₁ ⟨⟨e, rfl⟩, h₁⟩
      exact h₁

/-- A rerun of the detection writes the command register, and reads neither of the two. -/
theorem retryDetection_unseen (request : Nat) (reason : String) :
    Unseen config adapter view (retryDetection request reason) :=
  .get_bind fun _ _ _ => .ite (fun _ => .pure ()) fun _ =>
    .bind (modify_unseen (fun _ => rfl) fun _ => rfl) fun _ => .bind (log_unseen ..) fun _ =>
      orFail_unseen (updateReg_unseen (by decide) (by decide) _ _ request)

/-- The registers of a plan are others than these two. -/
theorem applyRegisters_unseen (request : Nat) (policy : ChargePolicy) (iclRaw : Byte) :
    Unseen config adapter view (applyRegisters request policy iclRaw) := by
  refine .bind (orFail_unseen (writeReg_unseen (by decide) (by decide) _ _)) fun _ =>
    .bind (orFail_unseen (updateReg_unseen (by decide) (by decide) _ _ _)) fun _ => ?_
  cases policy.qc2Voltage with
  | some voltage => exact orFail_unseen (updateReg_unseen (by decide) (by decide) _ _ _)
  | none => exact .pure ()

omit [LoopFuel] in
/-- The start of a detection is a matter of the session alone. -/
theorem beginDetection_unseen (now : Nat) :
    Unseen config adapter view (beginDetection now) := by
  refine .get_bind fun s _ _ => ?_
  cases s.detectStartedMs with
  | some started => exact .pure started
  | none =>
      exact .bind (modify_unseen (fun _ => rfl) fun _ => rfl) fun _ =>
        .bind (transition_unseen .detecting) fun _ => .pure now

end

end Charger

/-- The adapter a detection step identified. -/
def foundBy : Except ChargerError Detection → Option AdapterType
  | .ok (.ready adapter) => some adapter
  | .ok (.pending _ _) => none
  | .error _ => none

/-- The registers name `found`, and the session has recorded it. Without one it keeps the
adapter it had. -/
structure Noticed (config : ChargerConfig) (adapter found : Option AdapterType) (s : Charger)
    (m : apsdWatch.State) : Prop where
  settings : s.config = config
  recorded : s.adapter = found.or adapter
  named : (show ApsdView from m).adapter config.qc35 = found

/-- A session that has noticed nothing. -/
theorem Sees.noticed {config : ChargerConfig} {adapter : Option AdapterType} {view : ApsdView}
    {s : Charger} {m : apsdWatch.State} (h : Sees config adapter view s m)
    (hview : view.adapter config.qc35 = none) : Noticed config adapter none s m :=
  ⟨h.config, h.adapter, h.view ▸ hview⟩

namespace Charger

variable [LoopFuel] {config : ChargerConfig} {adapter : Option AdapterType} {view : ApsdView}

omit [LoopFuel] in
/-- A failed detection, when the registers name no adapter. -/
theorem fail_noticed {request : Nat} {op : String} {err : ChargerError} {s : Charger}
    {m : apsdWatch.State} (hview : view.adapter config.qc35 = none)
    (h : Sees config adapter view s m) : (fail request op err : ChargerM Detection).wp apsdWatch
      (fun r s' m' => Noticed config adapter (foundBy r) s' m') s m := by
  refine Proc.wp_mono (fail_sees request op err h) ?_
  rintro _ s₁ m₁ ⟨⟨e, rfl⟩, h₁⟩
  exact h₁.noticed hview

/-- A detection that is run again has named none. -/
theorem retry_noticed {request elapsedMs n : Nat} {reason : String} {s : Charger}
    {m : apsdWatch.State} (hview : view.adapter config.qc35 = none)
    (h : Sees config adapter view s m) :
    (retryDetection request reason >>= fun _ =>
      (pure (.pending elapsedMs n) : ChargerM Detection)).wp apsdWatch
      (fun r s' m' => Noticed config adapter (foundBy r) s' m') s m := by
  refine (retryDetection_unseen request reason).wp_bind h (fun _ s₁ m₁ h₁ => ?_)
    fun e s₁ m₁ h₁ => h₁.noticed hview
  exact (Proc.wp_pure _ s₁ m₁ _).2 (h₁.noticed hview)

/-- The end of a detection step records the adapter the registers name. -/
theorem concludeDetection_sees {request elapsedMs : Nat} {status result : Byte} {s : Charger}
    {m : apsdWatch.State} (h : Sees config adapter view s m)
    (hview : view.adapter config.qc35 =
      (AdapterType.decode status result config.qc35).toOption) :
    (concludeDetection request status result elapsedMs).wp apsdWatch
      (fun r s' m' => Noticed config adapter (foundBy r) s' m') s m := by
  refine (Proc.wp_get_bind s m _ _).2 ?_
  rw [h.config]
  -- by what the two registers decode to: pending, ambiguous, unknown or an adapter
  rcases AdapterType.decode_cases status result config.qc35 with
    ⟨-, hdecode⟩ | ⟨-, hdecode | ⟨raw, hdecode⟩ | ⟨found, hdecode⟩⟩
  · rw [hdecode] at hview ⊢
    refine Proc.wp_ite (fun _ => Proc.wp_ite (fun _ => fail_noticed hview h) fun _ => ?_)
      fun _ => ?_
    · exact retry_noticed hview h
    · exact (Proc.wp_pure _ s m _).2 (h.noticed hview)
  · rw [hdecode] at hview ⊢
    exact Proc.wp_ite (fun _ => fail_noticed hview h) fun _ => retry_noticed hview h
  · rw [hdecode] at hview ⊢
    exact fail_noticed hview h
  · rw [hdecode] at hview ⊢
    refine (Proc.wp_modify_bind s m _ _ _).2 ((Proc.wp_modify_bind _ m _ _ _).2 ?_)
    -- only the last case records an adapter, and it is the one in view
    have hset : Sees config (some found) view
        { s with stats := s.stats.addDetection, adapter := some found } m :=
      ⟨h.config, rfl, h.view⟩
    refine (Proc.wp_bind _ m (transition .ready) _ _).2
      (Proc.wp_mono (transition_sees _ hset) ?_)
    rintro _ s₁ m₁ ⟨rfl, h₁⟩
    refine (Proc.thenWp_ok s₁ m₁ _ _ _).2 ((Proc.wp_bind _ m₁ (log request .info _) _ _).2
      (Proc.wp_mono (log_sees _ _ _ h₁) ?_))
    rintro _ s₂ m₂ ⟨rfl, h₂⟩
    refine (Proc.thenWp_ok s₂ m₂ _ _ _).2 ((Proc.wp_pure _ s₂ m₂ _).2 ?_)
    exact ⟨h₂.config, h₂.adapter, h₂.view ▸ hview⟩

/-- The two registers are read, the second one when the first is complete. -/
theorem detectStep_sees {s : Charger} {m : apsdWatch.State} (h : Sees config adapter view s m)
    (hview : view.adapter config.qc35 = none) : detectStep.wp apsdWatch
      (fun r s' m' => Noticed config adapter (foundBy r) s' m') s m := by
  -- until both registers are read the view decodes to nothing, so an error there loses nothing
  have hlost (err : ChargerError) {s : Charger} {m : apsdWatch.State}
      (h : Sees config adapter view s m) :
      Noticed config adapter (foundBy (.error err)) s m := h.noticed hview
  refine (Proc.wp_get_bind s m _ _).2 (Proc.wp_ite (fun _ => ?_) fun _ => ?_)
  · exact (Proc.wp_fail _ s m _).2 (hlost _ h)
  · refine nextRequest_unseen.wp_bind h (fun request s₁ m₁ h₁ => ?_) fun e s₁ m₁ h₁ => hlost e h₁
    refine nowMs_unseen.wp_bind h₁ (fun now s₂ m₂ h₂ => ?_) fun e s₂ m₂ h₂ => hlost e h₂
    refine (beginDetection_unseen now).wp_bind h₂ (fun started s₃ m₃ h₃ => ?_)
      fun e s₃ m₃ h₃ => hlost e h₃
    refine (Proc.wp_bind s₃ m₃ (orFail request "detect.read_status" _) _ _).2
      (Proc.wp_mono (orFail_readReg_sees apsdStatus request _ h₃) ?_)
    intro r s₄ m₄ h₄
    cases r with
    | error err => exact (Proc.thenWp_error s₄ m₄ _ _ err).2 (hlost err h₄)
    | ok status =>
        refine (Proc.thenWp_ok s₄ m₄ _ _ _).2 ?_
        have hstatus : Sees config adapter ⟨some status, none⟩ s₄ m₄ :=
          ApsdView.read_status view status ▸ h₄
        -- the result register is read only once the detection is done
        by_cases hdone : status &&& apsdDtcStatusDone ≠ 0
        · rw [readResult, if_pos hdone]
          refine (Proc.wp_bind s₄ m₄ (orFail request "detect.read_result" _) _ _).2
            (Proc.wp_mono (orFail_readReg_sees apsdResultStatus request _ hstatus) ?_)
          intro r s₅ m₅ h₅
          cases r with
          | error err => exact (Proc.thenWp_error s₅ m₅ _ _ err).2 (h₅.noticed rfl)
          | ok result =>
              have hboth : Sees config adapter ⟨some status, some result⟩ s₅ m₅ :=
                ApsdView.read_result ⟨some status, none⟩ result ▸ h₅
              refine (Proc.thenWp_ok s₅ m₅ _ _ _).2 ((Proc.wp_modify_bind s₅ m₅ _ _ _).2 ?_)
              exact concludeDetection_sees ⟨hboth.config, hboth.adapter, hboth.view⟩ rfl
        · rw [readResult, if_neg hdone, Proc.pure_bind]
          have hnone : none = (AdapterType.decode status 0 config.qc35).toOption := by
            rw [AdapterType.decode, if_pos (Classical.not_not.1 hdone)]
            rfl
          refine (Proc.wp_modify_bind s₄ m₄ _ _ _).2 ?_
          exact concludeDetection_sees ⟨hstatus.config, hstatus.adapter, hstatus.view⟩ hnone

/-- What `apply` records. It reads neither register. -/
theorem apply_sees (target : AdapterType) {s : Charger} {m : apsdWatch.State}
    (h : Sees config adapter view s m) : (apply target).wp apsdWatch
      (fun r s' m' => (∀ plan, r = .ok plan → plan.adapter = target) ∧
        Sees config (if r.isOk then some target else adapter) view s' m') s m := by
  have hfailed {e : ChargerError} {s : Charger} {m : apsdWatch.State}
      (h : Sees config adapter view s m) :
      (∀ plan, (.error e : Except ChargerError ChargePlan) = .ok plan → plan.adapter = target) ∧
        Sees config (if (.error e : Except ChargerError ChargePlan).isOk then some target
          else adapter) view s m :=
    ⟨nofun, h⟩
  refine (Proc.wp_get_bind s m _ _).2 (Proc.wp_ite (fun _ => ?_) fun _ => ?_)
  · exact (Proc.wp_fail _ s m _).2 (hfailed h)
  · refine nextRequest_unseen.wp_bind h (fun request s₁ m₁ h₁ => ?_) fun e s₁ m₁ h₁ => hfailed h₁
    refine (orFail_unseen (.ofExcept _)).wp_bind h₁ (fun iclRaw s₂ m₂ h₂ => ?_)
      fun e s₂ m₂ h₂ => hfailed h₂
    refine (applyRegisters_unseen ..).wp_bind h₂ (fun _ s₃ m₃ h₃ => ?_) fun e s₃ m₃ h₃ => hfailed h₃
    refine (Proc.wp_modify_bind s₃ m₃ _ _ _).2 ?_
    -- the adapter is recorded after the last register write went through, never before
    have hset : Sees config (some target) view { s₃ with adapter := some target } m₃ :=
      ⟨h₃.config, rfl, h₃.view⟩
    refine (Proc.wp_bind _ m₃ (transition .ready) _ _).2
      (Proc.wp_mono (transition_sees _ hset) ?_)
    rintro _ s₄ m₄ ⟨rfl, h₄⟩
    refine (Proc.thenWp_ok s₄ m₄ _ _ _).2 ((Proc.wp_bind _ m₄ (log request .info _) _ _).2
      (Proc.wp_mono (log_sees _ _ _ h₄) ?_))
    rintro _ s₅ m₅ ⟨rfl, h₅⟩
    refine (Proc.thenWp_ok s₅ m₅ _ _ _).2 ((Proc.wp_pure _ s₅ m₅ _).2 ⟨?_, h₅⟩)
    rintro plan heq
    cases heq
    rfl

end Charger

/-- What a poll leaves behind, for each of its answers. -/
def Watched (config : ChargerConfig) (adapter : Option AdapterType) :
    Except ChargerError Monitor → Charger → apsdWatch.State → Prop
  | .ok (.unchanged found), s, m => adapter = some found ∧ Noticed config adapter (some found) s m
  | .ok (.changed found), s, m => Noticed config adapter (some found) s m
  | .ok .detached, s, _ => s.config = config ∧ s.adapter = none
  | .error _, s, m => Noticed config adapter none s m

namespace Charger

variable [LoopFuel] {config : ChargerConfig} {adapter : Option AdapterType} {view : ApsdView}

omit [LoopFuel] in
/-- The comparison with the known adapter records what the registers name. -/
theorem compareAdapter_sees {request : Nat} {status result : Byte} {found : AdapterType}
    {s : Charger} {m : apsdWatch.State} (h : Sees config adapter view s m)
    (hview : view.adapter config.qc35 = some found) :
    (compareAdapter request status result found).wp apsdWatch (Watched config adapter) s m := by
  refine (Proc.wp_get_bind s m _ _).2 ((Proc.wp_modify_bind s m _ _ _).2 ?_)
  have hrecorded : Sees config (some found) view { s with adapter := some found } m :=
    ⟨h.config, rfl, h.view⟩
  refine Proc.wp_ite (fun hsame => ?_) fun _ => ?_
  · refine (Proc.wp_pure _ _ m _).2 ⟨h.adapter.symm.trans hsame, ?_⟩
    exact ⟨hrecorded.config, hrecorded.adapter, hrecorded.view ▸ hview⟩
  · refine (Proc.wp_bind _ m (log request .warn _) _ _).2
      (Proc.wp_mono (log_sees _ _ _ hrecorded) ?_)
    rintro _ s₁ m₁ ⟨rfl, h₁⟩
    refine (Proc.thenWp_ok s₁ m₁ _ _ _).2 ((Proc.wp_pure _ s₁ m₁ _).2 ?_)
    exact ⟨h₁.config, h₁.adapter, h₁.view ▸ hview⟩

omit [LoopFuel] in
/-- An adapter that is gone is forgotten. -/
theorem detach_sees {s : Charger} {m : apsdWatch.State} (h : Sees config adapter view s m) :
    detach.wp apsdWatch (Watched config adapter) s m :=
  (Proc.wp_modify_bind s m _ _ _).2 ((Proc.wp_pure _ _ m _).2 ⟨h.config, rfl⟩)

omit [LoopFuel] in
/-- A failed poll, when the registers name no adapter. -/
theorem fail_watched {request : Nat} {op : String} {err : ChargerError} {s : Charger}
    {m : apsdWatch.State} (hview : view.adapter config.qc35 = none)
    (h : Sees config adapter view s m) : (fail request op err : ChargerM Monitor).wp apsdWatch
      (Watched config adapter) s m := by
  refine Proc.wp_mono (fail_sees request op err h) ?_
  rintro _ s₁ m₁ ⟨⟨e, rfl⟩, h₁⟩
  exact h₁.noticed hview

/-- What a poll records. -/
theorem monitor_sees {s : Charger} {m : apsdWatch.State} (h : Sees config adapter view s m)
    (hview : view.adapter config.qc35 = none) :
    monitor.wp apsdWatch (Watched config adapter) s m := by
  refine (Proc.wp_get_bind s m _ _).2 (Proc.wp_ite (fun _ => ?_) fun _ => ?_)
  · exact (Proc.wp_fail _ s m _).2 (h.noticed hview)
  · refine nextRequest_unseen.wp_bind h (fun request s₁ m₁ h₁ => ?_)
      fun e s₁ m₁ h₁ => h₁.noticed hview
    refine (Proc.wp_bind s₁ m₁ (orFail request "monitor.read_status" _) _ _).2
      (Proc.wp_mono (orFail_readReg_sees apsdStatus request _ h₁) ?_)
    intro r s₂ m₂ h₂
    cases r with
    | error err => exact (Proc.thenWp_error s₂ m₂ _ _ err).2 (h₂.noticed hview)
    | ok status =>
        have hstatus : Sees config adapter ⟨some status, none⟩ s₂ m₂ :=
          ApsdView.read_status view status ▸ h₂
        refine (Proc.thenWp_ok s₂ m₂ _ _ _).2
          (Proc.wp_ite (fun _ => detach_sees hstatus) fun hdone => ?_)
        refine (Proc.wp_bind s₂ m₂ (orFail request "monitor.read_result" _) _ _).2
          (Proc.wp_mono (orFail_readReg_sees apsdResultStatus request _ hstatus) ?_)
        intro r s₃ m₃ h₃
        cases r with
        | error err => exact (Proc.thenWp_error s₃ m₃ _ _ err).2 (h₃.noticed rfl)
        | ok result =>
            have hboth : Sees config adapter ⟨some status, some result⟩ s₃ m₃ :=
              ApsdView.read_result ⟨some status, none⟩ result ▸ h₃
            have hview₃ : ApsdView.adapter ⟨some status, some result⟩ config.qc35 =
                (AdapterType.decode status result config.qc35).toOption := rfl
            refine (Proc.thenWp_ok s₃ m₃ _ _ _).2 ?_
            rw [h.config]
            -- the status just read is complete, so the first case cannot come
            rcases AdapterType.decode_cases status result config.qc35 with
              ⟨hpending, -⟩ | ⟨-, hdecode | ⟨raw, hdecode⟩ | ⟨found, hdecode⟩⟩
            · exact absurd hpending hdone
            · rw [hdecode] at hview₃ ⊢
              exact fail_watched hview₃ hboth
            · rw [hdecode] at hview₃ ⊢
              exact fail_watched hview₃ hboth
            · rw [hdecode] at hview₃ ⊢
              exact compareAdapter_sees hboth hview₃

end Charger

end ChargerCore
