import NabuCharger.Core.Charger
import NabuCharger.Logic.History
import NabuCharger.Logic.Laws

/-!
# `Core.Access`: what a register access does

The exchanges of an operation are read in three ways: `transfers` are the transfers that
succeeded, `rerunReasons` the reasons of the detection reruns the journal shows, `clocks` the
readings of the clock.

Register access is bookkeeping to the session: it moves the sequence number and the counters
and nothing else (`Bookkept`). `ReadReg`, `WriteReg` and `UpdateReg` say what the three kinds
of access show and how they fail. Both loops go through one lemma, `attemptLoop_cases`: the
attempts that failed show nothing, and the one that succeeded is followed by what the loop does
with it.
-/

set_option autoImplicit false

namespace ChargerCore

open Effectful

/-- A transfer that succeeded. -/
inductive Transfer
  | read (addr : RegAddr) (value : Byte)
  | write (addr : RegAddr) (value : Byte)
  deriving DecidableEq, Repr

/-- The transfer of an exchange that got through. -/
def transferOf : (o : ChargerOp) → ChargerEffect.Resp o → Option Transfer
  | .read addr, answer => (show Except TransportError Byte from answer).toOption.map (.read addr)
  | .write addr value, answer =>
      (show Except TransportError Unit from answer).toOption.map fun _ => .write addr value
  | .name, _ => none
  | .reset, _ => none
  | .nowMs, _ => none
  | .event _, _ => none

/-- The successful transfers of a trace, in order. -/
def transfers (t : List (Event ChargerEffect)) : List Transfer :=
  t.filterMap fun e => transferOf e.op e.resp

/-- The reason of a detection rerun. -/
def EventKind.rerunReason : EventKind → Option String
  | .retry op _ reason => if op = "detect.rerun" then some reason else none
  | _ => none

/-- The reason a journal record gives for a rerun of the detection. -/
def rerunOf : ChargerOp → Option String
  | .event record => record.kind.rerunReason
  | _ => none

/-- The reasons of the detection reruns a trace shows. -/
def rerunReasons (t : List (Event ChargerEffect)) : List String :=
  t.filterMap fun e => rerunOf e.op

/-- The reading of an exchange with the clock. -/
def clockOf : (o : ChargerOp) → ChargerEffect.Resp o → Option Nat
  | .nowMs, now => some now
  | .read _, _ => none
  | .write _ _, _ => none
  | .name, _ => none
  | .reset, _ => none
  | .event _, _ => none

/-- The readings of the clock. -/
def clocks (t : List (Event ChargerEffect)) : List Nat :=
  t.filterMap fun e => clockOf e.op e.resp

section projections

variable (t u : List (Event ChargerEffect))

/-- Nothing was exchanged, so nothing was transferred. -/
@[simp] theorem transfers_nil : transfers [] = [] := rfl

/-- Nothing was exchanged, so nothing was rerun. -/
@[simp] theorem rerunReasons_nil : rerunReasons [] = [] := rfl

/-- The transfers of two traces one after the other. -/
@[simp] theorem transfers_append : transfers (t ++ u) = transfers t ++ transfers u :=
  List.filterMap_append

/-- The reruns of two traces one after the other. -/
@[simp] theorem rerunReasons_append : rerunReasons (t ++ u) = rerunReasons t ++ rerunReasons u :=
  List.filterMap_append

/-- A reading of the clock is no transfer. -/
@[simp] theorem transfers_nowMs (r : Nat) : transfers (⟨.nowMs, r⟩ :: t) = transfers t := rfl

/-- A reading of the clock is no rerun. -/
@[simp] theorem rerunReasons_nowMs (r : Nat) :
    rerunReasons (⟨.nowMs, r⟩ :: t) = rerunReasons t := rfl

end projections

/-- The sequence number and the counters may differ. -/
def Bookkept (s s' : Charger) : Prop :=
  s' = { s with seq := s'.seq, stats := s'.stats }

namespace Bookkept

variable {s s' s'' : Charger}

/-- A session that did nothing. -/
theorem refl (s : Charger) : Bookkept s s := rfl

/-- Two steps that change only the bookkeeping are one such step. -/
theorem trans (h : Bookkept s s') (h' : Bookkept s' s'') : Bookkept s s'' := by
  rw [Bookkept] at h h' ⊢
  rw [h', h]

/-- The settings are not bookkeeping. -/
theorem config (h : Bookkept s s') : s'.config = s.config := by rw [h]

/-- The state of the session is not bookkeeping. -/
theorem state (h : Bookkept s s') : s'.state = s.state := by rw [h]

/-- The identified adapter is not bookkeeping. -/
theorem adapter (h : Bookkept s s') : s'.adapter = s.adapter := by rw [h]

/-- The start of the detection is not bookkeeping. -/
theorem detectStartedMs (h : Bookkept s s') : s'.detectStartedMs = s.detectStartedMs := by rw [h]

/-- The number of reruns is not bookkeeping. -/
theorem reruns (h : Bookkept s s') : s'.reruns = s.reruns := by rw [h]

/-- A fault after bookkeeping. -/
theorem faulted (h : Bookkept s s') (h' : Bookkept { s' with state := .faulted } s'') :
    Bookkept { s with state := .faulted } s'' := by
  rw [Bookkept] at h h' ⊢
  rw [h', h]

end Bookkept

/-- Exchanges without a transfer and without a rerun. -/
structure Quiet (t : List (Event ChargerEffect)) : Prop where
  transfers : transfers t = []
  rerunReasons : rerunReasons t = []

/-- The empty trace shows nothing. -/
theorem Quiet.nil : Quiet [] := ⟨rfl, rfl⟩

/-- Two traces that show nothing make one that shows nothing. -/
theorem Quiet.append {t u : List (Event ChargerEffect)} (ht : Quiet t) (hu : Quiet u) :
    Quiet (t ++ u) :=
  ⟨by simp [ht.transfers, hu.transfers], by simp [ht.rerunReasons, hu.rerunReasons]⟩

/-- How a register access fails. -/
inductive LinkError : ChargerError → Prop
  | transport (err : TransportError) : LinkError (.transport err)
  | verifyFailed (addr : RegAddr) (wrote read : Byte) : LinkError (.verifyFailed addr wrote read)

/-- A failed access does not look like a session that is not open. -/
theorem LinkError.ne_notOpen {err : ChargerError} (h : LinkError err) : err ≠ .notOpen := by
  cases h <;> nofun

namespace Charger

variable {s s' : Charger} {t : List (Event ChargerEffect)}

/-- Counting an event changes the bookkeeping and exchanges nothing. -/
theorem count_bind {α : Type} {f : Stats → Stats} {g : Unit → ChargerM α}
    {r : Except ChargerError α} (h : (count f >>= g).Yields s t r s') :
    ∃ s₁, Bookkept s s₁ ∧ (g ()).Yields s₁ t r s' :=
  ⟨{ s with stats := f s.stats }, rfl, h.modify_bind⟩

/-- The clock is read once, and never fails. -/
theorem nowMs_yields {r : Except ChargerError Nat} (h : nowMs.Yields s t r s') :
    ∃ now : Nat, t = [⟨.nowMs, now⟩] ∧ r = .ok now ∧ s' = s := by
  obtain ⟨now, rfl, rfl, rfl⟩ := Proc.Yields.perform_cases h
  exact ⟨now, rfl, rfl, rfl⟩

/-- The elapsed time takes one reading of the clock and no access. -/
theorem elapsedUs_yields {started : Nat} {r : Except ChargerError Nat}
    (h : (elapsedUs started).Yields s t r s') : ∃ us, r = .ok us ∧ Quiet t ∧ s' = s := by
  obtain ⟨t₁, t₂, now, s₁, rfl, hnow, hrest⟩ | ⟨e, rfl, hnow⟩ := Proc.Yields.bind_cases h
  · obtain ⟨now, rfl, -, rfl⟩ := nowMs_yields hnow
    obtain ⟨rfl, rfl, rfl⟩ := hrest.pure_cases
    exact ⟨_, rfl, ⟨rfl, rfl⟩, rfl⟩
  · obtain ⟨now, -, heq, -⟩ := nowMs_yields hnow
    nomatch heq

/-- A journal record is a clock reading and the record. -/
theorem log_yields {request : Nat} {level : Level} {kind : EventKind}
    {r : Except ChargerError Unit} (h : (log request level kind).Yields s t r s') :
    r = .ok () ∧ Bookkept s s' ∧ transfers t = [] ∧ rerunReasons t = kind.rerunReason.toList := by
  replace h := (Proc.Yields.modify_bind h).get_bind
  obtain ⟨t₁, t₂, now, s₁, rfl, hnow, hrest⟩ | ⟨e, rfl, hnow⟩ := h.bind_cases
  · obtain ⟨now, rfl, -, rfl⟩ := nowMs_yields hnow
    obtain ⟨answer, rfl, rfl, rfl⟩ := hrest.perform_cases
    refine ⟨rfl, rfl, rfl, ?_⟩
    simp only [List.cons_append, List.nil_append, rerunReasons_nowMs]
    cases hkind : kind.rerunReason <;> simp [rerunReasons, rerunOf, hkind]
  · obtain ⟨now, -, heq, -⟩ := nowMs_yields hnow
    nomatch heq

/-- A record that shows no rerun. -/
theorem log_quiet {request : Nat} {level : Level} {kind : EventKind}
    {r : Except ChargerError Unit} (hkind : kind.rerunReason = none)
    (h : (log request level kind).Yields s t r s') : r = .ok () ∧ Bookkept s s' ∧ Quiet t := by
  obtain ⟨rfl, hkept, htransfers, hreruns⟩ := log_yields h
  rw [hkind] at hreruns
  exact ⟨rfl, hkept, htransfers, hreruns⟩

/-- A retry of any operation but the rerun itself is not recorded as a rerun. -/
theorem rerunReason_retry {op : String} (hop : op ≠ "detect.rerun") (attempt : Nat)
    (reason : String) : (EventKind.retry op attempt reason).rerunReason = none :=
  if_neg hop

/-- A transition is a journal record when it is one at all. -/
theorem transition_yields {target : State} {r : Except ChargerError Unit}
    (h : (transition target).Yields s t r s') :
    r = .ok () ∧ Bookkept { s with state := target } s' ∧ Quiet t := by
  replace h := Proc.Yields.get_bind h
  by_cases hsame : s.state = target
  · rw [if_pos hsame] at h
    obtain ⟨rfl, rfl, rfl⟩ := h.pure_cases
    subst hsame
    exact ⟨rfl, rfl, .nil⟩
  · rw [if_neg hsame] at h
    exact log_quiet rfl h.modify_bind

/-- A new request has a new number, and costs no exchange. -/
theorem nextRequest_yields {r : Except ChargerError Nat} (h : nextRequest.Yields s t r s') :
    t = [] ∧ (∃ request, r = .ok request) ∧ ∃ n, s' = { s with requestId := n } := by
  obtain ⟨rfl, rfl, rfl⟩ := (Proc.Yields.modify_bind h).get_bind.pure_cases
  exact ⟨rfl, ⟨_, rfl⟩, _, rfl⟩

/-- What `fail` does: the error is returned as it is, and the session is faulted. -/
theorem fail_yields {α : Type} {request : Nat} {op : String} {err : ChargerError}
    {r : Except ChargerError α} (h : (fail request op err).Yields s t r s') :
    r = .error err ∧ Bookkept { s with state := .faulted } s' ∧ Quiet t := by
  obtain ⟨s₀, hcount, hrest⟩ := count_bind h
  obtain ⟨t₁, t₂, a, s₁, rfl, hmove, hrest⟩ | ⟨e, -, hmove⟩ := hrest.bind_cases
  · obtain ⟨-, hkept, hquiet⟩ := transition_yields hmove
    obtain ⟨t₃, t₄, b, s₂, rfl, hlog, hfail⟩ | ⟨e, -, hlog⟩ := hrest.bind_cases
    · obtain ⟨-, hkept', hquiet'⟩ := log_quiet rfl hlog
      obtain ⟨rfl, rfl, rfl⟩ := hfail.fail_cases
      exact ⟨rfl, hcount.faulted (hkept.trans hkept'), hquiet.append (hquiet'.append .nil)⟩
    · nomatch (log_quiet rfl hlog).1
  · nomatch (transition_yields hmove).1

/-- `orFail` hands a value on and turns a failure into a fault. -/
theorem orFail_cases {α : Type} {request : Nat} {op : String} {x : ChargerM α}
    {r : Except ChargerError α} (h : (orFail request op x).Yields s t r s') :
    (∃ value, r = .ok value ∧ x.Yields s t (.ok value) s') ∨
      ∃ err t₁ t₂ s₁, r = .error err ∧ t = t₁ ++ t₂ ∧ x.Yields s t₁ (.error err) s₁ ∧
        Bookkept { s₁ with state := .faulted } s' ∧ Quiet t₂ := by
  obtain ⟨t₁, t₂, out, s₁, rfl, hx, hrest⟩ := Proc.Yields.attempt_bind h
  cases out with
  | ok value =>
      obtain ⟨rfl, rfl, rfl⟩ := Proc.Yields.pure_cases hrest
      rw [List.append_nil]
      exact .inl ⟨value, rfl, hx⟩
  | error err =>
      obtain ⟨rfl, hkept, hquiet⟩ := fail_yields hrest
      exact .inr ⟨err, t₁, t₂, s₁, rfl, rfl, hx, hkept, hquiet⟩

/-- A link recovery. It fails when the link does not come back. -/
theorem recover_yields {request attempt : Nat} {op : String} {err : TransportError}
    {r : Except ChargerError Unit} (hop : op ≠ "detect.rerun")
    (h : (recover request op attempt err).Yields s t r s') :
    (r = .ok () ∨ r = .error (.transport err)) ∧ Bookkept s s' ∧ Quiet t := by
  obtain ⟨s₀, hkept₀, h⟩ := count_bind h
  obtain ⟨t₁, t', a, s₁, rfl, hlog₁, hreset⟩ | ⟨e, -, hlog₁⟩ := h.bind_cases
  · obtain ⟨-, hkept₁, hquiet₁⟩ := log_quiet (rerunReason_retry hop _ _) hlog₁
    obtain ⟨answer, t'', rfl, hrest⟩ := hreset.perform_bind
    obtain ⟨s₂, hkept₂, hcont⟩ := count_bind hrest
    obtain ⟨t₂, t₃, b, s₃, rfl, hlog₂, hlast⟩ | ⟨e, -, hlog₂⟩ := hcont.bind_cases
    · obtain ⟨-, hkept₃, hquiet₂⟩ := log_quiet rfl hlog₂
      have hkept := hkept₀.trans (hkept₁.trans (hkept₂.trans hkept₃))
      have htail := hquiet₂.append .nil
      have hquiet : Quiet (t₁ ++ ⟨.reset, answer⟩ :: (t₂ ++ [])) :=
        hquiet₁.append ⟨htail.transfers, htail.rerunReasons⟩
      -- the reset of the link answers; what failed is counted, and nothing else differs
      cases answer with
      | ok a =>
          obtain ⟨rfl, rfl, rfl⟩ := hlast.pure_cases
          exact ⟨.inl rfl, hkept, hquiet⟩
      | error e =>
          obtain ⟨s₄, hkept₄, hlast⟩ := count_bind hlast
          obtain ⟨rfl, rfl, rfl⟩ := hlast.fail_cases
          exact ⟨.inr rfl, hkept.trans hkept₄, hquiet⟩
    · nomatch (log_quiet rfl hlog₂).1
  · nomatch (log_quiet (rerunReason_retry hop _ _) hlog₁).1

/-- The loop of a register access. Either one attempt succeeds and `finish` follows, or the
access fails as its last attempt did. The attempts before show nothing. -/
theorem attemptLoop_cases {α β : Type} {request : Nat} {op : String}
    {transfer : ChargerM (Except TransportError α)} {finish : α → ChargerM β}
    (shown : α → Transfer) (hop : op ≠ "detect.rerun")
    (htransfer : ∀ {s t r s'}, transfer.Yields s t r s' → s' = s ∧ rerunReasons t = [] ∧
      ∃ answer, r = .ok answer ∧ transfers t = answer.toOption.toList.map shown)
    (fuel : Nat) : ∀ {attempt : Nat} {s s' : Charger} {t : List (Event ChargerEffect)}
      {r : Except ChargerError β},
      (attemptLoop request op transfer finish fuel attempt).Yields s t r s' →
      (∃ t₁ t₂ value s₁, t = t₁ ++ t₂ ∧ Bookkept s s₁ ∧ rerunReasons t₁ = [] ∧
        transfers t₁ = [shown value] ∧ (finish value).Yields s₁ t₂ r s') ∨
      ∃ err, r = .error (.transport err) ∧ Bookkept s s' ∧ Quiet t := by
  -- induction on the fuel, for every attempt number: each try either ends the loop or spends one
  -- unit
  induction fuel with
  | zero =>
      intro attempt s s' t r h
      -- without fuel the program does not come back, so it has no outcome
      nomatch (show Prog.Yields Prog.diverge t (r, s') from h)
  | succ fuel ih =>
      intro attempt s s' t r h
      obtain ⟨t₁, t₂, answer, s₁, rfl, htry, hrest⟩ | ⟨e, -, htry⟩ := h.bind_cases
      · obtain ⟨rfl, hreruns, answer, heq, htransfers⟩ := htransfer htry
        cases heq
        cases answer with
        | ok value => exact .inl ⟨t₁, t₂, value, s₁, rfl, .refl _, hreruns, htransfers, hrest⟩
        | error err =>
            have hquiet : Quiet t₁ := ⟨htransfers, hreruns⟩
            replace hrest := Proc.Yields.get_bind hrest
            -- a failed try: give up at the limit, else recover and try again
            split at hrest
            · obtain ⟨rfl, rfl, rfl⟩ := (Proc.Yields.modify_bind hrest).fail_cases
              rw [List.append_nil]
              exact .inr ⟨err, rfl, rfl, hquiet⟩
            · obtain ⟨t₃, t₄, a, s₂, rfl, hrecover, hloop⟩ | ⟨e, rfl, hrecover⟩ :=
                hrest.bind_cases
              · obtain ⟨-, hkept, hquiet'⟩ := recover_yields hop hrecover
                have hall := hquiet.append hquiet'
                rcases ih hloop with ⟨t₅, t₆, value, s₃, rfl, hkept', hno, hone, hfin⟩ | hfailed
                · -- the failed try and its recovery are quiet, so the transfer is the one of the
                  -- later tries
                  refine .inl ⟨t₁ ++ t₃ ++ t₅, t₆, value, s₃, ?_, hkept.trans hkept', ?_, ?_, hfin⟩
                  · simp only [List.append_assoc]
                  · rw [rerunReasons_append, hall.rerunReasons, hno, List.append_nil]
                  · rw [transfers_append, hall.transfers, hone, List.nil_append]
                · obtain ⟨err', rfl, hkept', hquiet''⟩ := hfailed
                  refine .inr ⟨err', rfl, hkept.trans hkept', ?_⟩
                  rw [← List.append_assoc]
                  exact hall.append hquiet''
              · obtain ⟨hr, hkept, hquiet'⟩ := recover_yields hop hrecover
                rcases hr with hr | hr
                · nomatch hr
                · cases hr
                  exact .inr ⟨err, rfl, hkept, hquiet.append hquiet'⟩
      · obtain ⟨-, -, answer, heq, -⟩ := htransfer htry
        nomatch heq

end Charger

/-- What a register read shows and how it ends. -/
structure ReadReg (addr : RegAddr) (s : Charger) (t : List (Event ChargerEffect))
    (r : Except ChargerError Byte) (s' : Charger) : Prop where
  bookkept : Bookkept s s'
  rerunReasons : rerunReasons t = []
  transfers : transfers t = r.toOption.toList.map (.read addr)
  failure : ∀ err, r = .error err → LinkError err

/-- What a register write shows and how it ends. The write is followed by its read-back. -/
structure WriteReg (addr : RegAddr) (value : Byte) (s : Charger)
    (t : List (Event ChargerEffect)) (r : Except ChargerError Unit) (s' : Charger) : Prop where
  bookkept : Bookkept s s'
  rerunReasons : rerunReasons t = []
  transfers : ChargerCore.transfers t = [] ∧ r ≠ .ok () ∨
    ∃ back : Option Byte,
      ChargerCore.transfers t = .write addr value :: back.toList.map (.read addr)
  failure : ∀ err, r = .error err → LinkError err

/-- What an update of a register shows and how it ends. -/
structure UpdateReg (addr : RegAddr) (s : Charger) (t : List (Event ChargerEffect))
    (r : Except ChargerError Unit) (s' : Charger) : Prop where
  bookkept : Bookkept s s'
  rerunReasons : rerunReasons t = []
  /-- A read of the register, at most one write of it, and the read-back. -/
  transfers : ChargerCore.transfers t = [] ∨ ∃ value,
    ChargerCore.transfers t = [.read addr value] ∨ ∃ wrote, ∃ back : Option Byte,
      ChargerCore.transfers t =
        .read addr value :: .write addr wrote :: back.toList.map (.read addr)
  failure : ∀ err, r = .error err → LinkError err

namespace Charger

variable {s s' : Charger} {t : List (Event ChargerEffect)}

section
variable [LoopFuel]

/-- The specification of `readReg`. -/
theorem readReg_yields {addr : RegAddr} {request : Nat} {r : Except ChargerError Byte}
    (h : (readReg addr request).Yields s t r s') : ReadReg addr s t r s' := by
  obtain ⟨t₀, t', now, s₀, rfl, hnow, hrest⟩ | ⟨e, -, hnow⟩ := Proc.Yields.bind_cases h
  · obtain ⟨now, rfl, -, rfl⟩ := nowMs_yields hnow
    -- `attemptLoop_cases` finds the one try that went through; counting, timing and logging it are
    -- quiet
    have hloop := attemptLoop_cases (Transfer.read addr) (by decide) (by
      intro s t r s' h
      obtain ⟨answer, rfl, rfl, rfl⟩ := h.perform_cases
      refine ⟨rfl, rfl, answer, rfl, ?_⟩
      cases answer <;> rfl) _ hrest
    rcases hloop with ⟨t₁, t₂, value, s₁, rfl, hkept, hno, hone, hfinish⟩ | hfailed
    · obtain ⟨s₂, hcount, hcont⟩ := count_bind hfinish
      obtain ⟨t₃, t₄, us, s₃, rfl, hus, hrecord⟩ | ⟨e, -, hus⟩ := hcont.bind_cases
      · obtain ⟨us, -, hquiet, rfl⟩ := elapsedUs_yields hus
        obtain ⟨t₅, t₆, a, s₄, rfl, hlog, hlast⟩ | ⟨e, -, hlog⟩ := hrecord.bind_cases
        · obtain ⟨-, hkept', hquiet'⟩ := log_quiet rfl hlog
          obtain ⟨rfl, rfl, rfl⟩ := hlast.pure_cases
          refine ⟨hkept.trans (hcount.trans hkept'), ?_, ?_, fun err herr => nomatch herr⟩
          · simp [hno, hquiet.rerunReasons, hquiet'.rerunReasons]
          · simp [hone, hquiet.transfers, hquiet'.transfers, Except.toOption]
        · nomatch (log_quiet rfl hlog).1
      · obtain ⟨us, heq, -⟩ := elapsedUs_yields hus
        nomatch heq
    · obtain ⟨err, rfl, hkept, hquiet⟩ := hfailed
      refine ⟨hkept, ?_, ?_, fun err herr => ?_⟩
      · simp [hquiet.rerunReasons]
      · simp [hquiet.transfers, Except.toOption]
      · cases herr
        exact .transport _
  · obtain ⟨now, -, heq, -⟩ := nowMs_yields hnow
    nomatch heq

/-- A read-back reads the register at most once. -/
theorem verify_yields {addr : RegAddr} {wrote : Byte} {request : Nat}
    {r : Except ChargerError Unit} (h : (verify addr wrote request).Yields s t r s') :
    Bookkept s s' ∧ rerunReasons t = [] ∧
      (∃ back : Option Byte, transfers t = back.toList.map (.read addr)) ∧
      ∀ err, r = .error err → LinkError err := by
  replace h := Proc.Yields.get_bind h
  -- verification is optional, and a different value read back is an error of the link
  split at h
  · obtain ⟨rfl, rfl, rfl⟩ := h.pure_cases
    exact ⟨rfl, rfl, ⟨none, rfl⟩, fun err herr => nomatch herr⟩
  · obtain ⟨t₁, t₂, value, s₁, rfl, hread, hrest⟩ | ⟨e, rfl, hread⟩ := h.bind_cases
    · have hspec := readReg_yields hread
      split at hrest
      · obtain ⟨s₂, hcount, hrest⟩ := count_bind hrest
        obtain ⟨t₃, t₄, a, s₃, rfl, hlog, hfail⟩ | ⟨e, -, hlog⟩ := hrest.bind_cases
        · obtain ⟨-, hkept, hquiet⟩ := log_quiet rfl hlog
          obtain ⟨rfl, rfl, rfl⟩ := hfail.fail_cases
          refine ⟨hspec.bookkept.trans (hcount.trans hkept), ?_, ⟨some value, ?_⟩, ?_⟩
          · simp [hspec.rerunReasons, hquiet.rerunReasons]
          · simp [hspec.transfers, hquiet.transfers, Except.toOption]
          · intro err herr
            cases herr
            exact .verifyFailed _ _ _
        · nomatch (log_quiet rfl hlog).1
      · obtain ⟨rfl, rfl, rfl⟩ := hrest.pure_cases
        refine ⟨hspec.bookkept, ?_, ⟨some value, ?_⟩, fun err herr => nomatch herr⟩
        · simp [hspec.rerunReasons]
        · simp [hspec.transfers, Except.toOption]
    · have hspec := readReg_yields hread
      refine ⟨hspec.bookkept, hspec.rerunReasons, ⟨none, hspec.transfers⟩, fun err herr => ?_⟩
      cases herr
      exact hspec.failure _ rfl

/-- The specification of `writeReg`. -/
theorem writeReg_yields {addr : RegAddr} {value : Byte} {request : Nat}
    {r : Except ChargerError Unit} (h : (writeReg addr value request).Yields s t r s') :
    WriteReg addr value s t r s' := by
  obtain ⟨t₀, t', now, s₀, rfl, hnow, hrest⟩ | ⟨e, -, hnow⟩ := Proc.Yields.bind_cases h
  · obtain ⟨now, rfl, -, rfl⟩ := nowMs_yields hnow
    -- as for a read, but the value written is verified after its record
    have hloop := attemptLoop_cases (fun _ => Transfer.write addr value) (by decide) (by
      intro s t r s' h
      obtain ⟨answer, rfl, rfl, rfl⟩ := h.perform_cases
      refine ⟨rfl, rfl, answer, rfl, ?_⟩
      cases answer <;> rfl) _ hrest
    rcases hloop with ⟨t₁, t₂, u, s₁, rfl, hkept, hno, hone, hfinish⟩ | hfailed
    · obtain ⟨s₂, hcount, hcont⟩ := count_bind hfinish
      obtain ⟨t₃, t₄, us, s₃, rfl, hus, hrecord⟩ | ⟨e, -, hus⟩ := hcont.bind_cases
      · obtain ⟨us, -, hquiet, rfl⟩ := elapsedUs_yields hus
        obtain ⟨t₅, t₆, a, s₄, rfl, hlog, hverify⟩ | ⟨e, -, hlog⟩ := hrecord.bind_cases
        · obtain ⟨-, hkept', hquiet'⟩ := log_quiet rfl hlog
          obtain ⟨hkept'', hback, ⟨back, htransfers⟩, hfailure⟩ := verify_yields hverify
          refine ⟨hkept.trans (hcount.trans (hkept'.trans hkept'')), ?_,
            .inr ⟨back, ?_⟩, hfailure⟩
          · simp [hno, hquiet.rerunReasons, hquiet'.rerunReasons, hback]
          · simp [hone, hquiet.transfers, hquiet'.transfers, htransfers]
        · nomatch (log_quiet rfl hlog).1
      · obtain ⟨us, heq, -⟩ := elapsedUs_yields hus
        nomatch heq
    · obtain ⟨err, rfl, hkept, hquiet⟩ := hfailed
      refine ⟨hkept, ?_, .inl ⟨?_, fun heq => nomatch heq⟩, fun err herr => ?_⟩
      · simp [hquiet.rerunReasons]
      · simp [hquiet.transfers]
      · cases herr
        exact .transport _
  · obtain ⟨now, -, heq, -⟩ := nowMs_yields hnow
    nomatch heq

/-- The specification of `updateReg`. -/
theorem updateReg_yields {addr : RegAddr} {mask value : Byte} {request : Nat}
    {r : Except ChargerError Unit} (h : (updateReg addr mask value request).Yields s t r s') :
    UpdateReg addr s t r s' := by
  obtain ⟨t₁, t₂, current, s₁, rfl, hread, hwrite⟩ | ⟨e, rfl, hread⟩ := Proc.Yields.bind_cases h
  · have hfirst := readReg_yields hread
    have hsecond := writeReg_yields hwrite
    refine ⟨hfirst.bookkept.trans hsecond.bookkept, ?_, .inr ⟨current, ?_⟩, hsecond.failure⟩
    · simp [hfirst.rerunReasons, hsecond.rerunReasons]
    · -- the write sent nothing, or sent the merged value and perhaps read it back
      rcases hsecond.transfers with ⟨hnone, -⟩ | ⟨back, hback⟩
      · exact .inl (by simp [hfirst.transfers, hnone, Except.toOption])
      · exact .inr ⟨mergeBits current mask value, back, by
          simp [hfirst.transfers, hback, Except.toOption]⟩
  · -- the read failed, so nothing is written
    have hfirst := readReg_yields hread
    refine ⟨hfirst.bookkept, hfirst.rerunReasons, .inl hfirst.transfers, fun err herr => ?_⟩
    cases herr
    exact hfirst.failure _ rfl

end

end Charger

end ChargerCore
