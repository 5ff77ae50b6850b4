import NabuCharger.Core.Session

/-!
# `Proofs.Transcript`: the journal of a session

Every transfer that succeeds is journalled once, before the next operation of the session, and
every record has the next sequence number. `Ledger` is what a reader of both sides keeps: the
last number, and the transfer that is still owed a record. The monitor `ledger` asks of every
record that it settles what is owed, and of every transfer that nothing is owed.

The loops keep `Balanced`: between two operations nothing is owed. From that,
`Ledger.reads` reads the two properties off a trace: the transfers in the journal are
those that succeeded, and the number of a record is its position.

The number is a saturating counter of 64 bits. It is the position up to `2^64 - 1`, and the
same for all records after that (`not_consecutive`).
-/

set_option autoImplicit false

namespace ChargerCore

open Effectful

/-- The transfer a journal record stands for. -/
def EventKind.transfer : EventKind → Option Transfer
  | .read addr value _ => some (.read addr value)
  | .write addr value _ => some (.write addr value)
  | .opened _ _ => none
  | .close _ => none
  | .detect _ _ _ _ => none
  | .policy _ _ _ _ _ => none
  | .retry _ _ _ => none
  | .reset _ => none
  | .stateChange _ _ => none
  | .error _ _ => none

/-- The record an operation writes, if it writes one. -/
def recordOf : ChargerOp → Option JournalEvent
  | .event record => some record
  | .name => none
  | .read _ => none
  | .write _ _ => none
  | .reset => none
  | .nowMs => none

/-- The journal of a trace. -/
def records (t : List (Event ChargerEffect)) : List JournalEvent :=
  t.filterMap fun e => recordOf e.op

/-- The transfers the journal of a trace shows. -/
def journalled (t : List (Event ChargerEffect)) : List Transfer :=
  (records t).filterMap fun record => record.kind.transfer

/-- The first event adds its transfer, if it is one. -/
theorem transfers_cons (o : ChargerOp) (answer : ChargerEffect.Resp o)
    (t : List (Event ChargerEffect)) :
    transfers (⟨o, answer⟩ :: t) = (transferOf o answer).toList ++ transfers t := by
  rw [transfers, List.filterMap_cons]
  cases transferOf o answer <;> rfl

/-- A record adds the transfer it tells of, if it tells of one. -/
theorem journalled_record (record : JournalEvent) (u : Unit) (t : List (Event ChargerEffect)) :
    journalled (⟨.event record, u⟩ :: t) = record.kind.transfer.toList ++ journalled t := by
  show ((record :: records t).filterMap fun record => record.kind.transfer) = _
  rw [List.filterMap_cons]
  cases record.kind.transfer <;> rfl

/-! ### The ledger -/

/-- What a reader of the transfers and of the journal keeps. -/
structure Ledger where
  /-- The number of the last record. -/
  seq : Nat
  /-- A transfer without its record. -/
  owed : Option Transfer
  deriving DecidableEq, Repr

namespace Ledger

/-- A record carries the next number and the transfer that is owed. No transfer starts while one
is. -/
def require (m : Ledger) : ChargerOp → Prop
  | .event record => record.seq = satAdd 64 m.seq 1 ∧ record.kind.transfer = m.owed
  | .read _ => m.owed = none
  | .write _ _ => m.owed = none
  | .name => True
  | .reset => True
  | .nowMs => True

/-- A transfer is owed until the record that tells of it. -/
def next (m : Ledger) : (o : ChargerOp) → ChargerEffect.Resp o → Ledger
  | .event record, _ => ⟨record.seq, none⟩
  | .read addr, answer => { m with owed := transferOf (.read addr) answer }
  | .write addr value, answer => { m with owed := transferOf (.write addr value) answer }
  | .name, _ => m
  | .reset, _ => m
  | .nowMs, _ => m

end Ledger

/-- The journal against the transfers. Nothing is asked of the environment. -/
def ledger : Machine ChargerEffect where
  State := Ledger
  allow _ _ _ := True
  require := Ledger.require
  next := Ledger.next

/-- The number of the record at position `i` after the number `seq`. -/
def numberFrom (seq i : Nat) : Nat := min (seq + i + 1) (wordMax 64)

/-- The numbering moves on with each record. -/
theorem numberFrom_succ (seq i : Nat) :
    numberFrom seq (i + 1) = numberFrom (satAdd 64 seq 1) i := by
  simp only [numberFrom, satAdd]
  omega

/-- A trace after the ledger `m`: the transfers are those of the journal, but for the one that
is owed at its end, and the records are numbered by their positions. -/
structure Transcript (m : Ledger) (t : List (Event ChargerEffect)) (m' : Ledger) : Prop where
  transfers : m.owed.toList ++ transfers t = journalled t ++ m'.owed.toList
  numbered : ∀ i record, (records t)[i]? = some record → record.seq = numberFrom m.seq i

/-- A transfer that succeeds is owed a record. -/
theorem Transcript.transfer {m m' : Ledger} {o : ChargerOp} {answer : ChargerEffect.Resp o}
    {t : List (Event ChargerEffect)} (hpaid : m.owed = none) (ho : recordOf o = none)
    (h : Transcript { m with owed := transferOf o answer } t m') :
    Transcript m (⟨o, answer⟩ :: t) m' := by
  have hrecords : records (⟨o, answer⟩ :: t) = records t := List.filterMap_cons_none ho
  refine ⟨?_, fun i record hrecord => ?_⟩
  · rw [hpaid, transfers_cons, journalled, hrecords]
    exact h.transfers
  · rw [hrecords] at hrecord
    exact h.numbered i record hrecord

/-- A record settles what is owed. -/
theorem Transcript.record {m m' : Ledger} {entry : JournalEvent} {u : Unit}
    {t : List (Event ChargerEffect)} (hseq : entry.seq = satAdd 64 m.seq 1)
    (howed : entry.kind.transfer = m.owed) (h : Transcript ⟨entry.seq, none⟩ t m') :
    Transcript m (⟨.event entry, u⟩ :: t) m' := by
  refine ⟨?_, fun i record hrecord => ?_⟩
  · have hrest := h.transfers
    rw [Option.toList_none, List.nil_append] at hrest
    rw [journalled_record, howed, List.append_assoc, ← hrest]
    rfl
  · cases i with
    | zero =>
        have heq : entry = record := Option.some.inj hrecord
        rw [← heq, hseq]
        rfl
    | succ i =>
        rw [numberFrom_succ, ← hseq]
        exact h.numbered i record hrecord

/-- A trace that meets the ledger is a transcript. -/
theorem Ledger.reads {t : List (Event ChargerEffect)} : ∀ {m : Ledger},
    ledger.Meets m t → Transcript m t (ledger.after m t) := by
  induction t with
  | nil => exact fun {m} _ => ⟨List.append_nil _, fun i record hrecord => nomatch hrecord⟩
  | cons e t ih =>
      intro m hmeets
      obtain ⟨o, answer⟩ := e
      obtain ⟨hrequire, hrest⟩ := (ledger.meets_cons m _ t).1 hmeets
      have hnext := ih (hrest trivial)
      cases o with
      -- a record pays the transfer that was owed
      | event record => exact .record hrequire.1 hrequire.2 hnext
      | read addr => exact .transfer hrequire rfl hnext
      | write addr value => exact .transfer hrequire rfl hnext
      | name => exact ⟨hnext.transfers, hnext.numbered⟩
      | reset => exact ⟨hnext.transfers, hnext.numbered⟩
      | nowMs => exact ⟨hnext.transfers, hnext.numbered⟩

/-! ### The session keeps the ledger -/

/-- Between two operations of the session nothing is owed. -/
def Balanced (s : Charger) (m : ledger.State) : Prop := m = (⟨s.seq, none⟩ : Ledger)

namespace Charger

/-- A change that leaves the number alone. -/
theorem modify_balanced {f : Charger → Charger} (hf : ∀ s, (f s).seq = s.seq) :
    Proc.Keeps ledger Balanced (Proc.modify f : ChargerM Unit) := by
  refine .modify fun s m h => ?_
  rw [Balanced, hf]
  exact h

/-- Counting neither transfers nor records. -/
theorem count_balanced (f : Stats → Stats) : Proc.Keeps ledger Balanced (count f) :=
  modify_balanced fun _ => rfl

/-- Reading the clock neither transfers nor records. -/
theorem nowMs_balanced : Proc.Keeps ledger Balanced nowMs :=
  .perform fun _ _ h => ⟨trivial, fun _ _ => h⟩

/-- A record settles what is owed. -/
theorem log_wp (request : Nat) (level : Level) (kind : EventKind) (s : Charger) :
    (log request level kind).wp ledger (fun _ s' m' => Balanced s' m') s
      (⟨s.seq, kind.transfer⟩ : Ledger) := by
  refine (Proc.wp_modify_bind (M := ledger) s _ _ _ _).2 ?_
  refine (Proc.wp_get_bind (M := ledger) _ _ _ _).2 ?_
  refine (Proc.wp_perform_bind (M := ledger) _ _ ChargerOp.nowMs _ _).2 ⟨trivial, ?_⟩
  intro (tsMs : Nat) _
  refine (Proc.wp_perform (M := ledger) _ _ (ChargerOp.event _) _).2 ⟨⟨rfl, rfl⟩, ?_⟩
  intro (u : Unit) _
  rfl

/-- A record that tells of no transfer is written only when none is owed. -/
theorem log_balanced {request : Nat} {level : Level} {kind : EventKind}
    (hkind : kind.transfer = none) : Proc.Keeps ledger Balanced (log request level kind) := by
  refine ⟨fun s m h => ?_⟩
  rw [h, ← hkind]
  exact log_wp ..

/-- A transition records itself. -/
theorem transition_balanced (target : State) :
    Proc.Keeps ledger Balanced (transition target) :=
  .get_bind fun _ _ _ => .ite (fun _ => .pure ()) fun _ =>
    .bind (modify_balanced fun _ => rfl) fun _ => log_balanced rfl

/-- A new request number is neither transferred nor recorded. -/
theorem nextRequest_balanced : Proc.Keeps ledger Balanced nextRequest :=
  .bind (modify_balanced fun _ => rfl) fun _ => .bind .get fun _ => .pure _

/-- Failing records the failure. -/
theorem fail_balanced {α : Type} (request : Nat) (op : String) (err : ChargerError) :
    Proc.Keeps ledger Balanced (fail request op err : ChargerM α) :=
  .bind (count_balanced _) fun _ => .bind (transition_balanced _) fun _ =>
    .bind (log_balanced rfl) fun _ => .fail err

/-- A step that owes nothing at its end may fail with a record. -/
theorem orFail_balanced {α : Type} {request : Nat} {op : String} {x : ChargerM α}
    (hx : Proc.Keeps ledger Balanced x) : Proc.Keeps ledger Balanced (orFail request op x) := by
  refine .bind (.attempt hx) fun answer => ?_
  cases answer with
  | ok value => exact .pure value
  | error err => exact fail_balanced request op err

/-- A reset of the link is not a register transfer. -/
theorem reset_balanced : Proc.Keeps ledger Balanced
    (Proc.perform (E := ChargerEffect) .reset : ChargerM (Except TransportError Unit)) :=
  .perform fun _ _ h => ⟨trivial, fun _ _ => h⟩

/-- What happens between two attempts owes nothing. -/
theorem recover_balanced (request : Nat) (op : String) (attempt : Nat) (err : TransportError) :
    Proc.Keeps ledger Balanced (recover request op attempt err) := by
  refine .bind (count_balanced _) fun _ => .bind (log_balanced rfl) fun _ =>
    .bind reset_balanced fun answer => .bind (count_balanced _) fun _ =>
      .bind (log_balanced rfl) fun _ => ?_
  cases answer with
  | ok u => exact .pure ()
  | error e => exact .bind (count_balanced _) fun _ => .fail _

/-- The loop of a register access. An attempt that fails leaves nothing owed. One that
succeeds leaves its transfer, and `finish` settles it. -/
theorem attemptLoop_balanced {α β : Type} {request : Nat} {op : String}
    {transfer : ChargerM (Except TransportError α)} {finish : α → ChargerM β}
    (shown : α → Transfer)
    (htransfer : ∀ s m, Balanced s m → transfer.wp ledger (fun r s' m' => ∃ answer,
      r = .ok answer ∧ m' = (⟨s'.seq, answer.toOption.map shown⟩ : Ledger)) s m)
    (hfinish : ∀ value s, (finish value).wp ledger (fun _ s' m' => Balanced s' m') s
      (⟨s.seq, some (shown value)⟩ : Ledger)) (fuel : Nat) :
    ∀ attempt, Proc.Keeps ledger Balanced
      (attemptLoop request op transfer finish fuel attempt) := by
  -- induction on the fuel: what a try owes is recorded before the next one
  induction fuel with
  | zero => exact fun attempt => .diverge
  | succ fuel ih =>
      intro attempt
      refine ⟨fun s m h => (Proc.wp_bind s m _ _ _).2 ?_⟩
      refine Proc.wp_mono (htransfer s m h) ?_
      rintro r s' m' ⟨answer, rfl, rfl⟩
      cases answer with
      | ok value => exact hfinish value s'
      | error err =>
          have hkept : Proc.Keeps ledger Balanced
              (do
                let attempt := satAdd 8 attempt 1
                let charger ← Proc.get
                if recoverable err = false ∨ charger.config.maxTransportRetries < attempt then
                  count Stats.addError
                  Proc.fail (.transport err)
                else
                  recover request op attempt err
                  attemptLoop request op transfer finish fuel attempt : ChargerM β) :=
            .get_bind fun _ _ _ => .ite
              (fun _ => .bind (count_balanced _) fun _ => .fail _)
              fun _ => .bind (recover_balanced ..) fun _ => ih _
          exact hkept.run s' _ rfl

/-- The record of a transfer, after the counters and the clock. -/
theorem finish_wp {α : Type} {request started : Nat} {f : Stats → Stats}
    {kind : Nat → EventKind} {rest : ChargerM α} {tr : Transfer}
    (hkind : ∀ us, (kind us).transfer = some tr) (hrest : Proc.Keeps ledger Balanced rest)
    (s : Charger) :
    (do
      count f
      let elapsed ← elapsedUs started
      log request .trace (kind elapsed)
      rest : ChargerM α).wp ledger (fun _ s' m' => Balanced s' m') s
        (⟨s.seq, some tr⟩ : Ledger) := by
  refine (Proc.wp_modify_bind (M := ledger) s _ _ _ _).2 ?_
  refine (Proc.wp_bind (M := ledger) _ _ (elapsedUs started) _ _).2 ?_
  refine (Proc.wp_perform_bind (M := ledger) _ _ ChargerOp.nowMs _ _).2 ⟨trivial, ?_⟩
  intro (now : Nat) _
  refine (Proc.wp_pure (M := ledger) _ _ _ _).2 ((Proc.thenWp_ok (M := ledger) ..).2 ?_)
  refine (Proc.wp_bind (M := ledger) _ _ (log request .trace _) _ _).2 ?_
  -- the record tells of the transfer that is owed, and numbers it
  have hlog := log_wp request .trace (kind (satMul 64 (now - started) 1000))
    { s with stats := f s.stats }
  rw [hkind] at hlog
  refine Proc.wp_mono hlog fun r s' m' h => ?_
  cases r with
  | ok u => exact hrest.run s' m' h
  | error e => exact h

/-- Beginning a detection owes nothing. -/
theorem beginDetection_balanced (now : Nat) :
    Proc.Keeps ledger Balanced (beginDetection now) := by
  refine .get_bind fun s _ _ => ?_
  cases s.detectStartedMs with
  | some started => exact .pure started
  | none =>
      exact .bind (modify_balanced fun _ => rfl) fun _ =>
        .bind (transition_balanced .detecting) fun _ => .pure now

/-- Comparing the adapter owes nothing. -/
theorem compareAdapter_balanced (request : Nat) (status result : Byte) (adapter : AdapterType) :
    Proc.Keeps ledger Balanced (compareAdapter request status result adapter) :=
  .get_bind fun _ _ _ => .bind (modify_balanced fun _ => rfl) fun _ =>
    .ite (fun _ => .pure _) fun _ => .bind (log_balanced rfl) fun _ => .pure _

/-- A detach owes nothing. -/
theorem detach_balanced : Proc.Keeps ledger Balanced detach :=
  .bind (modify_balanced fun _ => rfl) fun _ => .pure _

section
variable [LoopFuel]

/-- A register read records each of its transfers before the next. -/
theorem readReg_balanced (addr : RegAddr) (request : Nat) :
    Proc.Keeps ledger Balanced (readReg addr request) := by
  refine .bind nowMs_balanced fun started => ?_
  refine attemptLoop_balanced (Transfer.read addr) (fun s m h => ?_)
    (fun value s => finish_wp (fun _ => rfl) (.pure value) s) _ 0
  rw [h]
  refine (Proc.wp_perform (M := ledger) _ _ (ChargerOp.read addr) _).2 ⟨rfl, ?_⟩
  intro (answer : Except TransportError Byte) _
  exact ⟨answer, rfl, rfl⟩

/-- A verification records each of its transfers. -/
theorem verify_balanced (addr : RegAddr) (wrote : Byte) (request : Nat) :
    Proc.Keeps ledger Balanced (verify addr wrote request) :=
  .get_bind fun _ _ _ => .ite (fun _ => .pure ()) fun _ =>
    .bind (readReg_balanced addr request) fun _ => .ite
      (fun _ => .bind (count_balanced _) fun _ => .bind (log_balanced rfl) fun _ => .fail _)
      fun _ => .pure ()

/-- A register write records each of its transfers before the next. -/
theorem writeReg_balanced (addr : RegAddr) (value : Byte) (request : Nat) :
    Proc.Keeps ledger Balanced (writeReg addr value request) := by
  refine .bind nowMs_balanced fun started => ?_
  refine attemptLoop_balanced (fun _ => .write addr value) (fun s m h => ?_)
    (fun _ s => finish_wp (fun _ => rfl) (verify_balanced addr value request) s) _ 0
  rw [h]
  refine (Proc.wp_perform (M := ledger) _ _ (ChargerOp.write addr value) _).2 ⟨rfl, ?_⟩
  intro (answer : Except TransportError Unit) _
  exact ⟨answer, rfl, rfl⟩

/-- A read-modify-write records both its transfers. -/
theorem updateReg_balanced (addr : RegAddr) (mask value : Byte) (request : Nat) :
    Proc.Keeps ledger Balanced (updateReg addr mask value request) :=
  .bind (readReg_balanced addr request) fun _ => writeReg_balanced addr _ request

/-- The probe records each of its transfers. -/
theorem probe_balanced : Proc.Keeps ledger Balanced probe :=
  .bind nextRequest_balanced fun request => .bind (readReg_balanced apsdStatus request) fun _ =>
    .ite (fun _ => .fail _) fun _ => .pure ()

/-- Opening a session records each of its transfers. -/
theorem openSession_balanced : Proc.Keeps ledger Balanced openSession := by
  refine .bind nextRequest_balanced fun request => ?_
  refine .bind (.perform fun _ _ h => ⟨trivial, fun _ _ => h⟩) fun name => ?_
  refine .bind reset_balanced fun answer => .bind (log_balanced rfl) fun _ => ?_
  refine .bind (.attempt probe_balanced) fun out => ?_
  cases out with
  | ok u => exact .bind (transition_balanced .idle) fun _ => log_balanced rfl
  | error err =>
      exact .bind (count_balanced _) fun _ => .bind (log_balanced rfl) fun _ =>
        .bind (log_balanced rfl) fun _ => .fail err

/-- A rerun of the detection records each of its transfers. -/
theorem retryDetection_balanced (request : Nat) (reason : String) :
    Proc.Keeps ledger Balanced (retryDetection request reason) :=
  .get_bind fun _ _ _ => .ite (fun _ => .pure ()) fun _ =>
    .bind (modify_balanced fun _ => rfl) fun _ => .bind (log_balanced rfl) fun _ =>
      orFail_balanced (updateReg_balanced _ _ _ request)

/-- Reading the result records each of its transfers. -/
theorem readResult_balanced (status : Byte) (request : Nat) :
    Proc.Keeps ledger Balanced (readResult status request) :=
  .ite (fun _ => orFail_balanced (readReg_balanced _ request)) fun _ => .pure 0

/-- Concluding a detection owes nothing. -/
theorem concludeDetection_balanced (request : Nat) (status result : Byte) (elapsedMs : Nat) :
    Proc.Keeps ledger Balanced (concludeDetection request status result elapsedMs) := by
  refine .get_bind fun s _ _ => ?_
  -- one case an answer of the decoder
  rcases AdapterType.decode_cases status result s.config.qc35 with
    ⟨-, hdecode⟩ | ⟨-, hdecode | ⟨raw, hdecode⟩ | ⟨adapter, hdecode⟩⟩
  · rw [hdecode]
    exact .ite (fun _ => .ite (fun _ => fail_balanced ..) fun _ =>
      .bind (retryDetection_balanced ..) fun _ => .pure _) fun _ => .pure _
  · rw [hdecode]
    exact .ite (fun _ => fail_balanced ..) fun _ =>
      .bind (retryDetection_balanced ..) fun _ => .pure _
  · rw [hdecode]
    exact fail_balanced ..
  · rw [hdecode]
    exact .bind (count_balanced _) fun _ => .bind (modify_balanced fun _ => rfl) fun _ =>
      .bind (transition_balanced .ready) fun _ => .bind (log_balanced rfl) fun _ => .pure _

/-- A detection step records each of its transfers. -/
theorem detectStep_balanced : Proc.Keeps ledger Balanced detectStep :=
  .get_bind fun _ _ _ => .ite (fun _ => .fail _) fun _ =>
    .bind nextRequest_balanced fun request => .bind nowMs_balanced fun now =>
      .bind (beginDetection_balanced now) fun _ =>
        .bind (orFail_balanced (readReg_balanced apsdStatus request)) fun status =>
          .bind (readResult_balanced status request) fun _ =>
            .bind (modify_balanced fun _ => rfl) fun _ => concludeDetection_balanced ..

/-- An application records each of its writes, in their order. -/
theorem applyRegisters_balanced (request : Nat) (policy : ChargePolicy) (iclRaw : Byte) :
    Proc.Keeps ledger Balanced (applyRegisters request policy iclRaw) := by
  refine .bind (orFail_balanced (writeReg_balanced ..)) fun _ =>
    .bind (orFail_balanced (updateReg_balanced ..)) fun _ => ?_
  cases policy.qc2Voltage with
  | some voltage => exact orFail_balanced (updateReg_balanced ..)
  | none => exact .pure ()

/-- Applying a policy records each of its transfers. -/
theorem apply_balanced (adapter : AdapterType) : Proc.Keeps ledger Balanced (apply adapter) :=
  .get_bind fun _ _ _ => .ite (fun _ => .fail _) fun _ =>
    .bind nextRequest_balanced fun _ => .bind (orFail_balanced (.ofExcept _)) fun _ =>
      .bind (applyRegisters_balanced ..) fun _ => .bind (modify_balanced fun _ => rfl) fun _ =>
        .bind (transition_balanced .ready) fun _ => .bind (log_balanced rfl) fun _ => .pure _

/-- Monitoring records each of its transfers. -/
theorem monitor_balanced : Proc.Keeps ledger Balanced monitor := by
  refine .get_bind fun s _ _ => .ite (fun _ => .fail _) fun _ => ?_
  refine .bind nextRequest_balanced fun request => ?_
  refine .bind (orFail_balanced (readReg_balanced apsdStatus request)) fun status => ?_
  refine .ite (fun _ => detach_balanced) fun _ => ?_
  refine .bind (orFail_balanced (readReg_balanced apsdResultStatus request)) fun result => ?_
  rcases AdapterType.decode_cases status result s.config.qc35 with
    ⟨-, hdecode⟩ | ⟨-, hdecode | ⟨raw, hdecode⟩ | ⟨adapter, hdecode⟩⟩
  · rw [hdecode]
    exact detach_balanced
  · rw [hdecode]
    exact fail_balanced ..
  · rw [hdecode]
    exact fail_balanced ..
  · rw [hdecode]
    exact compareAdapter_balanced ..

/-- A re-initialisation records each of its transfers. -/
theorem reinit_balanced : Proc.Keeps ledger Balanced reinit := by
  refine .get_bind fun _ _ _ => .ite (fun _ => .fail _) fun _ => ?_
  refine .bind nextRequest_balanced fun request => .bind reset_balanced fun answer => ?_
  refine .bind (count_balanced _) fun _ => .bind (log_balanced rfl) fun _ => ?_
  cases answer with
  | ok u =>
      exact .bind (modify_balanced fun _ => rfl) fun _ =>
        .bind (transition_balanced .idle) fun _ => probe_balanced
  | error err => exact fail_balanced ..

/-- A close records each of its transfers. -/
theorem close_balanced : Proc.Keeps ledger Balanced close :=
  .get_bind fun _ _ _ => .ite (fun _ => .pure ()) fun _ =>
    .bind nextRequest_balanced fun request =>
      .bind (.attempt (.bind (.ofExcept _) fun _ => writeReg_balanced _ _ request)) fun _ =>
        .bind (transition_balanced .closed) fun _ => log_balanced rfl

end

end Charger

section
variable [LoopFuel]

/-- Every core call starts and ends with nothing owed, by cases on the call. -/
theorem Call.balanced (op : Call) : Proc.Keeps ledger Balanced op.run := by
  cases op with
  | detectStep => exact .bind Charger.detectStep_balanced fun _ => .pure _
  | apply adapter => exact .bind (Charger.apply_balanced adapter) fun _ => .pure _
  | monitor => exact .bind Charger.monitor_balanced fun _ => .pure _
  | reinit => exact .bind Charger.reinit_balanced fun _ => .pure _
  | close => exact .bind Charger.close_balanced fun _ => .pure _

omit [LoopFuel] in
/-- The ledger assumes nothing of the answers. -/
theorem ledger_allowed {t : List (Event ChargerEffect)} : ∀ m, ledger.Allowed m t := by
  induction t with
  | nil => exact fun _ => trivial
  | cons e t ih => exact fun _ => ⟨trivial, ih _⟩

/-- Record number `i + 1` of the journal has this number, as far as it can be counted. -/
def Numbered (t : List (Event ChargerEffect)) : Prop :=
  ∀ i record, (records t)[i]? = some record → record.seq = min (i + 1) (wordMax 64)

omit [LoopFuel] in
/-- A trace that meets the ledger from the beginning. -/
theorem Ledger.transcribed {t : List (Event ChargerEffect)}
    (h : ledger.Meets (⟨0, none⟩ : Ledger) t) :
    transfers t = journalled t ++ (ledger.after (⟨0, none⟩ : Ledger) t : Ledger).owed.toList ∧
      Numbered t := by
  refine ⟨(Ledger.reads h).transfers, fun i record hrecord => ?_⟩
  rw [(Ledger.reads h).numbered i record hrecord, numberFrom, Nat.zero_add]

/-- The opening meets the ledger and leaves nothing owed. -/
theorem opening_balanced {config : ChargerConfig} {opening : List (Event ChargerEffect)}
    {r : Except ChargerError Unit} {s₀ : Charger}
    (h : Charger.openSession.Yields (Charger.new config) opening r s₀) :
    ledger.Meets (⟨0, none⟩ : Ledger) opening ∧
      Balanced s₀ (ledger.after (⟨0, none⟩ : Ledger) opening) := by
  have hwp := (Charger.openSession_balanced.run (Charger.new config) (⟨0, none⟩ : Ledger) rfl).prog
  exact ⟨h.meets hwp, Prog.Yields.post h hwp (ledger_allowed _)⟩

/-- The journal of a session, however it opened. Between two operations it shows exactly the
transfers that succeeded, in order. At any other point at most the last of them is missing.
The records are numbered from one on, by a counter of 64 bits that saturates. -/
theorem transcript {config : ChargerConfig} {opening : List (Event ChargerEffect)}
    {r : Except ChargerError Unit} {s₀ : Charger}
    (h : Charger.openSession.Yields (Charger.new config) opening r s₀) :
    (∀ turns s, History Call.run s₀ turns s →
      journalled (opening ++ turnExchanges turns) = transfers (opening ++ turnExchanges turns) ∧
        Numbered (opening ++ turnExchanges turns)) ∧
      ∀ log, Session Call.run s₀ log →
        (∃ owed : Option Transfer, transfers (opening ++ exchanges log) =
          journalled (opening ++ exchanges log) ++ owed.toList) ∧
          Numbered (opening ++ exchanges log) := by
  obtain ⟨hmeets, hbalanced⟩ := opening_balanced h
  constructor
  · intro turns s hcalls
    -- complete calls leave nothing owed, so the journal is all of the transfers
    obtain ⟨hrest, hend⟩ := hcalls.meets Call.balanced _ hbalanced
    obtain ⟨hshown, hnumbered⟩ := Ledger.transcribed (.append ledger hmeets fun _ => hrest)
    have hpaid : Balanced s (ledger.after (⟨0, none⟩ : Ledger) (opening ++ turnExchanges turns)) :=
      (ledger.after_append _ _ _).trans (hend (ledger_allowed _))
    rw [congrArg Ledger.owed hpaid] at hshown
    exact ⟨(hshown.trans (List.append_nil _)).symm, hnumbered⟩
  · intro log hsession
    -- a call cut short may owe its last transfer
    have hrest := hsession.meets Call.balanced _ hbalanced
    obtain ⟨hshown, hnumbered⟩ := Ledger.transcribed (.append ledger hmeets fun _ => hrest)
    exact ⟨⟨_, hshown⟩, hnumbered⟩

end

/-- A bench on which a charging port is identified at once. -/
def chargingPort : Bench := ⟨[(1, 0)], patternDcp, 0, [], []⟩

/-- A session of four calls whose journal tells each transfer. -/
theorem transcript_chargingPort : ∃ opening s₀ turns s,
    @Reaches ⟨0⟩ .forNabu opening s₀ turns s ∧
      turns.map (fun turn => (transfers turn.trace).length) = [2, 5, 2, 2] ∧
      journalled (opening ++ turnExchanges turns) =
        transfers (opening ++ turnExchanges turns) := by
  obtain ⟨opening, s₀, turns, s, hreach, hlengths⟩ := @Bench.exists_reaches ⟨0⟩
    (fun _ turns _ => turns.map (fun turn => (transfers turn.trace).length) = [2, 5, 2, 2]) _
    chargingPort .forNabu [.detectStep, .apply .dcp, .monitor, .close] (by decide +kernel)
  have hreach' := hreach
  obtain ⟨hopened, hcalls⟩ := hreach'
  exact ⟨opening, s₀, turns, s, hreach, hlengths,
    ((@transcript ⟨0⟩ _ _ _ _ hopened).1 turns s hcalls).1⟩

/-! ### The number saturates -/

section
variable [LoopFuel]

/-- A peripheral whose link does not come back. -/
def noLink : Unit → (o : ChargerOp) → ChargerEffect.Resp o × Unit
  | _, .name => (("bench" : String), ())
  | _, .read _ => ((.error (.disconnected "no link") : Except TransportError Byte), ())
  | _, .write _ _ => ((.error (.disconnected "no link") : Except TransportError Unit), ())
  | _, .reset => ((.error (.disconnected "no link") : Except TransportError Unit), ())
  | _, .nowMs => ((0 : Nat), ())
  | _, .event _ => ((() : Unit), ())

/-- A link reset that fails is journalled, and the session stays open. -/
theorem reinit_records {s : Charger} (hopen : s.state ≠ .closed) :
    ∃ t r s', Call.reinit.run.Yields s t r s' ∧ s'.state ≠ .closed ∧ 1 ≤ (records t).length := by
  have hran {out : Except ChargerError Answer × Charger}
      (hret : ((Call.reinit.run s).runWith noLink ()).2.2 = some out) :
      Call.reinit.run.Yields s ((Call.reinit.run s).runWith noLink ()).1 out.1 out.2 :=
    Prog.yields_runWith (E := ChargerEffect) noLink _ () out hret
  obtain ⟨config, state, adapter, detectStartedMs, reruns, attempts, seq, requestId, stats⟩ := s
  cases state with
  | closed => exact absurd rfl hopen
  | idle => exact ⟨_, _, _, hran rfl, nofun, Nat.succ_le_succ (Nat.zero_le _)⟩
  | detecting => exact ⟨_, _, _, hran rfl, nofun, Nat.succ_le_succ (Nat.zero_le _)⟩
  | ready => exact ⟨_, _, _, hran rfl, nofun, Nat.succ_le_succ (Nat.zero_le _)⟩
  | faulted => exact ⟨_, _, _, hran rfl, nofun, Nat.succ_le_succ (Nat.zero_le _)⟩

omit [LoopFuel] in
/-- The records of two traces in a row are those of each. -/
theorem records_append (t u : List (Event ChargerEffect)) :
    records (t ++ u) = records t ++ records u :=
  List.filterMap_append

/-- An open session can be made to journal any number of records. -/
theorem many_records (n : Nat) : ∀ s : Charger, s.state ≠ .closed →
    ∃ turns s', History Call.run s turns s' ∧ n ≤ (records (turnExchanges turns)).length := by
  induction n with
  | zero => exact fun s _ => ⟨[], s, .done s, Nat.zero_le _⟩
  | succ n ih =>
      intro s hopen
      obtain ⟨t, r, s₁, hrun, hopen₁, hone⟩ := reinit_records hopen
      obtain ⟨turns, s', hrest, hmany⟩ := ih s₁ hopen₁
      refine ⟨_, s', .step hrun hrest, ?_⟩
      rw [turnExchanges_cons, records_append, List.length_append]
      exact Nat.add_comm n 1 ▸ Nat.add_le_add hone hmany

end

/-- In a session with `2^64` records, the last two have the same number. -/
theorem not_consecutive : ∃ opening s₀ turns s, @Reaches ⟨0⟩ .forNabu opening s₀ turns s ∧
    ∃ i a b, (records (opening ++ turnExchanges turns))[i]? = some a ∧
      (records (opening ++ turnExchanges turns))[i + 1]? = some b ∧ b.seq = a.seq := by
  obtain ⟨opening, s₀, _, _, ⟨hopened, -⟩, hidle⟩ := @Bench.exists_reaches ⟨0⟩
    (fun s₀ _ _ => s₀.state = .idle) _ chargingPort .forNabu [] (by decide +kernel)
  obtain ⟨turns, s, hcalls, hmany⟩ :=
    @many_records ⟨0⟩ (wordMax 64 + 1) s₀ (by rw [hidle]; decide)
  have hnumbered := ((@transcript ⟨0⟩ _ _ _ _ hopened).1 turns s hcalls).2
  -- enough records to pass the largest number
  have hlength : wordMax 64 + 1 ≤ (records (opening ++ turnExchanges turns)).length := by
    rw [records_append, List.length_append]
    omega
  obtain ⟨n, hn⟩ : ∃ n, wordMax 64 = n + 1 := Nat.exists_eq_add_one.2 (by simp [wordMax])
  -- from there on two records in a row have the same number
  have hfirst : n < (records (opening ++ turnExchanges turns)).length := by omega
  have hsecond : n + 1 < (records (opening ++ turnExchanges turns)).length := by omega
  refine ⟨opening, s₀, turns, s, @Reaches.mk ⟨0⟩ _ _ _ _ _ hopened hcalls, n, _, _,
    List.getElem?_eq_getElem hfirst, List.getElem?_eq_getElem hsecond, ?_⟩
  rw [hnumbered _ _ (List.getElem?_eq_getElem hfirst),
    hnumbered _ _ (List.getElem?_eq_getElem hsecond), hn]
  omega

end ChargerCore
