import NabuCharger.Kmdf.Spb
import NabuCharger.Wdf.SpmiTransport

/-!
# `Proofs.RequestReuse`: the cached request of the two transports

Both transports use one request for every exchange, and the framework allows a reuse only of a
completed one. `requestWatch` is that rule with its history.

The I²C transport keeps it. Its invariant is short: if a send has failed, the bus knows
(`LostIsMarked`). One lemma about the shared sequence (`exchange_wp`) then carries all five
operations, whatever they do with the status, and `request_discipline` holds of every session.

The SPMI transport keeps it only while every send comes back completed
(`spmi_discipline`). When a send fails, `send` reuses the request that the target still has.
The flag `SYNCHRONOUS` is missing too, so a send that returns `true` may leave the request
pending, with the same result.
-/

set_option autoImplicit false

namespace Kmdf.Spb

open Effectful Ln8000 Wdf

/-! ### The I²C transport -/

/-- The rule, for a framework that keeps its promise about synchronous sends. -/
abbrev spbWatch : Machine WdfEffect := requestWatch.assuming SynchronousCompletes

/-- A failed send was marked. -/
def LostIsMarked (bus : SpbBus) (c : spbWatch.State) : Prop :=
  c.lost = true → bus.requestLost = true

/-- No send has failed. -/
def RequestHeld (_ : SpbBus) (c : spbWatch.State) : Prop := c.lost = false

/-- A request not marked as lost is still the driver's. -/
theorem LostIsMarked.held {bus : SpbBus} {c : spbWatch.State} (h : LostIsMarked bus c)
    (hbus : bus.requestLost = false) : RequestHeld bus c := by
  unfold RequestHeld
  cases hc : c.lost with
  | false => rfl
  | true => rw [h hc] at hbus; exact hbus

/-- A request the driver holds is not lost. -/
theorem RequestHeld.marked {bus : SpbBus} {c : spbWatch.State} (h : RequestHeld bus c) :
    LostIsMarked bus c := by
  intro hc
  rw [RequestHeld, hc] at h
  exact absurd h (by decide)

/-- The request is completed and no send has failed: the reply is read. -/
def RequestCompleted (_ : SpbBus) (c : spbWatch.State) : Prop :=
  c.lost = false ∧ c.place = .completed

/-- The shared sequence, from a request that is the driver's to use. -/
theorem exchange_wp {γ : Type} {ioctl : Nat} {input output : Option Memory} {reason : String}
    {collect : Int → SpbM γ}
    (hcollect : ∀ status, Proc.Keeps spbWatch RequestCompleted (collect status))
    {bus : SpbBus} {c : spbWatch.State} (h : RequestHeld bus c) :
    (exchange ioctl input output reason collect).wp spbWatch
      (fun _ bus' c' => LostIsMarked bus' c') bus c := by
  refine (Proc.wp_perform_bind (M := spbWatch) bus c
    (WdfOp.formatForIoctl ioctl input output) _ _).2 ⟨h, fun status _ => ?_⟩
  refine Proc.wp_ite (fun _ => (Proc.Keeps.pure _).run bus c h.marked) fun _ => ?_
  refine (Proc.wp_perform_bind (M := spbWatch) bus _ (WdfOp.send sendOptions) _ _).2
    ⟨h, fun (sent : Sent) hsent => ?_⟩
  refine Proc.wp_ite (fun _ => ?_) fun hok => ?_
  · -- the target keeps the request, and the bus marks it
    refine (Proc.wp_bind _ _ _ _ _).2 ((Proc.wp_modify_bind _ _ _ _ _).2 ?_)
    exact (Proc.wp_pure _ _ _ _).2 ((Proc.wp_pure _ _ _ _).2 fun _ => rfl)
  · -- a synchronous send that did not fail has completed the request
    have hdone : sent = Sent.completed := by
      have hpending := hsent.2 rfl
      cases sent with
      | failed => exact absurd rfl hok
      | pending => exact absurd rfl hpending
      | completed => rfl
    subst hdone
    have hcompleted : RequestCompleted bus (spbWatch.next c (.send sendOptions) Sent.completed) :=
      ⟨(Bool.or_false _).trans h, rfl⟩
    refine (Proc.wp_perform_bind (M := spbWatch) bus _ WdfOp.getStatus _ _).2
      ⟨trivial, fun status _ => ?_⟩
    refine (Proc.wp_modify_bind _ _ _ _ _).2 ?_
    refine (hcollect status).wp_bind hcompleted (fun reply bus' c' h' => ?_)
      fun _ _ _ h' => RequestHeld.marked h'.1
    exact (Proc.wp_perform_bind (M := spbWatch) bus' c' WdfOp.reuse _ _).2
      ⟨h', fun _ _ => (Proc.wp_pure _ _ _ _).2 (RequestHeld.marked h'.1)⟩

/-- What follows the check of the cached request starts with a request to use. -/
theorem cachedRequest_bind {β : Type} {f : Unit → SpbM β}
    (hf : ∀ bus c, RequestHeld bus c →
      (f ()).wp spbWatch (fun _ bus' c' => LostIsMarked bus' c') bus c) :
    Proc.Keeps spbWatch LostIsMarked (cachedRequest >>= f) := by
  refine ⟨fun bus c h => (Proc.wp_bind bus c _ _ _).2 ?_⟩
  refine (Proc.wp_get_bind bus c _ _).2 (Proc.wp_ite (fun _ => ?_) fun hbus => ?_)
  · exact (Proc.wp_fail _ _ _ _).2 h
  · exact (Proc.wp_pure _ _ _ _).2 (hf bus c (h.held (Bool.eq_false_iff.2 hbus)))

/-- Filling the transfer list touches no request. -/
theorem prepare_keeps (addr : RegAddr) (value : Option Byte) :
    Proc.Keeps spbWatch RequestHeld (prepare addr value) := by
  refine .get_bind fun bus _ _ => ?_
  split
  · exact .modify fun _ _ h => h
  · exact .fail _

/-- Filling the 16-bit transfer list touches no request. -/
theorem prepareSpmi16_keeps (addr : BitVec 16) (value : Option Byte) (bigEndian : Bool) :
    Proc.Keeps spbWatch RequestHeld (prepareSpmi16 addr value bigEndian) := by
  refine .get_bind fun bus _ _ => ?_
  split
  · exact .modify fun _ _ h => h
  · exact .fail _

/-- An operation that runs the sequence and then only looks at how it ended. -/
theorem exchange_bind_wp {β γ : Type} {ioctl : Nat} {input output : Option Memory}
    {reason : String} {collect : Int → SpbM γ} {f : Exchange γ → SpbM β}
    (hcollect : ∀ status, Proc.Keeps spbWatch RequestCompleted (collect status))
    (hf : ∀ ended, Proc.Keeps spbWatch LostIsMarked (f ended)) {bus : SpbBus}
    {c : spbWatch.State} (h : RequestHeld bus c) :
    (exchange ioctl input output reason collect >>= f).wp spbWatch
      (fun _ bus' c' => LostIsMarked bus' c') bus c := by
  refine (Proc.wp_bind bus c _ _ _).2 (Proc.wp_mono (exchange_wp hcollect h) ?_)
  intro out bus' c' h'
  cases out with
  | error err => exact h'
  | ok ended => exact (hf ended).run bus' c' h'

/-- A transfer may lose its request to the target, and marks it then. -/
theorem executeSequence_wp (value : Option Byte) (offset : Nat)
    (rejected unanswered failed : String) {bus : SpbBus} {c : spbWatch.State}
    (h : RequestHeld bus c) :
    (executeSequence value offset rejected unanswered failed).wp spbWatch
      (fun _ bus' c' => LostIsMarked bus' c') bus c := by
  have hread : Proc.Keeps spbWatch RequestCompleted
      (Proc.perform (E := WdfEffect) (.readByte .data offset) : SpbM Byte) :=
    .perform fun _ _ h => ⟨trivial, fun _ _ => h⟩
  refine (Proc.wp_get_bind bus c _ _).2 (exchange_bind_wp (fun _ => hread) (fun ended => ?_) h)
  cases ended with
  | rejected status => exact .fail _
  | lost err => exact .fail _
  | done status byte => exact .ite (fun _ => .fail _) fun _ => .pure _

/-- A register transaction marks the request it loses. -/
theorem transact_keeps (addr : RegAddr) (value : Option Byte) :
    Proc.Keeps spbWatch LostIsMarked (transact addr value) :=
  cachedRequest_bind fun _ _ h =>
    (prepare_keeps addr value).wp_bind h (fun _ _ _ h' => executeSequence_wp _ _ _ _ _ h')
      fun _ _ _ h' => h'.marked

/-- A 16-bit transaction marks the request it loses. -/
theorem transactSpmi16_keeps (addr : BitVec 16) (value : Option Byte) (bigEndian : Bool) :
    Proc.Keeps spbWatch LostIsMarked (transactSpmi16 addr value bigEndian) :=
  cachedRequest_bind fun _ _ h =>
    (prepareSpmi16_keeps addr value bigEndian).wp_bind h
      (fun _ _ _ h' => executeSequence_wp _ _ _ _ _ h') fun _ _ _ h' => h'.marked

/-- A control request may lose its request to the target, and marks it then. -/
theorem controlRequest_wp {γ : Type} (ioctl : Nat) (input output : Option Memory)
    {collect : Int → SpbM γ}
    (hcollect : ∀ status, Proc.Keeps spbWatch RequestCompleted (collect status))
    {bus : SpbBus} {c : spbWatch.State} (h : RequestHeld bus c) :
    (controlRequest ioctl input output collect).wp spbWatch
      (fun _ bus' c' => LostIsMarked bus' c') bus c := by
  refine exchange_bind_wp hcollect (fun ended => ?_) h
  cases ended with
  | rejected status => exact .bind (.modify fun _ _ h => h) fun _ => .pure _
  | lost err => exact .pure _
  | done status reply => exact .pure _

/-- Reading the answer of an attach touches no request. -/
theorem readAttachWords_keeps (status : Int) :
    Proc.Keeps spbWatch RequestCompleted (readAttachWords status) := by
  have hword : ∀ offset, Proc.Keeps spbWatch RequestCompleted
      (Proc.perform (E := WdfEffect) (.readWord .attachOut offset) : SpbM (BitVec 32)) :=
    fun _ => .perform fun _ _ h => ⟨trivial, fun _ _ => h⟩
  refine .ite (fun _ => ?_) fun _ => .pure _
  exact .bind (hword 0) fun _ => .bind (hword 4) fun _ => .bind (hword 8) fun _ =>
    .bind (hword 12) fun _ => .modify fun _ _ h => h

/-- An attach marks the request it loses. -/
theorem attach_keeps : Proc.Keeps spbWatch LostIsMarked attach := by
  refine ⟨fun bus c h => (Proc.wp_get_bind bus c _ _).2 ?_⟩
  refine Proc.wp_ite (fun _ => (Proc.Keeps.pure _).run bus c h) fun hbus => ?_
  refine Proc.wp_ite (fun _ => (Proc.Keeps.pure _).run bus c h) fun _ => ?_
  refine (Proc.wp_modify_bind _ _ _ _ _).2 (controlRequest_wp _ _ _ readAttachWords_keeps ?_)
  exact h.held (Bool.eq_false_iff.2 hbus)

/-- A probe marks the request it loses. -/
theorem probeIoctl_keeps (code : Nat) : Proc.Keeps spbWatch LostIsMarked (probeIoctl code) := by
  refine ⟨fun bus c h => (Proc.wp_get_bind bus c _ _).2 ?_⟩
  refine Proc.wp_ite (fun _ => (Proc.Keeps.pure _).run bus c h) fun hbus => ?_
  exact controlRequest_wp _ _ _ (fun _ => .pure _) (h.held (Bool.eq_false_iff.2 hbus))

/-- Each call of the bus marks the request it loses. -/
theorem call_keeps (call : Call) : Proc.Keeps spbWatch LostIsMarked call.run := by
  cases call with
  | setVariant variant => exact .modify fun _ _ h => h
  | transact addr value => exact .discard (transact_keeps addr value)
  | transactSpmi16 addr value bigEndian =>
      exact .discard (transactSpmi16_keeps addr value bigEndian)
  | attach => exact .discard attach_keeps
  | probeIoctl code => exact .discard (probeIoctl_keeps code)
  | lockConnection => exact .discard (probeIoctl_keeps _)

/-- In every session of the transport, from a fresh request, the framework's rule is kept: after a
failed send the request is not formatted, sent or reused again, and every reuse finds it
completed. -/
theorem request_discipline {bus : SpbBus} {log : List (Entry WdfEffect SpbBus Call)}
    (h : Session Call.run bus log)
    (hwdf : ∀ e ∈ exchanges log, SynchronousCompletes e.op e.resp) :
    requestWatch.Meets Custody.fresh (exchanges log) := by
  have hmeets : spbWatch.Meets Custody.fresh (exchanges log) :=
    h.meets call_keeps Custody.fresh fun hc => absurd hc (by decide)
  exact hmeets.of_assuming hwdf

/-- A transaction that goes through, one whose send fails, and two that are turned away. -/
theorem request_discipline_lost :
    ∃ log, Session Call.run SpbBus.opened log ∧
      (∀ e ∈ exchanges log, SynchronousCompletes e.op e.resp) ∧
      requestWatch.Meets Custody.fresh (exchanges log) := by
  have h := Session.session_execute (E := WdfEffect) scripted Call.run
    [.transact Regs.deviceId none, .attach, .transact Regs.deviceId none, .lockConnection]
    [.completed, .failed] SpbBus.opened
  have hwdf : ∀ e ∈ exchanges (Session.execute (E := WdfEffect) scripted Call.run
      [.completed, .failed] SpbBus.opened
      [.transact Regs.deviceId none, .attach, .transact Regs.deviceId none, .lockConnection]),
      SynchronousCompletes e.op e.resp := by
    decide
  exact ⟨_, h, hwdf, request_discipline h hwdf⟩

end Kmdf.Spb

namespace Wdf.SpmiTransport

open Effectful Ln8000

/-! ### The SPMI transport -/

/-- What is noted: the rule of the framework, and whether every send came back completed. -/
abbrev spmiVerdict : Machine WdfEffect := requestWatch.verdict SendCompletes

/-- The rule has been met exactly if every send came back completed, and then no send has
failed. -/
abbrev MetIfCompleted : SpmiTransport → spmiVerdict.State → Prop :=
  Together requestWatch SendCompletes fun _ c => c.lost = false

/-- The request is completed, and whatever was sent before was too. -/
def CompletedNow (transport : SpmiTransport) (m : spmiVerdict.State) : Prop :=
  MetIfCompleted transport m ∧ m.1.place = .completed

/-- The target has the request although the send returned. -/
def LeftAtTarget (_ : SpmiTransport) (m : spmiVerdict.State) : Prop :=
  m.1.place = .target ∧ ¬m.2.2

/-- A step that the rule asks nothing of, and that moves nothing. -/
theorem MetIfCompleted.quiet {transport : SpmiTransport} {c : Custody} {met good : Prop}
    (h : MetIfCompleted transport (c, met, good)) :
    MetIfCompleted transport (c, met ∧ True, good ∧ True) := by
  rw [and_true, and_true]
  exact h

/-- Formatting a request leaves the verdict on the ones before. -/
theorem MetIfCompleted.formatted {transport : SpmiTransport} {m : spmiVerdict.State}
    (h : MetIfCompleted transport m) (ioctl : Nat) (input output : Option Memory) (status : Int) :
    MetIfCompleted transport (spmiVerdict.next m (.formatForIoctl ioctl input output) status) := by
  obtain ⟨hmet, hlost⟩ := h
  refine ⟨?_, fun hgood => hlost hgood.1⟩
  exact ⟨fun h => ⟨hmet.1 h.1, trivial⟩, fun h => ⟨hmet.2 h.1, hlost h.1⟩⟩

/-- A send that completes is met by its completion. -/
theorem MetIfCompleted.sent {transport : SpmiTransport} {m : spmiVerdict.State}
    (h : MetIfCompleted transport m) (options : SendOptions) :
    CompletedNow transport (spmiVerdict.next m (.send options) Sent.completed) := by
  obtain ⟨hmet, hlost⟩ := h
  have hsame : (m.1.lost || Sent.completed == Sent.failed) = m.1.lost := Bool.or_false _
  refine ⟨⟨?_, fun hgood => hsame.trans (hlost hgood.1)⟩, rfl⟩
  exact ⟨fun h => ⟨hmet.1 h.1, rfl⟩, fun h => ⟨hmet.2 h.1, hlost h.1⟩⟩

/-- A send that does not complete leaves the request at its target. -/
theorem leftAtTarget_of_sent (transport : SpmiTransport) (m : spmiVerdict.State)
    (options : SendOptions) {sent : Sent} (hsent : sent ≠ .completed) :
    LeftAtTarget transport (spmiVerdict.next m (.send options) sent) := by
  refine ⟨?_, fun hgood => hsent hgood.2⟩
  show sent.place = .target
  cases sent with
  | failed => rfl
  | pending => rfl
  | completed => exact absurd rfl hsent

/-- The reuse after a completed send gives the request back. -/
theorem CompletedNow.reuse {transport : SpmiTransport} {m : spmiVerdict.State}
    (h : CompletedNow transport m) :
    spmiVerdict.require m .reuse ∧ MetIfCompleted transport (spmiVerdict.next m .reuse ()) := by
  obtain ⟨⟨hmet, hlost⟩, hplace⟩ := h
  refine ⟨fun hgood => ⟨hlost hgood, hplace⟩, ?_, fun hgood => hlost hgood.1⟩
  exact ⟨fun h => ⟨hmet.1 h.1, trivial⟩, fun h => ⟨hmet.2 h.1, hlost h.1, hplace⟩⟩

/-- The reuse of a request the target has breaks the rule, for good. -/
theorem LeftAtTarget.reuse {transport : SpmiTransport} {m : spmiVerdict.State}
    (h : LeftAtTarget transport m) :
    spmiVerdict.require m .reuse ∧ MetIfCompleted transport (spmiVerdict.next m .reuse ()) := by
  obtain ⟨hplace, hbad⟩ := h
  have hbroken : ¬(m.2.1 ∧ m.1.lost = false ∧ m.1.place = .completed) := by
    rw [hplace]
    exact fun h => nomatch h.2.2
  refine ⟨fun hgood => absurd hgood hbad, ?_, fun hgood => absurd hgood.1 hbad⟩
  exact ⟨fun h => absurd h hbroken, fun h => absurd h.1 hbad⟩

/-- The rest of a transaction whose send returned nonzero. -/
theorem finish_keeps {I : SpmiTransport → spmiVerdict.State → Prop}
    (hstatus : ∀ transport m status, I transport m →
      I transport (spmiVerdict.next m .getStatus status))
    (hreuse : ∀ transport m, I transport m → spmiVerdict.require m .reuse ∧
      MetIfCompleted transport (spmiVerdict.next m .reuse ()))
    {transport : SpmiTransport} {m : spmiVerdict.State} (h : I transport m) :
    (do
      let status ← Proc.perform (E := WdfEffect) .getStatus
      Proc.perform (E := WdfEffect) .reuse
      if ntOk status = false then Proc.fail (.io "the SPMI bus returned a failure")
      else pure () : SpmiM Unit).wp spmiVerdict (fun _ => MetIfCompleted) transport m := by
  refine (Proc.wp_perform_bind (M := spmiVerdict) transport m WdfOp.getStatus _ _).2
    ⟨fun _ => trivial, fun status _ => ?_⟩
  -- the status is read before the request is reused
  obtain ⟨hreq, hend⟩ := hreuse transport _ (hstatus transport m status h)
  refine (Proc.wp_perform_bind (M := spmiVerdict) transport _ WdfOp.reuse _ _).2
    ⟨hreq, fun _ _ => ?_⟩
  exact Proc.wp_ite (fun _ => (Proc.Keeps.fail _).run _ _ hend)
    fun _ => (Proc.Keeps.pure _).run _ _ hend

/-- One transaction keeps the two together, however its send comes back. -/
theorem send_keeps : Proc.Keeps spmiVerdict MetIfCompleted send := by
  refine .bind (.perform fun _ m h => ⟨h.2, fun _ _ => h.formatted _ _ _ _⟩) fun status => ?_
  refine .ite (fun _ => .fail _) fun _ => .get_bind fun transport _ _ => ⟨fun transport' m h => ?_⟩
  refine (Proc.wp_perform_bind (M := spmiVerdict) transport' m (WdfOp.send _) _ _).2
    ⟨h.2, fun (sent : Sent) _ => ?_⟩
  refine Proc.wp_ite (fun hfailed => ?_) fun _ => ?_
  · -- the request is with the target, and the code reuses it
    have hnot : sent ≠ .completed := by
      rw [hfailed]
      decide
    obtain ⟨hreq, hend⟩ := (leftAtTarget_of_sent transport' m _ hnot).reuse
    refine (Proc.wp_perform_bind (M := spmiVerdict) transport' _ WdfOp.reuse _ _).2
      ⟨hreq, fun _ _ => ?_⟩
    exact (Proc.Keeps.fail _).run _ _ hend
  · by_cases hdone : sent = .completed
    · subst hdone
      have hstatus : ∀ transport m status, CompletedNow transport m →
          CompletedNow transport (spmiVerdict.next m .getStatus status) :=
        fun _ _ _ h => ⟨h.1.quiet, h.2⟩
      exact finish_keeps hstatus (fun _ _ h => h.reuse) (h.sent _)
    · -- without the flag, a send may return before the target is done
      have hstatus : ∀ transport m status, LeftAtTarget transport m →
          LeftAtTarget transport (spmiVerdict.next m .getStatus status) :=
        fun _ _ _ h => ⟨h.1, fun hgood => h.2 hgood.1⟩
      exact finish_keeps hstatus (fun _ _ h => h.reuse)
        (leftAtTarget_of_sent transport' m _ hdone)

/-- Beginning a transfer keeps the verdict. -/
theorem begin_keeps (list : TransferList) (count : Nat) :
    Proc.Keeps spmiVerdict MetIfCompleted (begin list count) :=
  .ite (fun _ => .fail _) fun _ => .pure _

/-- A register write trusts only a completed request. -/
theorem writeReg_keeps (addr : BitVec 16) (value : Byte) :
    Proc.Keeps spmiVerdict MetIfCompleted (writeReg addr value) := by
  refine .get_bind fun transport _ _ => ?_
  obtain ⟨area, data, config⟩ := transport
  match area, data with
  | some list, some data =>
      refine .bind (begin_keeps _ _) fun list => ?_
      exact .bind (.modify fun _ _ h => h) fun _ => send_keeps
  | some list, none => exact .fail _
  | none, _ => exact .fail _

/-- A register read trusts only a completed request. -/
theorem readReg_keeps (addr : BitVec 16) :
    Proc.Keeps spmiVerdict MetIfCompleted (readReg addr) := by
  have hreply : Proc.Keeps spmiVerdict MetIfCompleted
      (Proc.perform (E := WdfEffect) (.readByte .data 0) : SpmiM Byte) :=
    .perform fun _ m h => ⟨fun _ => trivial, fun _ _ => h.quiet⟩
  refine .get_bind fun transport _ _ => ?_
  obtain ⟨area, data, config⟩ := transport
  match area, data with
  | some list, some data =>
      refine .bind (begin_keeps _ _) fun list => .bind (.modify fun _ _ h => h) fun _ => ?_
      exact .bind send_keeps fun _ => hreply
  | some list, none => exact .fail _
  | none, _ => exact .fail _

/-- Each call of the transport trusts no status of a request it has not seen completed. -/
theorem call_keeps (call : Call) : Proc.Keeps spmiVerdict MetIfCompleted call.run := by
  cases call with
  | readReg addr => exact .discard (readReg_keeps addr)
  | writeReg addr value => exact writeReg_keeps addr value

/-- At any point of a run of register accesses in which every send has come back completed, the
framework's rule has been kept. A run of complete accesses keeps it in no other case. -/
theorem spmi_discipline {transport : SpmiTransport}
    {log : List (Entry WdfEffect SpmiTransport Call)}
    (h : Session Call.run transport log) :
    ((∀ e ∈ exchanges log, SendCompletes e.op e.resp) →
      requestWatch.Meets Custody.fresh (exchanges log)) ∧
    ∀ transport', Run Call.run transport log transport' →
      requestWatch.Meets Custody.fresh (exchanges log) →
        ∀ e ∈ exchanges log, SendCompletes e.op e.resp := by
  have hfresh : (fun (_ : SpmiTransport) (c : requestWatch.State) => c.lost = false) transport
      Custody.fresh := rfl
  refine ⟨fun hgood => h.meets_of_good call_keeps hfresh hgood, fun transport' hrun => ?_⟩
  exact (hrun.meets_iff (fun _ _ _ => trivial) call_keeps hfresh).1

/-- A read and a write that go through. -/
theorem spmi_discipline_answered :
    ∃ log, Session Call.run (opened .nabu) log ∧ log.length = 2 ∧
      requestWatch.Meets Custody.fresh (exchanges log) := by
  have h := Session.session_execute (E := WdfEffect) scripted Call.run
    [.readReg 0x1307, .writeReg 0x1340 1] [] (opened .nabu)
  have hgood : ∀ e ∈ exchanges (Session.execute (E := WdfEffect) scripted Call.run []
      (opened .nabu) [.readReg 0x1307, .writeReg 0x1340 1]), SendCompletes e.op e.resp := by
    decide
  exact ⟨_, h, rfl, (spmi_discipline h).1 hgood⟩

/-- The first read is not answered. Its request is reused while the target has it, and the second
read formats and sends it again. -/
theorem not_spmi_discipline :
    ∃ log, Session Call.run (opened .nabu) log ∧
      ¬requestWatch.Meets Custody.fresh (exchanges log) :=
  ⟨_, Session.session_execute (E := WdfEffect) scripted Call.run
    [.readReg 0x1307, .readReg 0x1307] [.failed] (opened .nabu), by decide⟩

end Wdf.SpmiTransport
