import NabuCharger.Host.Sim

/-!
# `Proofs.TcpPairing`: which request an answer is taken for

A response does not say which request it answers. A call that times out leaves its answer on the
connection, and nothing takes it off again: the reset of the transport sends `RESET` and reads a
line like every other call. So the next call reads the late answer, and the answers stay one behind
from then on.

The calls of a run are paired with their answers exactly when no call gets a stale line that fits it
(`paired_iff`). A line is stale if an earlier call has left it behind. It fits if it would
acknowledge the call, and if no read that timed out has taken its front. A line that has lost its
front fits nothing (`Answer.decode_rest`).
-/

set_option autoImplicit false

namespace Host

open Effectful ChargerCore

/-! ### The answers on the connection -/

/-- What is left to read are lines of the protocol, each with its end, for requests sent before. -/
structure InOrder {device : Device} (w : Wire device) : Prop where
  earlier : ∀ line ∈ w.unread, line.number < w.asked
  spoken : ∀ line ∈ w.unread, ∃ answer : Answer, line.text = answer.render
  left : ∀ line ∈ w.unread, line.rest <:+ line.text

section inOrder

variable {device : Device} {w : Wire device} {front : Unread} {others : List Unread}

/-- A new connection has an empty stream, which is in order. -/
theorem inOrder_connect (s : device.State) : InOrder (connect s).stream where
  earlier _ h := absurd h List.not_mem_nil
  spoken _ h := absurd h List.not_mem_nil
  left _ h := absurd h List.not_mem_nil

/-- The device answers with a line. -/
theorem InOrder.sent (h : InOrder w) (line : Text) : InOrder (w.sent line) where
  earlier other hother := by
    obtain hother | hown := List.mem_append.1 hother
    · exact Nat.lt_succ_of_lt (h.earlier other hother)
    · rw [List.mem_singleton.1 hown]
      exact Nat.lt_succ_self w.asked
  spoken other hother := by
    obtain hother | hown := List.mem_append.1 hother
    · exact h.spoken other hother
    · rw [List.mem_singleton.1 hown]
      exact device.speaks (trim line) w.device
  left other hother := by
    obtain hother | hown := List.mem_append.1 hother
    · exact h.left other hother
    · rw [List.mem_singleton.1 hown]
      exact List.suffix_rfl

/-- The front line has been read. -/
theorem InOrder.read (h : InOrder w) (hfront : w.unread = front :: others) :
    InOrder { w with unread := others } where
  earlier line hline := h.earlier line (hfront ▸ List.mem_cons_of_mem _ hline)
  spoken line hline := h.spoken line (hfront ▸ List.mem_cons_of_mem _ hline)
  left line hline := h.left line (hfront ▸ List.mem_cons_of_mem _ hline)

/-- A part of it has been read. -/
theorem InOrder.received (h : InOrder w) (hfront : w.unread = front :: others) (n : Nat) :
    InOrder { w with unread := { front with rest := front.rest.drop n } :: others } where
  earlier line hline := by
    obtain rfl | hline := List.mem_cons.1 hline
    · exact h.earlier front (hfront ▸ List.mem_cons_self)
    · exact h.earlier line (hfront ▸ List.mem_cons_of_mem _ hline)
  spoken line hline := by
    obtain rfl | hline := List.mem_cons.1 hline
    · exact h.spoken front (hfront ▸ List.mem_cons_self)
    · exact h.spoken line (hfront ▸ List.mem_cons_of_mem _ hline)
  left line hline := by
    obtain rfl | hline := List.mem_cons.1 hline
    · exact (List.drop_suffix n front.rest).trans (h.left front (hfront ▸ List.mem_cons_self))
    · exact h.left line (hfront ▸ List.mem_cons_of_mem _ hline)

/-- A request is followed by its answer, so there is a line in front. -/
theorem sent_front (w : Wire device) (line : Text) :
    ∃ front others, (w.sent line).unread = front :: others := by
  cases hunread : w.unread with
  | nil => exact ⟨w.answerTo line, [], by rw [Wire.sent, hunread]; rfl⟩
  | cons front others =>
      exact ⟨front, others ++ [w.answerTo line], by rw [Wire.sent, hunread]; rfl⟩

/-- A call keeps the order. -/
theorem InOrder.exchange {t : TcpTransport (Wire device)} (h : InOrder t.stream) (step : Step) :
    InOrder (step.exchange t).after.stream := by
  obtain ⟨call, arrival⟩ := step
  have hsent := h.sent (request call ++ ['\n'])
  obtain ⟨front, others, hfront⟩ := sent_front t.stream (request call ++ ['\n'])
  cases arrival with
  | line =>
      rw [exchange_line hfront]
      exact hsent.read hfront
  | timeout received =>
      rw [exchange_timeout received hfront]
      exact hsent.received hfront received

/-- Each exchange of a run is the step of its call, on a connection in order. -/
theorem inOrder_run {t : TcpTransport (Wire device)} (h : InOrder t.stream) (steps : List Step) :
    ∀ e ∈ run t steps, InOrder e.before.stream ∧ e = e.step.exchange e.before := by
  induction steps generalizing t with
  | nil => exact fun e he => absurd he List.not_mem_nil
  | cons step steps ih =>
      intro e he
      obtain rfl | he := List.mem_cons.1 he
      · exact ⟨h, rfl⟩
      · exact ih (h.exchange step) e he

end inOrder

/-! ### Pairing -/

namespace Exchange

variable {device : Device} (e : Exchange device)

/-- A call that returns `Ok` has read the answer of the device to its own request, and returns what
it says. -/
def Paired : Prop :=
  ∀ reply, e.result = .ok reply → e.taken = some e.own ∧ e.own.text = renderReply reply

/-- The line in front of a call that gets one is a late answer, whole, that would acknowledge it. -/
def Stale : Prop :=
  e.step.arrival = .line ∧ ∃ line ∈ e.before.stream.unread.head?,
    line.rest = line.text ∧ Acknowledges line.text e.step.call

end Exchange

variable {device : Device} {t : TcpTransport (Wire device)}

/-- A late answer is decoded as a reply exactly when it is whole and acknowledges the call. -/
theorem decode_late (call : TransportCall) {line : Unread} {answer : Answer}
    (htext : line.text = answer.render) (hleft : line.rest <:+ line.text) :
    (∃ reply, decode call (trim (line.rest ++ ['\n'])) = .ok reply) ↔
      line.rest = line.text ∧ Acknowledges line.text call := by
  constructor
  · intro ⟨reply, hreply⟩
    -- part of a line is no reply of any call
    by_cases hwhole : line.rest = line.text
    · rw [hwhole, htext, answer.trim_render] at hreply
      exact ⟨hwhole, htext ▸ (decode_render hreply).2⟩
    · rw [htext] at hleft hwhole
      exact absurd hreply (answer.decode_rest hleft hwhole)
  · intro ⟨hwhole, hack⟩
    -- an answer that acknowledges the call is the reply it would have got
    have hreply : ∃ reply, line.text = renderReply reply := by
      cases call with
      | read addr =>
          obtain ⟨value, hvalue⟩ := hack
          exact ⟨.value value, hvalue⟩
      | write addr value => exact ⟨.done, hack⟩
      | reset => exact ⟨.done, hack⟩
    obtain ⟨reply, hreply⟩ := hreply
    refine ⟨reply, ?_⟩
    rw [hwhole, hreply]
    have htrim := Answer.trim_render (.reply reply)
    have htrim' : trim (renderReply reply ++ ['\n']) = renderReply reply := htrim
    rw [htrim']
    exact decode_reply (hreply ▸ hack)

/-- One call is paired exactly when its line is not stale. -/
theorem paired_exchange (h : InOrder t.stream) (step : Step) :
    (step.exchange t).Paired ↔ ¬ (step.exchange t).Stale := by
  obtain ⟨call, arrival⟩ := step
  cases arrival with
  | timeout received =>
      obtain ⟨front, others, hfront⟩ := sent_front t.stream (request call ++ ['\n'])
      rw [exchange_timeout received hfront]
      refine iff_of_true (fun reply hreply => ?_) (fun hstale => ?_)
      · cases hreply
      · cases hstale.1
  | line =>
      cases hunread : t.stream.unread with
      | nil =>
          -- the line in front is the call's own
          have hfront : (t.stream.sent (request call ++ ['\n'])).unread =
              [t.stream.answerTo (request call ++ ['\n'])] := by
            rw [Wire.sent, hunread]
            rfl
          rw [exchange_line hfront]
          refine iff_of_true (fun reply hreply => ⟨?_, ?_⟩) (fun hstale => ?_)
          · show (t.stream.unread ++ [_]).head? = _
            rw [hunread]
            rfl
          · obtain ⟨answer, hanswer⟩ := device.speaks
              (trim (request call ++ ['\n'])) t.stream.device
            have hdecoded : decode call (trim (answer.render ++ ['\n'])) = .ok reply := by
              rw [← hanswer]
              exact hreply
            rw [answer.trim_render] at hdecoded
            have htext : (t.stream.answerTo (request call ++ ['\n'])).text = answer.render :=
              hanswer
            exact htext.trans (congrArg Answer.render (decode_render hdecoded).1)
          · obtain ⟨-, line, hline, -⟩ := hstale
            have hnone : line ∈ t.stream.unread.head? := hline
            rw [hunread] at hnone
            cases hnone
      | cons front others =>
          -- the line in front is a late answer to another request
          have hfront : (t.stream.sent (request call ++ ['\n'])).unread =
              front :: (others ++ [t.stream.answerTo (request call ++ ['\n'])]) := by
            rw [Wire.sent, hunread]
            rfl
          have hmem : front ∈ t.stream.unread := hunread ▸ List.mem_cons_self
          obtain ⟨answer, htext⟩ := h.spoken front hmem
          have hlate := decode_late call htext (h.left front hmem)
          rw [exchange_line hfront]
          constructor
          · intro hpaired hstale
            obtain ⟨-, line, hline, hfits⟩ := hstale
            have hsame : line ∈ t.stream.unread.head? := hline
            rw [hunread] at hsame
            have hline : front = line := Option.some.inj hsame
            obtain ⟨reply, hreply⟩ := hlate.2 (hline ▸ hfits)
            have htaken := (hpaired reply hreply).1
            have hown : (t.stream.unread ++
                [t.stream.answerTo (request call ++ ['\n'])]).head? =
              some (t.stream.answerTo (request call ++ ['\n'])) := htaken
            rw [hunread] at hown
            have hnumber : front.number = t.stream.asked :=
              congrArg Unread.number (Option.some.inj hown)
            exact absurd hnumber (Nat.ne_of_lt (h.earlier front hmem))
          · intro hfresh reply hreply
            refine absurd ⟨rfl, front, ?_, hlate.1 ⟨reply, hreply⟩⟩ hfresh
            show front ∈ t.stream.unread.head?
            rw [hunread]
            rfl

/-- The calls of a run are paired with their answers exactly when none of them gets a stale line
that would acknowledge it. -/
theorem paired_iff (device : Device) (s : device.State) (steps : List Step) :
    (∀ e ∈ run (connect s) steps, e.Paired) ↔ ∀ e ∈ run (connect s) steps, ¬ e.Stale := by
  have hsteps := inOrder_run (inOrder_connect s) steps
  refine forall₂_congr fun e he => ?_
  obtain ⟨horder, hstep⟩ := hsteps e he
  rw [hstep]
  exact paired_exchange horder e.step

/-! ### The value of another register -/

/-- The status register is read and times out, then the result register is read in time. -/
def lateSteps : List Step :=
  [⟨.read apsdResultStatus, .timeout 0⟩, ⟨.read apsdStatus, .line⟩]

/-- The second read returns the value of the first register: of a simulator that reports a DCP
adapter it reads the status as `0x08`, and the simulator has answered `0x01` to it. -/
theorem not_paired_lateSteps :
    ¬ ∀ e ∈ run (connect (ScriptedMockTransport.forAdapter .dcp) : TcpTransport (Wire simulator))
      lateSteps, e.Paired := by
  intro h
  have hpaired := h _ (List.mem_cons_of_mem _ List.mem_cons_self)
  have htext := (hpaired (.value 0x08) rfl).2
  exact absurd htext (by decide)

end Host
