import NabuCharger.Host.Sim

/-!
# `Proofs.TcpRefinement`: the transport over TCP does what the register model does

Take a register model in any state, with any queue of faults, and any list of calls. Make the calls
over TCP, against the simulator and without a timeout, and make them on the model itself. Each call
returns `Ok` here exactly when it does there, with the same value, and the device is in the same
state behind it (`tcp_refines`).

The errors differ: every error of the model arrives as the `ERR 1` of the simulator.
-/

set_option autoImplicit false

namespace Host

open Effectful ChargerCore

/-- What the calls return when they return `Ok`, and the state behind each. -/
def answers {τ : Type} (transport : ChargerTransport τ) :
    τ → List TransportCall → List (Option Reply × τ)
  | _, [] => []
  | s, call :: calls =>
      let (answer, s') := call.run transport s
      (answer.toOption, s') :: answers transport s' calls

/-- A call on any transport returns what its response can say. -/
theorem acknowledges_of_run {τ : Type} {transport : ChargerTransport τ} {call : TransportCall}
    {s : τ} {reply : Reply} (h : (call.run transport s).1 = .ok reply) :
    Acknowledges (renderReply reply) call := by
  have hmap : ∀ {α : Type} (x : TransportM τ α) (f : α → Reply),
      (x >>= fun a => pure (f a)) s = (f <$> (x s).1, (x s).2) := fun x f =>
    TransportM.bind_return rfl f
  -- what the device returned is the reply of its call
  cases call with
  | read addr =>
      rw [show TransportCall.run transport (.read addr) s = _ from
        hmap (transport.read addr) .value] at h
      obtain ⟨value, -, rfl⟩ := map_ok h
      exact ⟨value, rfl⟩
  | write addr value =>
      rw [show TransportCall.run transport (.write addr value) s = _ from
        hmap (transport.write addr value) fun _ => .done] at h
      obtain ⟨answered, -, rfl⟩ := map_ok h
      rfl
  | reset =>
      rw [show TransportCall.run transport .reset s = _ from
        hmap transport.reset fun _ => .done] at h
      obtain ⟨answered, -, rfl⟩ := map_ok h
      rfl

/-- The client decodes the answer of the device as what the register model did. -/
theorem decode_answerOf (call : TransportCall) (mock : ScriptedMockTransport) :
    (decode call (answerOf (call.run ScriptedMockTransport.transport mock).1).render).toOption =
      (call.run ScriptedMockTransport.transport mock).1.toOption := by
  cases hrun : (call.run ScriptedMockTransport.transport mock).1 with
  | ok reply =>
      have hdecoded : decode call (answerOf (.ok reply)).render = .ok reply :=
        decode_reply (acknowledges_of_run hrun)
      rw [hdecoded]
  | error err => cases call <;> rfl

/-- One call, on a connection with nothing left to read. -/
theorem exchange_simulator {t : TcpTransport (Wire simulator)} (hquiet : t.stream.unread = [])
    (call : TransportCall) :
    let e := Step.exchange ⟨call, .line⟩ t
    e.result.toOption = (call.run ScriptedMockTransport.transport t.stream.device).1.toOption ∧
      e.after.stream.device = (call.run ScriptedMockTransport.transport t.stream.device).2 ∧
      e.after.stream.unread = [] := by
  have hserved := dispatch_request call t.stream.device
  -- nothing was left unread, so the line read is the answer to this request
  have hfront : (t.stream.sent (request call ++ ['\n'])).unread =
      [t.stream.answerTo (request call ++ ['\n'])] := by
    rw [Wire.sent, hquiet]
    rfl
  have htext : (t.stream.answerTo (request call ++ ['\n'])).rest =
      (answerOf (call.run ScriptedMockTransport.transport t.stream.device).1).render :=
    congrArg Prod.fst hserved
  rw [exchange_line hfront]
  refine ⟨?_, congrArg Prod.snd hserved, rfl⟩
  rw [htext, Answer.trim_render]
  exact decode_answerOf call t.stream.device

/-- The calls over TCP against the simulator return what the calls on the register model return, and
leave the same device behind. -/
theorem tcp_refines (mock : ScriptedMockTransport) (calls : List TransportCall) :
    (run (connect mock : TcpTransport (Wire simulator)) (calls.map fun call => ⟨call, .line⟩)).map
        (fun e => (e.result.toOption, e.after.stream.device)) =
      answers ScriptedMockTransport.transport mock calls := by
  -- by induction on the calls: each leaves nothing unread
  have hrun : ∀ t : TcpTransport (Wire simulator), t.stream.unread = [] →
      (run t (calls.map fun call => ⟨call, .line⟩)).map
          (fun e => (e.result.toOption, e.after.stream.device)) =
        answers ScriptedMockTransport.transport t.stream.device calls := by
    induction calls with
    | nil => exact fun _ _ => rfl
    | cons call calls ih =>
        intro t hquiet
        obtain ⟨hresult, hdevice, hleft⟩ := exchange_simulator hquiet call
        rw [List.map_cons, run, List.map_cons, ih _ hleft, hresult, hdevice]
        rfl
  exact hrun (connect mock) rfl

end Host
