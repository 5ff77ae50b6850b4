import NabuCharger.Host.Link

/-!
# `Host.Sim`: the device simulator

The simulator serves the protocol from a `ScriptedMockTransport`. `dispatch` takes the trimmed
request apart, makes the call on the register model and answers with a line. Every answer is one of
the protocol (`simulator`). A request of the client is taken apart into the call it was written for
(`dispatch_request`).
-/

set_option autoImplicit false

namespace Host

open Effectful ChargerCore

/-- A hexadecimal number of 16 bits. -/
def parseAddr (text : Text) : Option (BitVec 16) := (parseHex 16 text).map (BitVec.ofNat 16)

/-- Makes a call on the register model and responds. -/
def respond {α : Type} (call : TransportM ScriptedMockTransport α) (render : α → Text) :
    StateM ScriptedMockTransport Text := fun mock =>
  match call mock with
  | (.ok a, mock) => (render a, mock)
  | (.error _, mock) => ("ERR 1".toList, mock)

/-- Serves one request: read, write, reset, or an error for anything else. -/
def dispatch (request : Text) : StateM ScriptedMockTransport Text :=
  let parts := splitWhitespace request
  let arg (n : Nat) := parts[n]?.bind parseAddr
  if parts[0]? = some "R".toList then
    match arg 1 with
    | some addr =>
        respond (ScriptedMockTransport.read addr) fun value =>
          "V ".toList ++ formatHex 2 value.toNat
    | none => return "ERR 2".toList
  else if parts[0]? = some "W".toList then
    match arg 1, arg 2 with
    | some addr, some value =>
        -- a value that is no byte is refused without a write
        if value.toNat ≤ wordMax 8 then
          respond (ScriptedMockTransport.write addr (value.setWidth 8)) fun _ => "OK".toList
        else return "ERR 1".toList
    | _, _ => return "ERR 2".toList
  else if parts[0]? = some "RESET".toList then
    respond ScriptedMockTransport.reset fun _ => "OK".toList
  else return "ERR 3".toList

/-- The response is a line of the protocol. -/
def Speaks (x : StateM ScriptedMockTransport Text) : Prop :=
  ∀ mock, ∃ answer : Answer, (x mock).1 = answer.render

/-- A rendered answer is a line of the protocol. -/
theorem speaks_return (answer : Answer) : Speaks (return answer.render) := fun _ => ⟨answer, rfl⟩

/-- So is the response to a call, when its value is rendered as one. -/
theorem speaks_respond {α : Type} (call : TransportM ScriptedMockTransport α) {render : α → Text}
    (h : ∀ a, ∃ answer : Answer, render a = answer.render) : Speaks (respond call render) := by
  intro mock
  rw [respond]
  split
  · exact h _
  · exact ⟨.err 1, rfl⟩

/-- The simulator never answers outside the protocol. -/
theorem dispatch_speaks (request : Text) : Speaks (dispatch request) := by
  -- a write and a reset are answered alike
  have hdone : ∀ _ : Unit, ∃ answer : Answer, "OK".toList = answer.render := fun _ =>
    ⟨.reply .done, rfl⟩
  unfold dispatch
  dsimp only
  split
  · split
    · exact speaks_respond _ fun value => ⟨.reply (.value value), rfl⟩
    · exact speaks_return (.err 2)
  · split
    · split
      · split
        · exact speaks_respond _ hdone
        · exact speaks_return (.err 1)
      · exact speaks_return (.err 2)
    · split
      · exact speaks_respond _ hdone
      · exact speaks_return (.err 3)

/-- The simulator as a device. -/
def simulator : Device where
  State := ScriptedMockTransport
  serve := dispatch
  speaks := dispatch_speaks

/-! ### The client's requests -/

/-- An address that was written in hexadecimal is read back. -/
theorem parseAddr_formatHex {width n : Nat} (hwidth : 0 < width) (hn : n ≤ wordMax 16) :
    parseAddr (formatHex width n) = some (BitVec.ofNat 16 n) := by
  rw [parseAddr, parseHex_formatHex hwidth hn]
  rfl

/-- What the device answers to what the register model does. -/
def answerOf : Except TransportError Reply → Answer
  | .ok reply => .reply reply
  | .error _ => .err 1

/-- A response is the answer to the call. -/
theorem respond_apply {α : Type} (call : TransportM ScriptedMockTransport α) (reply : α → Reply)
    {answered : TransportM ScriptedMockTransport Reply}
    (h : answered = call >>= fun a => pure (reply a)) (mock : ScriptedMockTransport) :
    respond call (fun a => renderReply (reply a)) mock =
      ((answerOf (answered mock).1).render, (answered mock).2) := by
  rw [respond, h]
  split
  · next hcall => rw [TransportM.bind_return hcall]; rfl
  · next hcall => rw [TransportM.bind_return hcall]; rfl

/-- A request is served by the call it was written for. -/
theorem dispatch_request (call : TransportCall) (mock : ScriptedMockTransport) :
    dispatch (trim (request call ++ ['\n'])) mock =
      ((answerOf (call.run ScriptedMockTransport.transport mock).1).render,
        (call.run ScriptedMockTransport.transport mock).2) := by
  have hmax : wordMax 16 = 65535 := by decide
  -- the line splits back into the words it was joined from, none of which holds a blank
  have hwords : splitWhitespace (trim (request call ++ ['\n'])) = requestWords call := by
    rw [request_eq_unwords, trim_unwords_line (isWord_requestWords call),
      splitWhitespace_unwords (isWord_requestWords call)]
  have hnumber : ∀ {width n : Nat}, 0 < width → n ≤ wordMax 16 →
      some (formatHex width n) >>= parseAddr = some (BitVec.ofNat 16 n) :=
    parseAddr_formatHex
  have haddr : ∀ addr : RegAddr, some (formatHex 4 addr.toNat) >>= parseAddr = some addr := by
    intro addr
    have hlt := addr.isLt
    rw [hnumber (by decide) (by omega), BitVec.ofNat_toNat, BitVec.setWidth_eq]
  unfold dispatch
  rw [hwords]
  dsimp only
  -- each call is recognised by its first word, and its numbers fit their types
  cases call with
  | read addr =>
      have hop : (requestWords (.read addr))[0]? = some "R".toList := rfl
      have harg : (requestWords (.read addr))[1]?.bind parseAddr = some addr := haddr addr
      rw [if_pos hop, harg]
      exact respond_apply (ScriptedMockTransport.read addr) Reply.value rfl mock
  | write addr value =>
      have hop : (requestWords (.write addr value))[0]? = some "W".toList := rfl
      have hread : ¬ (requestWords (.write addr value))[0]? = some "R".toList := by
        rw [hop]
        decide
      have harg : (requestWords (.write addr value))[1]?.bind parseAddr = some addr := haddr addr
      have hvalue : (requestWords (.write addr value))[2]?.bind parseAddr =
          some (BitVec.ofNat 16 value.toNat) := by
        have hlt := value.isLt
        exact hnumber (by decide) (by omega)
      rw [if_neg hread, if_pos hop, harg, hvalue]
      dsimp only
      rw [if_pos (widened_le value), narrowed_widened]
      exact respond_apply (ScriptedMockTransport.write addr value) (fun _ => Reply.done) rfl mock
  | reset => exact respond_apply ScriptedMockTransport.reset (fun _ => Reply.done) rfl mock

end Host
