import NabuCharger.Core.Testkit
import NabuCharger.Logic.Text

/-!
# `Host.Tcp`: the transport over TCP

The protocol is textual. A request is a line, and the device answers it with a line:

| Request | Response | Meaning |
|---|---|---|
| `R <addr:04X>` | `V <value:02X>` | register read |
| `W <addr:04X> <value:02X>` | `OK` | register write |
| `RESET` | `OK` | channel reset |
| any | `ERR <code>` | device failure |

`TcpTransport` writes the request to its socket and reads one line (`transact`). Nothing in a line
says which request it answers. The socket is a parameter, with the two calls the transport makes on
it. A read that times out has put what it got into `command`, and the next request clears that.

The line that comes back is trimmed and decoded (`decode`). A line of the protocol is decoded as
what it stands for (`decode_render`), and the rest of one that has lost its front stands for nothing
(`decode_rest`).
-/

set_option autoImplicit false

namespace Host

open Effectful ChargerCore

/-! ### The lines of the protocol -/

/-- The request a call sends. -/
def request : TransportCall → Text
  | .read addr => "R ".toList ++ formatHex 4 addr.toNat
  | .write addr value => "W ".toList ++ formatHex 4 addr.toNat ++ ' ' :: formatHex 2 value.toNat
  | .reset => "RESET".toList

/-- The response to a call that went well. -/
def renderReply : Reply → Text
  | .value value => "V ".toList ++ formatHex 2 value.toNat
  | .done => "OK".toList

/-- A response. -/
inductive Answer
  | reply (content : Reply)
  | err (code : Nat)
  deriving DecidableEq, Repr

/-- The line of a response. -/
def Answer.render : Answer → Text
  | .reply content => renderReply content
  | .err code => "ERR ".toList ++ formatHex 1 code

/-- The response is one that acknowledges the call. -/
def Acknowledges (text : Text) : TransportCall → Prop
  | .read _ => ∃ value, text = renderReply (.value value)
  | .write _ _ => text = renderReply .done
  | .reset => text = renderReply .done

/-! ### The client -/

/-- What `read_line` appends to the line, and whether it returns `Ok`. -/
structure LineRead where
  text : Text
  ok : Bool
  deriving DecidableEq, Repr

/-- The calls of the transport on its socket. -/
structure Socket (κ : Type) where
  /-- Writes the bytes and flushes. -/
  send : Text → StateM κ Bool
  readLine : StateM κ LineRead

/-- Transport to the device over TCP. -/
structure TcpTransport (κ : Type) where
  stream : κ
  command : Text

/-- The discriminants of the error kinds. -/
def errorKindBrokenPipe : Int := 11
/-- Code of a time-out. -/
def errorKindTimedOut : Int := 22

/-- A socket that could not be read counts as a device that does not answer. -/
def classifyReadError : TransportError :=
  ⟨.timeout, errorKindTimedOut, "no response from the device"⟩

/-- A socket that could not be written counts as an error of the bus. -/
def classifyWriteError : TransportError :=
  ⟨.io, errorKindBrokenPipe, "failed to send the request"⟩

/-- A hexadecimal number of 16 bits. -/
def parseHexReply (text : Text) : Except TransportError (BitVec 16) :=
  match parseHex 16 text with
  | some n => .ok (BitVec.ofNat 16 n)
  | none => .error (.protocol "invalid device response")

/-- What `read` makes of the response. -/
def decodeRead (response : Text) : Except TransportError Byte :=
  let parts := response.splitOn ' '
  if parts[0]? = some "V".toList ∧ parts[1]?.isSome then do
    let parsed ← parseHexReply (parts[1]?.getD [])
    if parsed.toNat ≤ wordMax 8 then return parsed.setWidth 8
    else throw (.protocol "value out of byte range")
  else if parts[0]? = some "ERR".toList then throw (.io "the device returned a read error")
  else throw (.protocol "unexpected response to a read")

/-- What `write` makes of it. -/
def decodeWrite (response : Text) : Except TransportError Unit :=
  if response = "OK".toList then return ()
  else if "ERR".toList.isPrefixOf response then throw (.io "the device returned a write error")
  else throw (.protocol "unexpected response to a write")

/-- What `reset` makes of it. -/
def decodeReset (response : Text) : Except TransportError Unit :=
  if response = "OK".toList then return ()
  else throw (.protocol "the device did not acknowledge the reset")

namespace TcpTransport

variable {κ : Type} (socket : Socket κ)

/-- A call on the stream. -/
def onStream {α : Type} (x : StateM κ α) : TransportM (TcpTransport κ) α := fun t =>
  let (a, stream) := x t.stream
  (.ok a, { t with stream })

/-- Sends a request and reads its response. -/
def transact (request : Text) : TransportM (TcpTransport κ) Text := do
  let sent ← onStream (socket.send (request ++ ['\n']))
  if !sent then throw classifyWriteError
  -- the buffer is cleared only once the request is out
  modify fun t => { t with command := [] }
  let line ← onStream socket.readLine
  modify fun t => { t with command := t.command ++ line.text }
  if !line.ok then throw classifyReadError
  -- the end of the stream, not an empty line
  if line.text = [] then throw (.disconnected "the device closed the connection")
  return trim (← get).command

/-- Reads a register over the link. -/
def read (addr : RegAddr) : TransportM (TcpTransport κ) Byte := do
  let response ← transact socket (request (.read addr))
  MonadExcept.ofExcept (decodeRead response)

/-- Writes a register over the link. -/
def write (addr : RegAddr) (value : Byte) : TransportM (TcpTransport κ) Unit := do
  let response ← transact socket (request (.write addr value))
  MonadExcept.ofExcept (decodeWrite response)

/-- Resets the device over the link. -/
def reset : TransportM (TcpTransport κ) Unit := do
  let response ← transact socket (request .reset)
  MonadExcept.ofExcept (decodeReset response)

/-- The link as a transport. -/
def transport : ChargerTransport (TcpTransport κ) where
  read := read socket
  write := write socket
  reset := reset socket

end TcpTransport

section transact

variable {κ : Type} {socket : Socket κ} {t : TcpTransport κ} {request : Text} {sent left : κ}

/-- The call on the stream, in the state of the transport. -/
theorem onStream_apply {α : Type} {x : StateM κ α} {s s' : κ} {a : α} (h : x s = (a, s'))
    (command : Text) : TcpTransport.onStream x ⟨s, command⟩ = (.ok a, ⟨s', command⟩) := by
  rw [TcpTransport.onStream, h]

/-- What `modify` does in this monad. -/
theorem modify_apply (f : TcpTransport κ → TcpTransport κ) (t : TcpTransport κ) :
    (modify f : TransportM (TcpTransport κ) PUnit) t = (.ok (), f t) := rfl

/-- A line is trimmed. -/
theorem transact_ok {line : Text} (hline : line ≠ [])
    (hsend : socket.send (request ++ ['\n']) t.stream = (true, sent))
    (hread : socket.readLine sent = (⟨line, true⟩, left)) :
    TcpTransport.transact socket request t = (.ok (trim line), ⟨left, line⟩) := by
  unfold TcpTransport.transact
  rw [TransportM.bind_ok (onStream_apply hsend t.command)]
  refine (TransportM.bind_ok (modify_apply _ _) _).trans ?_
  rw [TransportM.bind_ok (onStream_apply hread [])]
  refine (TransportM.bind_ok (modify_apply _ _) _).trans ?_
  show (if line = [] then _ else _ : TransportM (TcpTransport κ) Text) ⟨left, line⟩ = _
  rw [if_neg hline]
  rfl

/-- What a read that fails has read stays behind, until the next request. -/
theorem transact_failed {received : Text}
    (hsend : socket.send (request ++ ['\n']) t.stream = (true, sent))
    (hread : socket.readLine sent = (⟨received, false⟩, left)) :
    TcpTransport.transact socket request t = (.error classifyReadError, ⟨left, received⟩) := by
  unfold TcpTransport.transact
  rw [TransportM.bind_ok (onStream_apply hsend t.command)]
  refine (TransportM.bind_ok (modify_apply _ _) _).trans ?_
  rw [TransportM.bind_ok (onStream_apply hread [])]
  rfl

end transact

/-- What a call makes of the response. -/
def decode : TransportCall → Text → Except TransportError Reply
  | .read _, response => Reply.value <$> decodeRead response
  | .write _ _, response => (fun _ => Reply.done) <$> decodeWrite response
  | .reset, response => (fun _ => Reply.done) <$> decodeReset response

/-- A call is a transaction and the decoding of its response. -/
theorem run_tcp {κ : Type} (socket : Socket κ) (call : TransportCall) {t t' : TcpTransport κ}
    {answer : Except TransportError Text}
    (h : TcpTransport.transact socket (request call) t = (answer, t')) :
    call.run (TcpTransport.transport socket) t = (answer >>= decode call, t') := by
  -- every call is the exchange followed by its own decoder
  have hmap : ∀ {α : Type} (f : Text → Except TransportError α) (g : α → Reply),
      g <$> (answer >>= f) = answer >>= fun response => g <$> f response := by
    intro α f g
    cases answer <;> rfl
  cases call with
  | read addr =>
      exact (TransportM.bind_return (TransportM.bind_ofExcept h _) _).trans
        (congrArg (·, t') (hmap _ _))
  | write addr value =>
      exact (TransportM.bind_return (TransportM.bind_ofExcept h _) fun _ => Reply.done).trans
        (congrArg (·, t') (hmap _ _))
  | reset =>
      exact (TransportM.bind_return (TransportM.bind_ofExcept h _) fun _ => Reply.done).trans
        (congrArg (·, t') (hmap _ _))

/-! ### What the lines are decoded as -/

/-- The words of a request. -/
def requestWords : TransportCall → List Text
  | .read addr => ["R".toList, formatHex 4 addr.toNat]
  | .write addr value => ["W".toList, formatHex 4 addr.toNat, formatHex 2 value.toNat]
  | .reset => ["RESET".toList]

/-- The words of a response. -/
def Answer.words : Answer → List Text
  | .reply (.value value) => ["V".toList, formatHex 2 value.toNat]
  | .reply .done => ["OK".toList]
  | .err code => ["ERR".toList, formatHex 1 code]

/-- A request is words with blanks between them. -/
theorem request_eq_unwords (call : TransportCall) : request call = unwords (requestWords call) := by
  cases call with
  | read addr =>
      rw [requestWords, unwords_cons_cons, unwords_singleton]
      rfl
  | write addr value =>
      rw [requestWords, unwords_cons_cons, unwords_cons_cons, unwords_singleton]
      rfl
  | reset => rfl

/-- A response is words with blanks between them. -/
theorem Answer.render_eq_unwords (answer : Answer) : answer.render = unwords answer.words := by
  cases answer with
  | reply content =>
      cases content with
      | value value =>
          rw [Answer.words, unwords_cons_cons, unwords_singleton]
          rfl
      | done => rfl
  | err code =>
      rw [Answer.words, unwords_cons_cons, unwords_singleton]
      rfl

/-- The words of a request have no blank in them. -/
theorem isWord_requestWords (call : TransportCall) : ∀ word ∈ requestWords call, IsWord word := by
  have haddr : ∀ addr : RegAddr, IsWord (formatHex 4 addr.toNat) := fun _ =>
    isWord_formatHex (by decide) _
  have hvalue : ∀ value : Byte, IsWord (formatHex 2 value.toNat) := fun _ =>
    isWord_formatHex (by decide) _
  cases call with
  | read addr =>
      exact List.forall_mem_cons.2
        ⟨IsWord.of_all (by decide) (by decide), List.forall_mem_singleton.2 (haddr addr)⟩
  | write addr value =>
      exact List.forall_mem_cons.2 ⟨IsWord.of_all (by decide) (by decide),
        List.forall_mem_cons.2 ⟨haddr addr, List.forall_mem_singleton.2 (hvalue value)⟩⟩
  | reset => exact List.forall_mem_singleton.2 (IsWord.of_all (by decide) (by decide))

/-- The words of a response have no blank in them. -/
theorem Answer.isWord_words (answer : Answer) : ∀ word ∈ answer.words, IsWord word := by
  cases answer with
  | reply content =>
      cases content with
      | value value =>
          exact List.forall_mem_cons.2 ⟨IsWord.of_all (by decide) (by decide),
            List.forall_mem_singleton.2 (isWord_formatHex (by decide) _)⟩
      | done => exact List.forall_mem_singleton.2 (IsWord.of_all (by decide) (by decide))
  | err code =>
      exact List.forall_mem_cons.2 ⟨IsWord.of_all (by decide) (by decide),
        List.forall_mem_singleton.2 (isWord_formatHex (by decide) _)⟩

/-- Trimming takes the end of the line off a response. -/
theorem Answer.trim_render (answer : Answer) : trim (answer.render ++ ['\n']) = answer.render := by
  rw [answer.render_eq_unwords, trim_unwords_line answer.isWord_words]

/-- So splitting a response gives its words back. -/
theorem Answer.splitOn_render (answer : Answer) : answer.render.splitOn ' ' = answer.words := by
  have hne : answer.words ≠ [] := by
    cases answer with
    | reply content => cases content <;> exact List.cons_ne_nil _ _
    | err code => exact List.cons_ne_nil _ _
  rw [answer.render_eq_unwords, splitOn_unwords answer.isWord_words hne]

section widened

variable (value : Byte)

/-- A byte as a number of 16 bits. -/
theorem widened_toNat : (BitVec.ofNat 16 value.toNat).toNat = value.toNat := by
  have hlt := value.isLt
  rw [BitVec.toNat_ofNat, Nat.mod_eq_of_lt (by omega)]

/-- A byte that is sent as a word stays below 256. -/
theorem widened_le : (BitVec.ofNat 16 value.toNat).toNat ≤ wordMax 8 := by
  have hlt := value.isLt
  have hmax : wordMax 8 = 255 := by decide
  have hnat := widened_toNat value
  omega

/-- A byte that was sent as a word is read back. -/
theorem narrowed_widened : (BitVec.ofNat 16 value.toNat).setWidth 8 = value := by
  apply BitVec.eq_of_toNat_eq
  rw [BitVec.toNat_setWidth, widened_toNat, Nat.mod_eq_of_lt value.isLt]

/-- A number of the protocol is read back. -/
theorem parseHexReply_formatHex :
    parseHexReply (formatHex 2 value.toNat) = .ok (BitVec.ofNat 16 value.toNat) := by
  have hfits : value.toNat ≤ wordMax 16 := by
    have hlt := value.isLt
    have hmax : wordMax 16 = 65535 := by decide
    omega
  rw [parseHexReply, parseHex_formatHex (by decide) hfits]

/-- A value is read. -/
theorem decodeRead_value : decodeRead (renderReply (.value value)) = .ok value := by
  have hsplit := Answer.splitOn_render (.reply (.value value))
  have hparts : (renderReply (.value value)).splitOn ' ' =
    ["V".toList, formatHex 2 value.toNat] := hsplit
  rw [decodeRead, hparts]
  show (parseHexReply (formatHex 2 value.toNat) >>= _) = _
  rw [parseHexReply_formatHex]
  exact (if_pos (widened_le value)).trans (congrArg Except.ok (narrowed_widened value))

end widened

/-- What a decoded response answers is decoded from it. -/
theorem map_ok {α β ε : Type} {f : α → β} {answer : Except ε α} {b : β}
    (h : f <$> answer = .ok b) : ∃ a, answer = .ok a ∧ f a = b := by
  cases answer with
  | error err => cases h
  | ok a => exact ⟨a, rfl, Except.ok.inj h⟩

/-- `read` takes a line for a value only if its first part is the one of a value. -/
theorem decodeRead_ok {text : Text} {value : Byte} (h : decodeRead text = .ok value) :
    (text.splitOn ' ')[0]? = some "V".toList := by
  by_contra hne
  rw [decodeRead] at h
  simp only [hne, false_and, if_false] at h
  split at h <;> cases h

/-- A write is acknowledged by one line only. -/
theorem decodeWrite_ok {text : Text} (h : decodeWrite text = .ok ()) : text = "OK".toList := by
  by_contra hne
  rw [decodeWrite, if_neg hne] at h
  split at h <;> cases h

/-- So is a reset. -/
theorem decodeReset_ok {text : Text} (h : decodeReset text = .ok ()) : text = "OK".toList := by
  by_contra hne
  rw [decodeReset, if_neg hne] at h
  cases h

/-- A response that acknowledges the call is decoded as its reply. -/
theorem decode_reply {call : TransportCall} {reply : Reply}
    (h : Acknowledges (renderReply reply) call) :
    decode call (renderReply reply) = .ok reply := by
  cases call with
  -- the reply of the wrong kind is excluded by the acknowledgement
  | read addr =>
      obtain ⟨value, hvalue⟩ := h
      cases reply with
      | value value => exact congrArg (Reply.value <$> ·) (decodeRead_value value)
      | done => cases hvalue
  | write addr value =>
      cases reply with
      | value value => cases h
      | done => rfl
  | reset =>
      cases reply with
      | value value => cases h
      | done => rfl

/-- No other response is decoded as a reply. -/
theorem decode_render {call : TransportCall} {answer : Answer} {reply : Reply}
    (h : decode call answer.render = .ok reply) :
    answer = .reply reply ∧ Acknowledges answer.render call := by
  -- each decoder accepts one form of answer only, so the form is the one of the call
  cases call with
  | read addr =>
      obtain ⟨value, hvalue, rfl⟩ := map_ok h
      have hfirst := decodeRead_ok hvalue
      rw [answer.splitOn_render] at hfirst
      cases answer with
      | reply content =>
          cases content with
          | value content =>
              have hread : decodeRead (Answer.render (.reply (.value content))) = .ok content :=
                decodeRead_value content
              rw [hread] at hvalue
              cases hvalue
              exact ⟨rfl, _, rfl⟩
          | done => cases hfirst
      | err code => cases hfirst
  | write addr value =>
      obtain ⟨answered, hvalue, rfl⟩ := map_ok h
      have htext := decodeWrite_ok hvalue
      cases answer with
      | reply content =>
          cases content with
          | value content => cases htext
          | done => exact ⟨rfl, rfl⟩
      | err code => cases htext
  | reset =>
      obtain ⟨answered, hvalue, rfl⟩ := map_ok h
      have htext := decodeReset_ok hvalue
      cases answer with
      | reply content =>
          cases content with
          | value content => cases htext
          | done => exact ⟨rfl, rfl⟩
      | err code => cases htext

/-- A line that is decoded as a reply has the letter of one. -/
theorem mem_of_decode {call : TransportCall} {text : Text} {reply : Reply}
    (h : decode call text = .ok reply) : 'V' ∈ text ∨ 'O' ∈ text := by
  cases call with
  -- a value is accepted only after a word starting with V
  | read addr =>
      obtain ⟨value, hvalue, -⟩ := map_ok h
      obtain ⟨hlt, hfirst⟩ := List.getElem?_eq_some_iff.1 (decodeRead_ok hvalue)
      refine .inl (mem_of_mem_splitOn (List.getElem_mem hlt) ?_)
      rw [hfirst]
      decide
  | write addr value =>
      obtain ⟨answered, hvalue, -⟩ := map_ok h
      rw [decodeWrite_ok hvalue]
      decide
  | reset =>
      obtain ⟨answered, hvalue, -⟩ := map_ok h
      rw [decodeReset_ok hvalue]
      decide

/-- Behind the first character of a response there is no such letter. -/
theorem Answer.not_mem_tail (answer : Answer) :
    'V' ∉ answer.render.tail ∧ 'O' ∉ answer.render.tail := by
  -- hex digits are neither of the two letters
  have hhex : ∀ (c : Char), (∀ n : Fin 16, hexDigit n ≠ c) → ∀ width n, c ∉ formatHex width n := by
    intro c hne width n hmem
    obtain ⟨digit, hdigit, rfl⟩ := mem_formatHex hmem
    exact hne ⟨digit, hdigit⟩ rfl
  have hv := hhex 'V' (by decide)
  have ho := hhex 'O' (by decide)
  cases answer with
  | reply content =>
      cases content with
      | value value =>
          have htail : (Answer.render (.reply (.value value))).tail =
            " ".toList ++ formatHex 2 value.toNat := rfl
          rw [htail, List.mem_append, List.mem_append]
          exact ⟨not_or.2 ⟨by decide, hv _ _⟩, not_or.2 ⟨by decide, ho _ _⟩⟩
      | done => exact ⟨by decide, by decide⟩
  | err code =>
      have htail : (Answer.render (.err code)).tail = "RR ".toList ++ formatHex 1 code := rfl
      rw [htail, List.mem_append, List.mem_append]
      exact ⟨not_or.2 ⟨by decide, hv _ _⟩, not_or.2 ⟨by decide, ho _ _⟩⟩

/-- What is left of a response that has lost its front is no reply to anything. -/
theorem Answer.decode_rest {call : TransportCall} (answer : Answer) {rest : Text} {reply : Reply}
    (hrest : rest <:+ answer.render) (hlost : rest ≠ answer.render) :
    decode call (trim (rest ++ ['\n'])) ≠ .ok reply := by
  intro h
  -- a proper end of the line has lost its first letter
  have htail : rest <:+ answer.render.tail := by
    obtain ⟨front, hfront⟩ := hrest
    cases front with
    | nil => exact absurd hfront hlost
    | cons c front =>
        rw [← hfront]
        exact ⟨front, rfl⟩
  have hmem : ∀ c, c ≠ '\n' → c ∈ trim (rest ++ ['\n']) → c ∈ answer.render.tail := by
    intro c hne hc
    obtain hc | hc := List.mem_append.1 (mem_of_mem_trim hc)
    · exact htail.subset hc
    · exact absurd (List.mem_singleton.1 hc) hne
  -- and without the V or the O nothing is accepted
  obtain hv | ho := mem_of_decode h
  · exact answer.not_mem_tail.1 (hmem 'V' (by decide) hv)
  · exact answer.not_mem_tail.2 (hmem 'O' (by decide) ho)

end Host
