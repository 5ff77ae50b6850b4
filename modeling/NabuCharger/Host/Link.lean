import NabuCharger.Host.Tcp

/-!
# `Host.Link`: the connection to a device

The device answers every request with a line of the protocol, in the order of the requests
(`Device`). The connection is in order and loses nothing. What the client has not read yet is
`unread`: for each outstanding answer the request it is for, and what is left of its line.

A call sends its request and reads. Either the front line has come in by then, or the read times
out with any part of that line (`Arrival`). The answers may be as late as they like. `run` makes the
calls of a list one after the other and writes down what each of them found and did.
-/

set_option autoImplicit false

namespace Host

open Effectful ChargerCore

/-- The other end of the connection. -/
structure Device where
  State : Type
  /-- Answers a request, both lines without their end. -/
  serve : Text → StateM State Text
  /-- The answer is a line of the protocol. -/
  speaks : ∀ (line : Text) (s : State), ∃ answer : Answer, (serve line s).1 = answer.render

/-- An answer the client has not read to its end. -/
structure Unread where
  /-- The number of the request it answers. -/
  number : Nat
  text : Text
  /-- What is left of it. -/
  rest : Text
  deriving DecidableEq, Repr

/-- How the read of a call ends. -/
inductive Arrival
  /-- A line is there. -/
  | line
  /-- No line is there in time, only so many characters of one. -/
  | timeout (received : Nat)
  deriving DecidableEq, Repr

/-- The connection, seen from the client. -/
structure Wire (device : Device) where
  device : device.State
  /-- The requests sent so far. -/
  asked : Nat
  unread : List Unread

namespace Wire

variable {device : Device} (w : Wire device)

/-- What the device answers to the next request. -/
def answerTo (line : Text) : Unread :=
  let text := (device.serve (trim line) w.device).1
  ⟨w.asked, text, text⟩

/-- The request is on its way, and so will its answer be. -/
def sent (line : Text) : Wire device where
  device := (device.serve (trim line) w.device).2
  asked := w.asked + 1
  unread := w.unread ++ [w.answerTo line]

/-- Hands a line to the network. -/
def send (line : Text) : StateM (Wire device) Bool := fun w => (true, w.sent line)

/-- What the network brings until the line ends or the time is over. -/
def readLine (arrival : Arrival) : StateM (Wire device) LineRead := fun w =>
  match w.unread, arrival with
  | [], _ => (⟨[], false⟩, w)
  | front :: others, .line => (⟨front.rest ++ ['\n'], true⟩, { w with unread := others })
  | front :: others, .timeout received =>
      (⟨front.rest.take received, false⟩,
        { w with unread := { front with rest := front.rest.drop received } :: others })

/-- The socket whose next line arrives this way. -/
def socket (arrival : Arrival) : Socket (Wire device) where
  send := send
  readLine := readLine arrival

end Wire

/-- A call, and how its read ends. -/
structure Step where
  call : TransportCall
  arrival : Arrival
  deriving DecidableEq, Repr

/-- What a call found and did. -/
structure Exchange (device : Device) where
  step : Step
  before : TcpTransport (Wire device)
  result : Except TransportError Reply
  after : TcpTransport (Wire device)

/-- A new connection. -/
def connect {device : Device} (s : device.State) : TcpTransport (Wire device) where
  stream := ⟨s, 0, []⟩
  command := []

/-- The step of a call. -/
def Step.exchange {device : Device} (step : Step) (t : TcpTransport (Wire device)) :
    Exchange device :=
  let (result, after) := step.call.run (TcpTransport.transport (Wire.socket step.arrival)) t
  ⟨step, t, result, after⟩

/-- The calls of a list, one after the other. -/
def run {device : Device} : TcpTransport (Wire device) → List Step → List (Exchange device)
  | _, [] => []
  | t, step :: steps => step.exchange t :: run (step.exchange t).after steps

namespace Exchange

variable {device : Device} (e : Exchange device)

/-- The answer of the device to the request of this very call. -/
def own : Unread := e.before.stream.answerTo (request e.step.call ++ ['\n'])

/-- The line the call has read. -/
def taken : Option Unread :=
  match e.step.arrival with
  | .line => (e.before.stream.unread ++ [e.own]).head?
  | .timeout _ => none

end Exchange

/-! ### What a call does to the connection -/

section exchange

variable {device : Device} {t : TcpTransport (Wire device)} {call : TransportCall} {front : Unread}
  {others : List Unread}

/-- The wire behind a read. -/
theorem Wire.readLine_cons {w : Wire device} (h : w.unread = front :: others) :
    (Wire.readLine .line w = (⟨front.rest ++ ['\n'], true⟩, { w with unread := others })) ∧
    ∀ received, Wire.readLine (.timeout received) w =
      (⟨front.rest.take received, false⟩,
        { w with unread := { front with rest := front.rest.drop received } :: others }) := by
  obtain ⟨device, asked, unread⟩ := w
  subst h
  exact ⟨rfl, fun _ => rfl⟩

/-- In time: the call decodes the line in front. -/
theorem exchange_line
    (h : (t.stream.sent (request call ++ ['\n'])).unread = front :: others) :
    Step.exchange ⟨call, .line⟩ t =
      { step := ⟨call, .line⟩
        before := t
        result := decode call (trim (front.rest ++ ['\n']))
        after :=
          { stream := { t.stream.sent (request call ++ ['\n']) with unread := others }
            command := front.rest ++ ['\n'] } } := by
  have hne : front.rest ++ ['\n'] ≠ [] := by simp
  have hrun := run_tcp (Wire.socket .line) call
    (transact_ok hne rfl (Wire.readLine_cons h).1)
  rw [Step.exchange, hrun]
  rfl

/-- Too late: the call fails, and the front of the line is gone. -/
theorem exchange_timeout (received : Nat)
    (h : (t.stream.sent (request call ++ ['\n'])).unread = front :: others) :
    Step.exchange ⟨call, .timeout received⟩ t =
      { step := ⟨call, .timeout received⟩
        before := t
        result := .error classifyReadError
        after :=
          { stream :=
              { t.stream.sent (request call ++ ['\n']) with
                unread := { front with rest := front.rest.drop received } :: others }
            command := front.rest.take received } } := by
  have hrun := run_tcp (Wire.socket (.timeout received)) call
    (transact_failed rfl
      ((Wire.readLine_cons h).2 received))
  rw [Step.exchange, hrun]
  rfl

end exchange

end Host
