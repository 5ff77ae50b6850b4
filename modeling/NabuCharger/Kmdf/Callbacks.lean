import NabuCharger.Kmdf.Requests
import NabuCharger.Logic.Laws
import NabuCharger.Logic.Threads

/-!
# `Kmdf.Callbacks`: the callbacks of the framework, which run at the same time

The telemetry timer has a context of its own, so a tick, a control request and a change of the
hardware may run at once. Each of them takes the state mutex (`lock_state`) before it looks at the
driver state, and its guard gives the mutex back at every return. The fuel gauge is polled before
that, under two flags of its own: `GAUGE_READY`, and `GAUGE_LAST_MS` with its compare-and-swap.

A `Callback` is one call: what it does before the mutex, with the state in hand, and after that.
-/

set_option autoImplicit false

namespace Kmdf

open Effectful Ln8000 Wdf

/-! ### The fuel gauge -/

/-- Operations of the gauge poll. They need no mutex. -/
inductive GaugeOp
  /-- Loads `GAUGE_READY`. -/
  | isReady
  /-- Stores `GAUGE_READY`. -/
  | setReady (ready : Bool)
  /-- `DEVICE` is not null. -/
  | device
  /-- `monotonic_ms`. -/
  | now
  /-- Loads `GAUGE_LAST_MS`. -/
  | last
  /-- Replaces `GAUGE_LAST_MS` if it has not changed. -/
  | claim (last now : Nat)
  /-- `read_batt_soc_raw`. -/
  | read
  deriving DecidableEq, Repr

/-- The battery device knows whether its gauge is there. -/
def GaugeEffect : Effect where
  Op := GaugeOp
  Resp
    | .isReady => Bool
    | .setReady _ => Unit
    | .device => Bool
    | .now => Nat
    | .last => Nat
    | .claim _ _ => Bool
    | .read => Option Byte

/-- Takes the window, unless another tick has already taken it, and reads the gauge. -/
def claimAndRead (last now : Nat) : Prog GaugeEffect GaugePoll :=
  .op (.claim last now) fun claimed : Bool =>
    -- Another tick has already taken this window.
    if claimed = false then .ret .skipped
    else .op .read fun read : Option Byte =>
      match read with
      | some raw => .ret (.raw raw.toNat)
      | none => .ret .failed

/-- Reads the fuel gauge no more often than its period, and from a single tick. -/
def readGaugeIfDue : Prog GaugeEffect GaugePoll :=
  .op .isReady fun ready : Bool =>
    if ready = false then .ret .skipped
    else .op .device fun bound : Bool =>
      if bound = false then .ret .skipped
      else .op .now fun now : Nat =>
        .op .last fun last : Nat =>
          -- A zero says that the gauge was never polled.
          if last ≠ 0 ∧ now - last < gaugePollMs then .ret .skipped else claimAndRead last now

/-- Both flags, and the clock. -/
structure GaugeCell where
  ready : Bool
  last : Nat
  clock : Nat

/-- The memory of the polls, whoever makes them. The clock does not go back. -/
abbrev gaugeMemory (ι : Type) (E : Effect) (σ : Type) :
    Machine (threads ι (ThreadEffect GaugeEffect E σ)) where
  State := GaugeCell
  allow
    | g, (_, .free .isReady) => fun r => r = g.ready
    | g, (_, .free .now) => fun r : Nat => g.clock ≤ r
    | g, (_, .free .last) => fun r => r = g.last
    -- compare and swap: it succeeds if nobody has moved the stamp
    | g, (_, .free (.claim last _)) => fun r => r = decide (g.last = last)
    | _, _ => fun _ => True
  require _ _ := True
  next
    | g, (_, .free (.setReady ready)) => fun _ => { g with ready := ready }
    | g, (_, .free .now) => fun r => { g with clock := r }
    | g, (_, .free (.claim last now)) => fun _ =>
        if g.last = last then { g with last := now } else g
    | g, _ => fun _ => g

section
variable [LoopFuel]

/-! ### What a callback does with the state -/

/-- A tick after the poll. -/
def tickAfter (gauge : GaugePoll) : DriverM Unit := do
  let wants ← withPump (tickOnPump gauge)
  tickLandings wants.join
  point .tickDone

/-- A tick polls the gauge before it does anything else. -/
theorem telemetryTick_eq : telemetryTick = (host .pollGauge >>= tickAfter) := rfl

/-- `evt_prepare_hardware`. The answer says whether it came to its end. -/
def prepareReady (key : Option Registry) (usbinId : Option Nat) : DriverM Bool := do
  let params := readParameters key
  Proc.modify fun s => { s with usbinId := usbinId }
  -- preparing a pump transfers on the bus and leaves the context as it is
  let opened : Except Int Pump ←
    (fun s => (preparePump params.config).inl.map fun r => (.ok r, s))
  match opened with
  | .error code =>
      Proc.modify fun s => { s with lastError := code }
      pure false
  | .ok pump =>
      Proc.modify fun s =>
        { s with
          pump := some pump
          telemetryMs := params.telemetryMs
          fccCfgRaw := params.fccRaw
          limits := params.limits }
      let code ← runHvdcpAndLand
      scheduleOrClearSuperuserRetry code
      armHvdcpInputEdge
      Proc.when params.publishBattery publishBattery
      pure true

/-- What the callback answers does not depend on whether the gauge is there. -/
theorem prepareHardware_eq (key : Option Registry) (usbinId : Option Nat) :
    prepareHardware key usbinId = (prepareReady key usbinId >>= fun _ => pure ()) := by
  rw [prepareHardware, prepareReady]
  refine Eq.trans (Proc.bind_congr fun _ => ?_) (Proc.bind_assoc _ _ _).symm
  refine Eq.trans (Proc.bind_congr fun opened => ?_) (Proc.bind_assoc _ _ _).symm
  cases opened with
  | error code => rfl
  | ok pump =>
      simp only [Proc.bind_assoc]
      refine Proc.bind_congr fun _ => Proc.bind_congr fun _ => Proc.bind_congr fun _ =>
        Proc.bind_congr fun _ => ?_
      exact (Proc.bind_pure _).symm

/-! ### Callbacks -/

/-- A call of the framework. -/
inductive Callback
  | tick
  | prepare (key : Option Registry) (usbinId : Option Nat)
  | release
  | control (code : Nat) (input : List Byte) (room : Nat)

namespace Callback

/-- The entry point of the driver that is called. -/
def entry : Callback → EntryPoint
  | .tick => .tick
  | .prepare key usbinId => .prepare key usbinId
  | .release => .release
  | .control code input room => .control code input room

/-- Before the mutex: the tick polls the gauge, and the release stops the polls. -/
def before : Callback → Prog GaugeEffect GaugePoll
  | .tick => readGaugeIfDue
  | .release => .op (.setReady false) fun _ => .ret .skipped
  | _ => .ret .skipped

/-- With the state in hand. The answer says whether the hardware has become ready. -/
def body : Callback → GaugePoll → RequestM Bool
  | .tick, gauge => do
      device (tickAfter gauge)
      pure false
  | .prepare key usbinId, _ => device (prepareReady key usbinId)
  | .release, _ => do
      EntryPoint.release.run
      pure false
  | .control code input room, _ => do
      (EntryPoint.control code input room).run
      pure false

/-- Hardware that has become ready is polled from now on. -/
def after (ready : Except Empty Bool) : Prog GaugeEffect Unit :=
  match ready with
  | .ok true => .op (.setReady true) fun _ => .ret ()
  | .ok false => .ret ()

end Callback

/-- What a call does: the operations of the poll at any time, those on devices and requests with
the mutex in hand. -/
abbrev CallEffect : Effect := ThreadEffect GaugeEffect (DevEffect.sum RequestEffect) DriverState

/-- The state mutex and the driver state. -/
abbrev stateLock (ι : Type) : Machine (threads ι CallEffect) :=
  mutex ι GaugeEffect (DevEffect.sum RequestEffect) DriverState

/-- What the calls share: the state behind its mutex, and the flags of the gauge. -/
abbrev driverMemory (ι : Type) : Machine (threads ι CallEffect) :=
  (stateLock ι).both (gaugeMemory ι (DevEffect.sum RequestEffect) DriverState)

/-- The calls as threads. -/
abbrev callbackThreads {ι : Type} (calls : ι → Callback) (i : ι) : Prog CallEffect Unit :=
  guardedThreads (fun i => (calls i).before) (fun i => (calls i).body) (fun _ => Callback.after) i

end

end Kmdf
