import NabuCharger.Kmdf.CallbackBench
import NabuCharger.Logic.Carried

/-!
# `Proofs.CallbackOrder`: callbacks that run at the same time have an order

Any number of ticks, control requests and changes of the hardware may run at once. With the state
mutex initialized, none of them touches the state, the bus or a request without it, and none gives
back a mutex that it does not have. What the devices see is then what they see when the entry points
run one after another, in the order in which they got the mutex (`callbacks_in_order`). Only the
polls of the fuel gauge lie elsewhere.
-/

set_option autoImplicit false

namespace Kmdf

open Effectful Ln8000 Wdf

section
variable [LoopFuel]

/-- What the entry point does before its body: a tick polls the gauge. -/
def Callback.polled : Callback → GaugePoll → List (Event (DevEffect.sum RequestEffect))
  | .tick, gauge => [⟨.inl (.inr .pollGauge), gauge⟩]
  | _, _ => []

variable {s s' : DriverState} {t : List (Event (DevEffect.sum RequestEffect))}

/-- The entry point drops the answer of the callback. -/
theorem prepare_eq (key : Option Registry) (usbinId : Option Nat) :
    (EntryPoint.prepare key usbinId).run =
      (device (prepareReady key usbinId) >>= fun _ => pure ()) := by
  show device (prepareHardware key usbinId) = _
  rw [prepareHardware_eq]
  exact Proc.inl_bind _ _

/-- A tick polls the gauge, and goes on with the answer. -/
theorem tick_steps {gauge : GaugePoll}
    {p : Prog (DevEffect.sum RequestEffect) (Except Empty Unit × DriverState)}
    (h : Prog.Steps (device (tickAfter gauge) s) t p) :
    Prog.Steps (EntryPoint.tick.run s) (Callback.tick.polled gauge ++ t) p := by
  show Prog.Steps (device telemetryTick s) _ p
  rw [telemetryTick_eq]
  exact .op h

/-- What a callback has done, its entry point can have done. -/
theorem body_steps (c : Callback) {gauge : GaugePoll}
    {p : Prog (DevEffect.sum RequestEffect) (Except Empty Bool × DriverState)}
    (h : Prog.Steps (c.body gauge s) t p) :
    ∃ q, Prog.Steps (c.entry.run s) (c.polled gauge ++ t) q := by
  cases c with
  -- The body of a tick starts behind its poll. The others are the entry point, but for the answer.
  | tick =>
      obtain ⟨q, hq⟩ := Proc.steps_of_bind_pure h
      exact ⟨q, tick_steps hq⟩
  | prepare key usbinId =>
      have hbind := Prog.Steps.bind h (Proc.andThen fun _ => (pure () : RequestM Unit))
      refine ⟨p.bind (Proc.andThen fun _ => (pure () : RequestM Unit)), ?_⟩
      rw [Callback.entry, prepare_eq]
      exact hbind
  | release => exact Proc.steps_of_bind_pure h
  | control code input room => exact Proc.steps_of_bind_pure h

/-- And when the callback is through, the state is the one the entry point leaves. -/
theorem body_yields (c : Callback) {gauge : GaugePoll} {r : Except Empty Bool}
    (h : (c.body gauge).Yields s t r s') :
    ∃ r', c.entry.run.Yields s (c.polled gauge ++ t) r' s' := by
  cases c with
  | tick =>
      obtain ⟨r', hr'⟩ := Proc.Yields.of_bind_pure h
      exact ⟨r', tick_steps hr'⟩
  | prepare key usbinId =>
      obtain ⟨r', hr'⟩ := Proc.Yields.bind_pure h ()
      refine ⟨r', ?_⟩
      rw [Callback.entry, prepare_eq]
      exact hr'
  | release => exact Proc.Yields.of_bind_pure h
  | control code input room => exact Proc.Yields.of_bind_pure h

/-- A callback under the lock does what its entry point does after the gauge poll. -/
theorem callback_carries {ι : Type} (calls : ι → Callback) :
    Carries (bodies fun i => (calls i).body) EntryPoint.run
      (fun c : ι × GaugePoll => (calls c.1).entry) (fun c => (calls c.1).polled c.2) where
  steps c _ _ _ h := body_steps (calls c.1) h
  yields c _ _ _ _ h := body_yields (calls c.1) h

/-- A poll of the fuel gauge. -/
def isPoll : Event (DevEffect.sum RequestEffect) → Bool
  | ⟨.inl (.inr .pollGauge), _⟩ => true
  | _ => false

/-- The exchanges other than polls of the gauge. -/
def withoutPolls (t : List (Event (DevEffect.sum RequestEffect))) :
    List (Event (DevEffect.sum RequestEffect)) :=
  t.filter fun e => !isPoll e

omit [LoopFuel] in
/-- The poll itself is all that stands before it. -/
theorem withoutPolls_polled (c : Callback) (gauge : GaugePoll) :
    withoutPolls (c.polled gauge) = [] := by
  cases c <;> rfl

omit [LoopFuel] in
/-- The entries differ from the bodies in their polls only. -/
theorem withoutPolls_carry {ι : Type} (calls : ι → Callback)
    (log : List (Entry (DevEffect.sum RequestEffect) DriverState (ι × GaugePoll))) :
    withoutPolls (exchanges (log.map (Entry.carry (fun c => (calls c.1).entry)
      fun c => (calls c.1).polled c.2))) = withoutPolls (exchanges log) := by
  induction log with
  | nil => rfl
  | cons entry log ih =>
      simp only [exchanges, withoutPolls, List.map_cons, List.flatMap_cons, List.filter_append,
        Entry.carry] at ih ⊢
      rw [ih]
      have hpolled := withoutPolls_polled (calls entry.op.1) entry.op.2
      rw [withoutPolls] at hpolled
      rw [hpolled, List.nil_append]

variable {ι : Type} [DecidableEq ι] {calls : ι → Callback} {g : GaugeCell}
  {log : List (Event (threads ι CallEffect))} {rest : ι → Prog CallEffect Unit}

/-- At any point of any interleaving of callbacks, what was done with the mutex in hand is, but for
the polls of the gauge, what a session of the entry points has done, in the order in which they got
it. Nothing was done without the mutex, and while it is free the driver state is the one that the
session left. -/
theorem callbacks_in_order
    (h : Interleaving (driverMemory ι) (⟨true, none, s⟩, g) (callbackThreads calls) log rest) :
    (stateLock ι).Meets ⟨true, none, s⟩ log ∧ ∃ entries, Session EntryPoint.run s entries ∧
      entries.map (fun entry => entry.op) = (owners log).map (fun i => (calls i).entry) ∧
        withoutPolls (exchanges entries) = withoutPolls (heldEvents log) ∧
          (((stateLock ι).after ⟨true, none, s⟩ log).owner = none →
            Run EntryPoint.run s entries ((stateLock ι).after ⟨true, none, s⟩ log).value) := by
  obtain ⟨hmeets, entries, hsession, howners, hheld, hrun⟩ := h.left.session
  refine ⟨hmeets, _, (callback_carries calls).session hsession, ?_, ?_, fun hfree =>
    (callback_carries calls).run (hrun hfree)⟩
  · rw [← howners, List.map_map, List.map_map]
    rfl
  · rw [withoutPolls_carry, hheld]

end

/-- A tick and a request for the status. -/
def tickAndStatus : Fin 2 → Callback
  | 0 => .tick
  | 1 => .control Ioctl.ioctlGetStatus [] 64

/-- The tick comes first, but the request gets the mutex while the gauge is polled. -/
def statusFirst : List (Fin 2) :=
  scheduleOf [0, 0, 0, 1, 1, 1, 0, 0, 0, 0, 1, 1, 1, 1, 1, 0, 0, 0, 0, 0]

/-- A status request that gets the lock first is served before the tick. -/
theorem callbacks_in_order_status_first : ∃ log : List (Event (threads (Fin 2) CallEffect)),
    owners log = [1, 0] ∧ ∃ entries, Session (@EntryPoint.run ⟨0⟩) DriverState.new entries ∧
      entries.map (fun entry => entry.op) = [.control Ioctl.ioctlGetStatus [] 64, .tick] := by
  have hrun : (callLog tickAndStatus ⟨true, 0, 100⟩ [([], 64)] statusFirst).map (fun ran =>
      decide (owners ran.1 = [1, 0])) = some true := by decide +kernel
  obtain ⟨⟨log, rest⟩, hlog, howners⟩ := Option.map_eq_some_iff.1 hrun
  obtain ⟨_, entries, hsession, horder, _⟩ :=
    @callbacks_in_order ⟨0⟩ _ (Fin 2) _ tickAndStatus _ log rest (interleaving_callLog hlog)
  rw [of_decide_eq_true howners] at horder
  exact ⟨log, of_decide_eq_true howners, entries, hsession, horder⟩

end Kmdf
