import NabuCharger.Kmdf.Handlers
import NabuCharger.Logic.Marks

/-!
# `Kmdf.WalkedDriver`: the driver, with its looks at the bus marked

A tick looks at the bus and may correct it. No exchange shows how far from the target it found the
bus, and a correction that has no pulse to send shows nothing at all. Here the tick is written once
more with a mark for each: the bus is outside the band or carries nothing (`WalkMark.outside`), it
is fine (`WalkMark.inside`), and a correction begins (`WalkMark.corrects`).

Without its marks the tick is the one it was written from (`DriverOp.unmark_walked`).
-/

set_option autoImplicit false

namespace Kmdf

open Effectful Ln8000

/-- What a correction of the bus is decided on, and whether it is made. -/
inductive WalkMark
  /-- The bus asks for a correction. It is this far from the target. -/
  | outside (errUv : Nat)
  /-- It does not. -/
  | inside
  /-- The bus is corrected. -/
  | corrects
  deriving DecidableEq, Repr

/-- The driver's surroundings, with a place for these marks. -/
abbrev WalkedEffect : Effect := DevEffect.sum (marks WalkMark)

/-- Programs of the walked driver with the pump in hand. -/
abbrev WalkedM (α : Type) : Type := Proc WalkedEffect Empty Held α

/-- Deviation of the bus from the target. -/
def Decision.errUv (d : Decision) : Nat :=
  absDiff d.obs.sample.vbusUv (targetVbusUv d.cellVbatUv)

section
variable [LoopFuel]

/-- `walkWindow` with its marks. -/
def walkedWindow (d : Decision) : WalkedM Bool := do
  let s ← Proc.get
  let dead := d.dead s.maxIinUa
  if d.walks = true ∧
      (dead = true ∨ vinInSwitchingWindow d.obs.vbusUv d.cellVbatUv = false) then
    let now ← (monotonicMs : HeldM Nat).inl
    Proc.mark (.outside d.errUv)
    Proc.modify (noteProgress d.errUv)
    let s ← Proc.get
    let cooldown := if s.windowStallN < windowStallMax then windowNudgeMs else windowStallMs
    let urgent :=
      decide (d.desired = some .bypass) && decide (d.obs.status.opMode = .bypass)
        && decide (s.windowStallN = 0)
    let belowBand := decide (d.obs.sample.vbusUv < windowFloorUv d.cellVbatUv)
    if shouldWalkWindow dead d.transferring belowBand = true ∧
        (urgent = true ∨ cooldown ≤ now - s.lastWindowNudgeMs) then
      Proc.mark .corrects
      (walkOnce d dead now).inl
    else pure false
  else
    Proc.mark .inside
    Proc.modify resetStall
    pure false

/-- `act` with the marks of its correction. -/
def walkedAct (obs : Observation) : WalkedM Wants := do
  let changed ← (protect obs).inl
  (clearLatches obs.status).inl
  let s ← Proc.get
  let d := s.toContext.decide obs
  let left ← walkedWindow d
  (decideMode d changed left).inl
  (Proc.discard (onPump serviceWatchdog) : HeldM Unit).inl
  (dueWants d).inl

/-- `tickOnPump` with these marks. -/
def walkedTickOnPump (gauge : GaugePoll) : WalkedM (Option Wants) := do
  match ← (onPump status).inl with
  | .error _ =>
      Proc.modify fun s => { s with lastError := -10 }
      pure none
  | .ok status =>
      let obs ← (observe gauge status).inl
      let wants ← walkedAct obs
      pure (some wants)

/-- The borrow of the pump, for a program with marks. -/
def withWalkedPump {α : Type} (x : WalkedM α) :
    Proc WalkedEffect Empty DriverState (Option α) := fun s =>
  match s.pump with
  | none => .ret (.ok none, s)
  | some p =>
      (x { s.toContext with pump := p }).map fun out =>
        (out.1.map some, { out.2.toContext with pump := some out.2.pump })

/-- `telemetryTick` with these marks. -/
def walkedTick : Proc WalkedEffect Empty DriverState Unit := do
  let gauge : GaugePoll ← (host .pollGauge : DriverM GaugePoll).inl
  let wants ← withWalkedPump (walkedTickOnPump gauge)
  (tickLandings wants.join).inl
  (point .tickDone : DriverM Unit).inl

/-- The program of an entry point, with the marks of the tick. -/
def DriverOp.walked : DriverOp → Proc WalkedEffect Empty DriverState Unit
  | .tick => walkedTick
  | op => op.run.inl

/-! ### Without the marks -/

/-- The walk with its marks taken away. -/
theorem unmark_walkedWindow (d : Decision) : (walkedWindow d).unmark = walkWindow d := by
  simp [walkedWindow, walkWindow, Decision.errUv]

/-- The decision of a tick with its marks taken away. -/
theorem unmark_walkedAct (obs : Observation) : (walkedAct obs).unmark = act obs := by
  simp [walkedAct, act, unmark_walkedWindow]

/-- The tick on a pump with its marks taken away. -/
theorem unmark_walkedTickOnPump (gauge : GaugePoll) :
    (walkedTickOnPump gauge).unmark = tickOnPump gauge := by
  refine Proc.unmark_inl_bind fun answer => ?_
  cases answer with
  | error err => rfl
  | ok status => simp [unmark_walkedAct]

omit [LoopFuel] in
/-- A program that takes the pump out, with its marks taken away. -/
theorem unmark_withWalkedPump {α : Type} (x : WalkedM α) :
    (withWalkedPump x).unmark = withPump x.unmark := by
  funext s
  unfold Proc.unmark withWalkedPump withPump
  cases s.pump with
  | none => rfl
  | some p => exact Prog.unmark_map _ _

/-- The walked tick is the tick. -/
theorem unmark_walkedTick : walkedTick.unmark = telemetryTick := by
  refine Proc.unmark_inl_bind fun gauge => ?_
  simp [unmark_withWalkedPump, unmark_walkedTickOnPump]

/-- The walked driver is the driver. -/
theorem DriverOp.unmark_walked (op : DriverOp) : op.walked.unmark = op.run := by
  cases op with
  | tick => exact unmark_walkedTick
  | _ => exact Proc.unmark_inl _

end

end Kmdf
