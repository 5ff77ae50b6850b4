import NabuCharger.Kmdf.Handlers
import NabuCharger.Logic.Session
import NabuCharger.Ln8000.Chip

/-!
# `Kmdf.Bench`: an executable surrounding of the driver

A chip on the bus, a clock that advances with every reading, and a host whose PMIC bus does
not answer. Statements about every run do not use it. It is there for the concrete runs.
-/

set_option autoImplicit false

namespace Kmdf

open Effectful Ln8000

/-- What the driver runs against. -/
structure Bench where
  chip : Chip
  nowMs : Nat
  gauge : GaugePoll
  chargeRegs : Option ChargeRegs

namespace Bench

/-- The PMIC bus does not answer. -/
def answerSpmi : (o : SpmiOp) → o.Resp
  | .sleep _ => ()
  | .superuserOpen => false
  | .superuserGrant _ => false
  | .superuserRead _ => none
  | .superuserWrite _ _ => false
  | .usbinOpen _ => false
  | .usbinTransact _ _ _ => none

/-- What the bench answers. A reading of the clock takes 250 ms. -/
def answer (bench : Bench) : (o : DevEffect.Op) → DevEffect.Resp o × Bench
  | .inl o =>
      let answered := bench.chip.answer o
      (answered.1, { bench with chip := answered.2 })
  | .inr (.spmi o) => (answerSpmi o, bench)
  | .inr .now => (bench.nowMs, { bench with nowMs := bench.nowMs + 250 })
  | .inr .pollGauge => (bench.gauge, bench)
  | .inr .readChargeRegs => (bench.chargeRegs, bench)
  | .inr (.writeFccRaw raw) => (some raw, bench)
  | .inr .initializeBattery => (false, bench)
  | .inr (.point _) => ((), bench)

/-- The same bench, with a clock that advances by `gapMs` at every reading. -/
def answerEvery (gapMs : Nat) (bench : Bench) : (o : DevEffect.Op) → DevEffect.Resp o × Bench
  | .inr .now => (bench.nowMs, { bench with nowMs := bench.nowMs + gapMs })
  | o => bench.answer o

/-- A bench around a chip, without a fuel gauge. -/
def around (chip : Chip) : Bench where
  chip := chip
  nowMs := 1000
  gauge := .skipped
  chargeRegs := none

end Bench

/-- The log of these entry points from the loaded driver. -/
def driverLog (bench : Bench) (ops : List DriverOp) :
    List (Entry DevEffect DriverState DriverOp) :=
  Session.execute Bench.answer (@DriverOp.run ⟨0⟩) bench DriverState.new ops

/-- A log of the bench is a session of the driver. -/
theorem session_driverLog (bench : Bench) (ops : List DriverOp) :
    Session (@DriverOp.run ⟨0⟩) DriverState.new (driverLog bench ops) :=
  Session.session_execute Bench.answer (@DriverOp.run ⟨0⟩) ops bench DriverState.new

/-- The state they leave, if all of them return. -/
def driverLeaves (bench : Bench) (ops : List DriverOp) : Option DriverState :=
  Run.leaves Bench.answer (@DriverOp.run ⟨0⟩) bench DriverState.new ops

/-- If all its operations return, it is a run. -/
theorem run_driverLog {bench : Bench} {ops : List DriverOp} {s : DriverState}
    (h : driverLeaves bench ops = some s) :
    Run (@DriverOp.run ⟨0⟩) DriverState.new (driverLog bench ops) s :=
  Run.of_leaves (E := DevEffect) Bench.answer (@DriverOp.run ⟨0⟩) ops bench _ s h

end Kmdf
