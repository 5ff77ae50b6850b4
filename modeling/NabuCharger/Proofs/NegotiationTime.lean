import NabuCharger.Proofs.PmicRegisters

/-!
# `Proofs.NegotiationTime`: how long the Quick Charge machine sleeps

A negotiation blocks its caller. Every wait of it polls, and
every poll sleeps, so the question is how the waits add up. Each operation returns on every stream
of answers, and has a budget of milliseconds (`QcOp.budgetMs`). A session stays within the sum of
the budgets, and the budget of a negotiation is exact (`negotiation_time`).

The longest negotiation is the one of a plain DCP whose detection is done at its deadline. Its bus
rises above the first threshold but not to the gate, which moves the deadline to 4 s. At that
deadline one sample is above the gate, and buys one poll more. The level does not hold, so all 23
pulses of the fallback follow.
-/

set_option autoImplicit false

namespace Kmdf

open Effectful Ln8000

/-! ### The slowest adapter -/

/-- An adapter that is detected at the deadline, and how far the bus has come. -/
structure SlowBench where
  polls : Nat
  samples : Nat
  deriving DecidableEq, Repr

namespace SlowBench

/-- A bench on which nothing has been polled or sampled. -/
def start : SlowBench := { polls := 0, samples := 0 }

/-- The detection looks once before the rerun, and ten times after it before its deadline. -/
def status (bench : SlowBench) : Byte := if bench.polls < 11 then 0 else Pmic.bitApsdDone

/-- One sample is above the gate: the one at the moved deadline. -/
def vin (bench : SlowBench) : Int := if bench.samples = 80 then 8000000 else 5700000

/-- A status poll is counted and answered by the bench. The result register names a DCP port. -/
def read (bench : SlowBench) (addr : PmicAddr) : Byte × SlowBench :=
  if addr = Pmic.apsdStatus then (bench.status, { bench with polls := bench.polls + 1 })
  else if addr = Pmic.apsdResult then (Pmic.bitDcp, bench)
  else (0, bench)

/-- The bench answers every access, and each supply sample is counted. -/
def answer (bench : SlowBench) : (o : HvdcpOp) → HvdcpEffect.Resp o × SlowBench
  | .readVin => (bench.vin, { bench with samples := bench.samples + 1 })
  | .spmi (.superuserRead addr) => (some (bench.read addr).1, (bench.read addr).2)
  | .spmi (.superuserWrite _ _) => (true, bench)
  | .spmi (.sleep _) => ((), bench)
  | .spmi .superuserOpen => (true, bench)
  | .spmi (.superuserGrant _) => (true, bench)
  | .spmi (.usbinOpen _) => (false, bench)
  | .spmi (.usbinTransact _ _ _) => (none, bench)

end SlowBench

/-- The time a program sleeps against it, if it returns. -/
@[irreducible] def slowestMs (x : HvdcpM Unit) : Option Nat :=
  let ran := (x HvdcpState.new).runWith SlowBench.answer .start
  ran.2.2.map fun _ => sleptMs ran.1

/-- The computed sleep time belongs to a run of the program. -/
theorem slowestMs_yields {x : HvdcpM Unit} {ms : Nat} (h : slowestMs x = some ms) :
    ∃ t out, Prog.Yields (x HvdcpState.new) t out ∧ sleptMs t = ms := by
  rw [slowestMs] at h
  obtain ⟨out, hout, hms⟩ := Option.map_eq_some_iff.1 h
  exact ⟨_, out, Prog.yields_runWith SlowBench.answer (x HvdcpState.new) .start out hout, hms⟩

/-! ### The budgets -/

/-- Every operation returns, whatever the answers are, and a session sleeps no longer than its
operations may. A negotiation can sleep that long. -/
theorem negotiation_time :
    (∀ op : QcOp, Proc.Returns op.run) ∧
    (∀ st (log : List (Entry HvdcpEffect HvdcpState QcOp)), Session QcOp.run st log →
      sleptMs (exchanges log) ≤ (log.map fun entry => entry.op.budgetMs).sum) ∧
    ∃ usbinId vbatUv t out, Prog.Yields (runNegotiate usbinId vbatUv HvdcpState.new) t out ∧
      sleptMs t = QcOp.budgetMs (.pulse (.negotiate usbinId vbatUv)) := by
  refine ⟨fun op => (owned_qcOp op).returns, fun st log h => ?_, none, 3900000, ?_⟩
  · rw [← cost_pauseMs]
    refine h.cost_le fun op st t q hsteps => ?_
    have hcosts := (owned_qcOp op).le_of_steps (m := PmicSeen.start) trivial hsteps
    exact hcosts (pmicWatch_allowed t _)
  · have hms : slowestMs (runNegotiate none 3900000) = some 7520 := by decide +kernel
    exact slowestMs_yields hms

end Kmdf
