import NabuCharger.Kmdf.Callbacks
import NabuCharger.Kmdf.RequestBench

/-!
# `Kmdf.CallbackBench`: an executable surrounding of callbacks at the same time

The bench of the driver with its clients, the state mutex, the flags of the gauge, and a gauge that
answers. A schedule says which call takes the next step. It is there for the concrete runs.
-/

set_option autoImplicit false

namespace Kmdf

open Effectful Wdf

/-- Two calls and their memory. -/
abbrev twoCalls : Machine (threads (Fin 2) CallEffect) := driverMemory (Fin 2)

/-- An answer that the memory allows. A mutex that somebody has gives none. -/
def callAnswer (m : twoCalls.State) (b : RequestBench) :
    (o : (threads (Fin 2) CallEffect).Op) →
      Option ({ r : (threads (Fin 2) CallEffect).Resp o // twoCalls.allow m o r } × RequestBench)
  | (_, .free .isReady) => some (⟨m.2.ready, trivial, rfl⟩, b)
  | (_, .free (.setReady _)) => some (⟨(), trivial, trivial⟩, b)
  | (_, .free .device) => some (⟨true, trivial, trivial⟩, b)
  | (_, .free .now) => some (⟨m.2.clock, trivial, Nat.le_refl _⟩, b)
  | (_, .free .last) => some (⟨m.2.last, trivial, rfl⟩, b)
  | (_, .free (.claim last _)) => some (⟨decide (m.2.last = last), trivial, rfl⟩, b)
  | (_, .free .read) => some (⟨some 0x80, trivial, trivial⟩, b)
  | (_, .held o) =>
      let answered := b.answer o
      some (⟨answered.1, trivial, trivial⟩, answered.2)
  | (_, .lock .isReady) => some (⟨m.1.ready, rfl, trivial⟩, b)
  | (_, .lock .acquire) =>
      if hfree : m.1.owner = none then some (⟨(), hfree, trivial⟩, b) else none
  | (_, .lock .release) => some (⟨(), trivial, trivial⟩, b)
  | (_, .lock .load) => some (⟨m.1.value, rfl, trivial⟩, b)
  | (_, .lock (.store _)) => some (⟨(), trivial, trivial⟩, b)

/-- A schedule of two calls, by their numbers. -/
def scheduleOf (calls : List Nat) : List (Fin 2) := calls.map (Fin.ofNat 2)

/-- The log of two calls under a schedule. -/
def callLog (calls : Fin 2 → Callback) (g : GaugeCell) (waiting : List (List Byte × Nat))
    (schedule : List (Fin 2)) :
    Option (List (Event (threads (Fin 2) CallEffect)) × (Fin 2 → Prog CallEffect Unit)) :=
  Interleaving.execute callAnswer (⟨true, none, DriverState.new⟩, g)
    { bench := .around .fiveVolt, waiting := waiting } (@callbackThreads ⟨0⟩ _ calls) schedule

/-- A log of the bench is an interleaving of the two calls. -/
theorem interleaving_callLog {calls : Fin 2 → Callback} {g : GaugeCell}
    {waiting : List (List Byte × Nat)} {schedule : List (Fin 2)}
    {log : List (Event (threads (Fin 2) CallEffect))} {rest : Fin 2 → Prog CallEffect Unit}
    (h : callLog calls g waiting schedule = some (log, rest)) :
    Interleaving twoCalls (⟨true, none, DriverState.new⟩, g) (@callbackThreads ⟨0⟩ _ calls) log
      rest :=
  Interleaving.of_execute schedule .start h

end Kmdf
