import NabuCharger.Ln8000.Status

/-!
# `Ln8000.Telemetry`: the sample ring and the charge sessions

The store of `session.rs`: a ring of the last samples, and the intervals during which the
input had power. A sample with power opens a session or extends it, a sample without power
closes it into the history ring.
-/

set_option autoImplicit false

namespace Ln8000

open Effectful

/-- Size of the sample ring. -/
def sampleRing : Nat := 256

/-- How many completed sessions are kept. -/
def sessionHistory : Nat := 32

/-- A charge session: an interval during which the input had power. -/
structure ChargeSession where
  startedMs : Nat
  endedMs : Option Nat
  samples : Nat
  peakIinUa : Nat
  peakDieTempDc : Int
  sawSwitching : Bool
  sawBypass : Bool
  deriving DecidableEq, Repr

namespace ChargeSession

/-- An empty session. -/
def new (startedMs : Nat) : ChargeSession where
  startedMs := startedMs
  endedMs := none
  samples := 0
  peakIinUa := 0
  peakDieTempDc := -2147483648
  sawSwitching := false
  sawBypass := false

/-- Accounts for one sample. -/
def extend (session : ChargeSession) (sample : TelemetrySample) : ChargeSession :=
  { session with
    samples := satAdd 32 session.samples 1
    peakIinUa := max session.peakIinUa sample.iinUa
    peakDieTempDc := max session.peakDieTempDc sample.dieTempDc
    sawSwitching := session.sawSwitching || decide (sample.opMode = .switching)
    sawBypass := session.sawBypass || decide (sample.opMode = .bypass) }

end ChargeSession

/-- Telemetry storage. An index of a ring is the slot the next entry goes to. -/
structure Telemetry where
  samples : Nat → Option TelemetrySample
  sampleNext : Nat
  sampleTotal : Nat
  sessions : Nat → Option ChargeSession
  sessionNext : Nat
  sessionTotal : Nat
  current : Option ChargeSession

namespace Telemetry

/-- Empty telemetry. -/
def new : Telemetry where
  samples := fun _ => none
  sampleNext := 0
  sampleTotal := 0
  sessions := fun _ => none
  sessionNext := 0
  sessionTotal := 0
  current := none

/-- The index after `next` in a ring of `size` slots. -/
def advance (size next : Nat) : Nat := (next + 1) % size

/-- The index before `next` in a ring of `size` slots. -/
def previous (size next : Nat) : Nat := if next = 0 then size - 1 else next - 1

/-- A ring with one slot replaced. -/
def setSlot {α : Type} (slots : Nat → Option α) (index : Nat) (value : α) :
    Nat → Option α :=
  fun i => if i = index then some value else slots i

/-- Puts a session into the next slot of the history. -/
def storeSession (store : Telemetry) (session : ChargeSession) : Telemetry :=
  { store with
    sessions := setSlot store.sessions store.sessionNext session
    sessionNext := advance sessionHistory store.sessionNext }

/-- Puts a sample into the ring. -/
def record (store : Telemetry) (sample : TelemetrySample) : Telemetry :=
  { store with
    samples := setSlot store.samples store.sampleNext sample
    sampleNext := advance sampleRing store.sampleNext
    sampleTotal := satAdd 64 store.sampleTotal 1 }

/-- Accepts a sample and updates the session. -/
def push (store : Telemetry) (sample : TelemetrySample) : Telemetry :=
  let store := store.record sample
  if sample.inputPresent then
    match store.current with
    | none =>
        -- the input came: a session starts with this sample
        { store with
          sessionTotal := satAdd 64 store.sessionTotal 1
          current := some ((ChargeSession.new sample.tsMs).extend sample) }
    | some session => { store with current := some (session.extend sample) }
  else
    match store.current with
    | none => store
    | some session =>
        -- the input went: the session is stored with its end, this sample left out
        { store with current := none }.storeSession { session with endedMs := some sample.tsMs }

/-- The last sample. -/
def lastSample (store : Telemetry) : Option TelemetrySample :=
  store.samples (previous sampleRing store.sampleNext)

/-- The last completed session. -/
def lastCompleted (store : Telemetry) : Option ChargeSession :=
  store.sessions (previous sessionHistory store.sessionNext)

/-- The stored samples, in the order in which `for_each_sample` visits them. -/
def forEachSample (store : Telemetry) : List TelemetrySample :=
  (List.range sampleRing).filterMap fun index =>
    store.samples ((store.sampleNext + index) % sampleRing)

/-- The ring index stays in the ring. -/
theorem push_sampleNext (store : Telemetry) (sample : TelemetrySample) :
    (store.push sample).sampleNext = advance sampleRing store.sampleNext := by
  simp only [push]
  split
  · split <;> rfl
  · split <;> rfl

/-- A sample goes into the next slot, whatever becomes of the sessions. -/
theorem push_samples (store : Telemetry) (sample : TelemetrySample) :
    (store.push sample).samples = setSlot store.samples store.sampleNext sample := by
  simp only [push]
  split
  · split <;> rfl
  · split <;> rfl

/-- Stepping back from the next index is the index itself. -/
theorem previous_advance {size next : Nat} (h : next < size) :
    previous size (advance size next) = next := by
  rw [previous, advance]
  rcases Nat.lt_or_ge (next + 1) size with hlt | hge
  · rw [Nat.mod_eq_of_lt hlt, if_neg (Nat.succ_ne_zero next)]
    omega
  · have hend : next + 1 = size := by omega
    rw [hend, Nat.mod_self, if_pos rfl]
    omega

/-- The sample pushed last is the last sample. -/
theorem lastSample_push {store : Telemetry} (h : store.sampleNext < sampleRing)
    (sample : TelemetrySample) : (store.push sample).lastSample = some sample := by
  rw [lastSample, push_sampleNext, previous_advance h, push_samples, setSlot, if_pos rfl]

end Telemetry

end Ln8000
