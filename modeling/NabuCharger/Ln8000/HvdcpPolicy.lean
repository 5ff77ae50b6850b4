import NabuCharger.Ln8000.Encoding

/-!
# `Ln8000.HvdcpPolicy`: the pure half of the Quick Charge negotiation

When a negotiation is repeated (`shouldRenegotiateOnInputEdge`, `superuserRetryDue`), how the
adapter found by the detection is raised (`apsdElevatePath`), how long the `FORCE_9V` answer
is waited for (`force9vStep`), and the windows and pulse patterns of the QC3.5
authentication.
-/

set_option autoImplicit false

namespace Ln8000

open Effectful

/-! ### Retries and input edges -/

/-- Retries for the privileged bus. -/
def hvdcpSuperuserRetryMax : Nat := 30
/-- Pause between two of them. -/
def hvdcpSuperuserRetryMs : Nat := 2000

/-- Vin at or under this counts as cable absent. -/
def vinUnplugMaxUv : Int := 1000000

/-- Code of a negotiation that found no bus. -/
def hvdcpErrUsbinUnavailable : Int := -10

/-- Nothing was negotiated. -/
def hvdcpPhaseIdle : Nat := 0
/-- The negotiation is over. -/
def hvdcpPhaseDone : Nat := 6
/-- The negotiation has failed. -/
def hvdcpPhaseFailed : Nat := 7
/-- The pump runs from 5 V. -/
def hvdcpPhaseFiveVBypass : Nat := 9

/-- Schedule a later SUPERUSER open. -/
def shouldScheduleSuperuserRetry (negotiateRc : Int) : Bool :=
  decide (negotiateRc = hvdcpErrUsbinUnavailable)

/-- Whether a pending SUPERUSER retry should run now. -/
def superuserRetryDue (pending : Bool) (attempts nowMs nextMs : Nat) : Bool :=
  pending && decide (attempts < hvdcpSuperuserRetryMax) && decide (nextMs ≤ nowMs)

/-- A rising cable edge after a phase that has ended. -/
def shouldRenegotiateOnInputEdge (phase : Nat) (wasInputPresent nowInputPresent : Bool) :
    Bool :=
  if wasInputPresent || !nowInputPresent then false
  else decide (phase = hvdcpPhaseIdle ∨ phase = hvdcpPhaseFailed ∨ phase = hvdcpPhaseDone ∨
    phase = hvdcpPhaseFiveVBypass)

/-- Classifies Vin as cable present. -/
def inputPresentFromVin (vinUv : Int) : Bool := decide (vinUv > vinUnplugMaxUv)

/-! ### The `FORCE_9V` wait -/

/-- VBUS from which the brick has answered the signature. -/
def force9vRiseUv : Int := 5600000

/-- How long a rise to 9 V is waited for. -/
def force9vSettleMs : Nat := 1600
/-- How much longer, for a bus that still rises. -/
def force9vExtendMs : Nat := 2400
/-- No wait is longer. -/
def force9vHardCapMs : Nat := 5000

/-- What the wait loop does with the newest sample. -/
inductive Force9vWait
  | continue
  | extend
  | stop
  deriving DecidableEq, Repr

/-- One step of the wait loop. -/
def force9vStep (vinUv : Int) (waitedMs deadlineMs : Nat) (extended : Bool)
    (switchingMinUv : Int) : Force9vWait :=
  if switchingMinUv ≤ vinUv ∨ deadlineMs ≤ waitedMs then .stop
  else if extended = false ∧ force9vRiseUv ≤ vinUv then .extend
  else .continue

/-- Deadline after the first rise: one extension, capped. -/
def force9vExtendedDeadline (deadlineMs : Nat) : Nat :=
  if satAdd 32 deadlineMs force9vExtendMs > force9vHardCapMs then force9vHardCapMs
  else satAdd 32 deadlineMs force9vExtendMs

/-! ### Classification of the adapter -/

/-- A port that only charges. -/
def apsdBitDcp : Byte := bit 3
/-- Quick Charge 2.0. -/
def apsdBitQc2 : Byte := bit 5
/-- Quick Charge 3.0. -/
def apsdBitQc3 : Byte := bit 6
/-- The adapter can do Quick Charge. -/
def apsdStatBitQcCharger : Byte := bit 1

/-- Re-reads a result as HVDCP2 when the status carries the QC signature. -/
def promoteQcCharger (result apsdStatus : Byte) : Byte :=
  if apsdStatus &&& apsdStatBitQcCharger ≠ 0 ∧ result &&& apsdBitQc3 = 0 then
    result ||| apsdBitDcp ||| apsdBitQc2
  else result

/-- How an adapter is raised. -/
inductive ApsdElevate
  | qc3Pulse
  | force9v
  | reject
  deriving DecidableEq, Repr

/-- Classifies the detection result and the continuous bit. -/
def apsdElevatePath (result : Byte) (qc3Continuous : Bool) : ApsdElevate :=
  if result &&& apsdBitQc3 ≠ 0 ∨ qc3Continuous = true then .qc3Pulse
  else if result &&& apsdBitQc2 ≠ 0 ∨ result &&& apsdBitDcp ≠ 0 then .force9v
  else .reject

/-! ### QC3.5 authentication -/

/-- Pause after a pulse of the authentication. -/
def qc35AuthPulseGapMs : Nat := 5
/-- How long the first window is waited for. -/
def qc35DetectTimeoutMs : Nat := 200
/-- How long the second window is waited for. -/
def qc35CapTimeoutMs : Nat := 250
/-- Pause between two samples of a wait. -/
def qc35VinPollMs : Nat := 20

/-- INC budget of the preparation. -/
def qc35PrepMaxInc : Nat := 8

/-- The first window begins above this level. -/
def qc35DetectLoUv : Int := 5500000
/-- The first window ends below this level. -/
def qc35DetectHiUv : Int := 6400000
/-- The second window begins at this level. -/
def qc35CapLoUv : Int := 6650000
/-- The second window ends at this level. -/
def qc35CapHiUv : Int := 9800000
/-- Highest level of a source of 18 W. -/
def qc3518wHiUv : Int := 7350000
/-- Lowest level of a source of 27 W. -/
def qc3527wLoUv : Int := 7600000
/-- Highest level of a source of 27 W. -/
def qc3527wHiUv : Int := 8400000
/-- Lowest level of a source of 40 W. -/
def qc3540wLoUv : Int := 8550000

/-- Limit code of 2 A, for the classes below 40 W. -/
def iclRawQc352a : Byte := 40
/-- Limit code of 3 A, for the class of 40 W. -/
def iclRawQc3540w : Byte := 60

/-- One pulse of an authentication train. -/
inductive Qc35AuthPulse
  | inc
  | dec
  deriving DecidableEq, Repr

/-- Requests the source capability. -/
def qc35SrcCapPulses : List Qc35AuthPulse := [.inc, .dec, .inc, .dec, .inc, .dec]

/-- Confirms the transition. -/
def qc35ConfirmPulses : List Qc35AuthPulse := [.inc, .inc, .dec, .dec]

/-- Whether to run the authentication pulses. -/
inductive Qc35AuthGate
  | attempt
  | skipVinTooHigh
  | skipVinInvalid
  deriving DecidableEq, Repr

/-- Whether the input is fit for an authentication. -/
def decideQc35AuthAttempt (vinUv : Int) : Qc35AuthGate :=
  if vinUv ≤ 0 then .skipVinInvalid
  else if qc35DetectHiUv ≤ vinUv then .skipVinTooHigh
  else .attempt

/-- The input is in the first window. -/
def qc35DetectWindow (vinUv : Int) : Bool :=
  decide (vinUv > qc35DetectLoUv) && decide (vinUv < qc35DetectHiUv)

/-- The input is in the second window. -/
def qc35CapWindow (vinUv : Int) : Bool :=
  decide (qc35CapLoUv ≤ vinUv) && decide (vinUv ≤ qc35CapHiUv)

/-- Power class of the source in watts. -/
def qc35PowerLimitW (vinUv : Int) : Option Nat :=
  if qc35CapLoUv ≤ vinUv ∧ vinUv ≤ qc3518wHiUv then some 18
  else if qc3527wLoUv ≤ vinUv ∧ vinUv ≤ qc3527wHiUv then some 27
  else if qc3540wLoUv ≤ vinUv ∧ vinUv ≤ qc35CapHiUv then some 40
  else none

/-- Input current code of a power class. -/
def qc35IclRaw (powerW : Nat) : Byte :=
  if 40 ≤ powerW then iclRawQc3540w else iclRawQc352a

/-- Outcome of an authentication. -/
inductive Qc35AuthResult
  | authenticated (powerW : Nat)
  | fallbackQc3
  deriving DecidableEq, Repr

/-- The outcome by the samples alone: `Vin` before the authentication, after the preparation,
and after the capability request. -/
def qc35AuthenticateOutcome (vinBeforeAuth : Int) (detectVin srcCapVin : Option Int) :
    Qc35AuthResult :=
  match decideQc35AuthAttempt vinBeforeAuth with
  | .skipVinInvalid | .skipVinTooHigh => .fallbackQc3
  | .attempt =>
      match detectVin with
      -- the window of the detection was not reached in time
      | none => .fallbackQc3
      | some det =>
          if !qc35DetectWindow det then .fallbackQc3
          else
            match srcCapVin with
            | none => .fallbackQc3
            | some cap =>
                if !qc35CapWindow cap then .fallbackQc3
                else
                  match qc35PowerLimitW cap with
                  | some powerW => .authenticated powerW
                  | none => .fallbackQc3

end Ln8000
