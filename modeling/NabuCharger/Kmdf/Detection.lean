import NabuCharger.Kmdf.Hvdcp
import NabuCharger.Logic.Fork

/-!
# `Kmdf.Detection`: the halves of a negotiation

A negotiation opens a transport, finds out what the adapter is, and raises it. The source has
these in one function. Here each is a program of its own, and `runNegotiate` is the three of
them in sequence (`runNegotiate_eq`). The first two send no pulse and request no level
(`findAdapter`).
-/

set_option autoImplicit false

namespace Kmdf

open Effectful Ln8000

/-- Opens the secondary transport, when an overlay exposes it. -/
def openUsbin (usbinId : Option Nat) : HvdcpM Bus :=
  match usbinId with
  | none => do
      Proc.modify fun st => { st with phase := .failed, transport := .none }
      Proc.fail .usbinUnavailable
  | some id => do
      let ok : Bool ← usbinOpen id
      if !ok then
        setPhase .failed
        Proc.fail .busOpenFailed
      else
        -- the byte order is found out once
        orFailed resolveEndianUsbin
        Proc.modify fun st => { st with transport := .usbinRh }
        pure .usbin

/-- Opens a transport: SUPERUSER first, the Usbin hub second. -/
def openBus (usbinId : Option Nat) : HvdcpM Bus := do
  Proc.modify fun st => { st with phase := .enable, transport := .none }
  let ok : Bool ← superuserOpen
  let granted : Bool ← if ok then spmi (.superuserGrant spmiPeriUsbin) else pure false
  if granted then
    Proc.modify fun st =>
      { st with transport := .superuser, endianKnown := true, bigEndian := true }
    pure .superuser
  -- without the grant the USBIN device is the only way
  else openUsbin usbinId

/-- Prepares the input and keeps the better of the results of the detection. The answer says
how the adapter is raised. -/
def detectAdapter (bus : Bus) : HvdcpM ApsdElevate := do
  clearUsbinSuspend bus
  let _ ← orFailed (clearApsdCcGate bus)
  Proc.discard (ensureIclFloor500ma bus)
  Proc.discard (ensureHvdcpVoltageGates bus)
  -- what the PMIC had found before, zero where it cannot be read
  let status ← Proc.unwrapOr (readReg bus Pmic.apsdStatus) 0
  let result ← Proc.unwrapOr (readReg bus Pmic.apsdResult) 0
  let qc ← Proc.unwrapOr (readReg bus Pmic.qcChangeStatus) 0
  let pre : ApsdBefore := { status, result, qc }
  setPhase .enable
  orFailed (enableHvdcp bus)
  sleepMs enableSettleMs
  -- a rerun would demote the Quick Charge class that is latched
  if pre.skipsRerun then
    Proc.modify fun st => { st with apsdStatus := pre.status, apsdResult := pre.result }
  else rerunApsd bus pre
  Proc.modify fun st =>
    { st with apsdResult := promoteQcCharger st.apsdResult st.apsdStatus }
  let st ← Proc.get
  pure (apsdElevatePath st.apsdResult (decide (pre.qc &&& Pmic.bitQcContinuous ≠ 0)))

/-- Raises the adapter. -/
def raiseAdapter (bus : Bus) (vbatUv : Nat) : ApsdElevate → HvdcpM Unit
  | .qc3Pulse => elevateQc3 bus vbatUv
  | .force9v => do
      let st ← Proc.get
      if st.apsdResult &&& Pmic.bitQc2 ≠ 0 then requestForce9v bus else elevateDcp bus vbatUv
  | .reject => do
      setPhase .failed
      Proc.fail .notQcAdapter

/-- What a negotiation does once the adapter is raised. -/
def finishNegotiation (bus : Bus) : HvdcpM Unit := do
  Proc.discard (sampleQcStatus bus)
  setPhase .done

/-- The negotiation as the parts that are specified one by one. -/
theorem negotiateOnBus_eq (bus : Bus) (vbatUv : Nat) :
    negotiateOnBus bus vbatUv = (do
      Proc.modify fun st => { st with pulseCnt := 0 }
      clearUsbinLatched bus
      let path ← detectAdapter bus
      raiseAdapter bus vbatUv path
      finishNegotiation bus) := by
  -- the two programs choose the path from the same state, so they raise alike
  have hraise : ∀ qc : Byte, (do
      let st ← Proc.get
      match apsdElevatePath st.apsdResult (decide (qc &&& Pmic.bitQcContinuous ≠ 0)) with
      | .qc3Pulse => elevateQc3 bus vbatUv
      | .force9v =>
          if st.apsdResult &&& Pmic.bitQc2 ≠ 0 then requestForce9v bus else elevateDcp bus vbatUv
      | .reject =>
          setPhase .failed
          Proc.fail .notQcAdapter
      Proc.discard (sampleQcStatus bus)
      setPhase .done : HvdcpM Unit) = (do
      let st ← Proc.get
      let path ← pure (apsdElevatePath st.apsdResult (decide (qc &&& Pmic.bitQcContinuous ≠ 0)))
      raiseAdapter bus vbatUv path
      finishNegotiation bus) := by
    intro qc
    funext st
    rw [Proc.bind_apply, Proc.bind_apply, Proc.get, Prog.bind, Prog.bind, Proc.andThen,
      Proc.andThen, Proc.pure_bind]
    cases apsdElevatePath st.apsdResult (decide (qc &&& Pmic.bitQcContinuous ≠ 0)) with
    | qc3Pulse => rfl
    | force9v =>
        have hget : (raiseAdapter bus vbatUv .force9v >>= fun _ => finishNegotiation bus) st =
            ((if st.apsdResult &&& Pmic.bitQc2 ≠ 0 then requestForce9v bus
              else elevateDcp bus vbatUv) >>= fun _ => finishNegotiation bus) st := rfl
        rw [hget]
        by_cases hqc2 : st.apsdResult &&& Pmic.bitQc2 ≠ 0
        · simp only [if_pos hqc2]
          rfl
        · simp only [if_neg hqc2]
          rfl
    | reject => rfl
  simp only [negotiateOnBus, detectAdapter, Proc.bind_assoc]
  refine Proc.bind_congr fun _ => ?_
  refine Proc.bind_congr fun _ => ?_
  refine Proc.bind_congr fun _ => ?_
  refine Proc.bind_congr fun _ => ?_
  refine Proc.bind_congr fun _ => ?_
  refine Proc.bind_congr fun _ => ?_
  refine Proc.bind_congr fun status => ?_
  refine Proc.bind_congr fun result => ?_
  refine Proc.bind_congr fun qc => ?_
  refine Proc.bind_congr fun _ => ?_
  refine Proc.bind_congr fun _ => ?_
  refine Proc.bind_congr fun _ => ?_
  -- up to here the two make the same calls; then one of them reruns the detection or skips it
  by_cases hskip : ApsdBefore.skipsRerun ⟨status, result, qc⟩ = true
  · rw [if_pos hskip, if_pos hskip]
    simp only [Proc.bind_assoc]
    exact Proc.bind_congr fun _ => Proc.bind_congr fun _ => hraise qc
  · rw [if_neg hskip, if_neg hskip]
    simp only [Proc.bind_assoc]
    exact Proc.bind_congr fun _ => Proc.bind_congr fun _ => hraise qc

/-- Over the input bus, the connection is opened first. -/
theorem negotiateUsbin_eq (usbinId : Option Nat) (vbatUv : Nat) :
    negotiateUsbin usbinId vbatUv
      = openUsbin usbinId >>= fun bus => negotiateOnBus bus vbatUv := by
  cases usbinId with
  | none => rfl
  | some id =>
      rw [openUsbin, Proc.bind_assoc]
      refine Proc.bind_congr fun (ok : Bool) => ?_
      cases ok with
      | false => rfl
      | true =>
          simp only [Bool.not_true, Bool.false_eq_true, if_false, Proc.bind_assoc]
          rfl

/-- A negotiation opens a transport, and negotiates over it. -/
theorem runNegotiate_eq (usbinId : Option Nat) (vbatUv : Nat) :
    runNegotiate usbinId vbatUv = openBus usbinId >>= fun bus => negotiateOnBus bus vbatUv := by
  -- the SUPERUSER bus with its grant, or the other one
  have hopen : ∀ granted : Bool, (if granted then do
        Proc.modify fun st =>
          { st with transport := .superuser, endianKnown := true, bigEndian := true }
        negotiateOnBus .superuser vbatUv
      else negotiateUsbin usbinId vbatUv : HvdcpM Unit) = (if granted then do
        Proc.modify fun st =>
          { st with transport := .superuser, endianKnown := true, bigEndian := true }
        pure .superuser
      else openUsbin usbinId : HvdcpM Bus) >>= fun bus => negotiateOnBus bus vbatUv := by
    intro granted
    cases granted with
    | true => rfl
    | false => exact negotiateUsbin_eq usbinId vbatUv
  simp only [runNegotiate, openBus, Proc.bind_assoc]
  refine Proc.bind_congr fun _ => Proc.bind_congr fun (ok : Bool) => ?_
  cases ok with
  | true =>
      simp only [if_true]
      exact Proc.bind_congr hopen
  | false => exact hopen false

/-- Opens a transport and finds out what is plugged in. -/
def findAdapter (usbinId : Option Nat) : HvdcpM (Bus × ApsdElevate) := do
  let bus ← openBus usbinId
  Proc.modify fun st => { st with pulseCnt := 0 }
  clearUsbinLatched bus
  let path ← detectAdapter bus
  pure (bus, path)

/-- Raises the adapter that was found, and ends the negotiation. -/
def raiseFound (vbatUv : Nat) (found : Bus × ApsdElevate) : HvdcpM Unit := do
  raiseAdapter found.1 vbatUv found.2
  finishNegotiation found.1

/-- A negotiation finds the adapter and then raises its voltage. -/
theorem runNegotiate_eq_raiseFound (usbinId : Option Nat) (vbatUv : Nat) :
    runNegotiate usbinId vbatUv = findAdapter usbinId >>= raiseFound vbatUv := by
  simp only [runNegotiate_eq, negotiateOnBus_eq, findAdapter, Proc.bind_assoc]
  rfl

end Kmdf
