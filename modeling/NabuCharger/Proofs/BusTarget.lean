import NabuCharger.Kmdf.Hvdcp
import NabuCharger.Ln8000.BatteryPolicy
import NabuCharger.Logic.Grid

/-!
# `Proofs.BusTarget`: the bus voltage a QC3 adapter is raised to

The target of the raise is the centre of the transfer band, but not below 6 V. The pulses are
planned from the 5 V the adapter starts at: `pulsesTowardTarget` rounds up on the grid of their
200 mV steps (`pulseGrid`), so the estimate lands on the target or less than a step above it.

`target_usable` holds for every cell voltage the driver takes from the fuel gauge.
-/

set_option autoImplicit false

namespace Kmdf

open Effectful Ln8000

/-- The voltages the pulses can reach. -/
def pulseGrid : Grid where
  origin := micro5vUv
  step := qc3StepUv
  first := 0
  last := maxPulseCnt
  step_pos := by decide
  first_le_last := by decide

/-- The estimate is the value of the pulse count. -/
theorem estimatedVbusUv_eq {pulses : Nat} (h : pulses ≤ maxPulseCnt) :
    estimatedVbusUv pulses = pulseGrid.value pulses := by
  have hvalue : pulseGrid.value pulses = 5000000 + pulses * 200000 := rfl
  rw [maxPulseCnt] at h
  rw [hvalue]
  simp only [estimatedVbusUv, micro5vUv, qc3StepUv, satAdd, satMul, wordMax]
  omega

/-- The plan is the target's code, rounded up. -/
theorem pulsesTowardTarget_eq (vbatUv : Nat) :
    pulsesTowardTarget vbatUv = pulseGrid.raise (targetVbusUv vbatUv) := by
  have hraise : pulseGrid.raise (targetVbusUv vbatUv) =
      min maxPulseCnt ((targetVbusUv vbatUv - micro5vUv) ⌈/⌉ qc3StepUv) := Nat.zero_max _
  have hstep : 1 ≤ qc3StepUv := by decide
  rw [hraise, Nat.ceilDiv_eq_add_pred_div, Nat.add_sub_assoc hstep]
  by_cases hlow : targetVbusUv vbatUv ≤ micro5vUv
  · rw [pulsesTowardTarget, if_pos hlow]
    rw [Nat.sub_eq_zero_of_le hlow]
    rfl
  · rw [pulsesTowardTarget, if_neg hlow, Nat.min_comm]

section
variable {vbatUv : Nat}

/-- The voltages of a cell that are believed. -/
theorem fgVbattPlausible_iff :
    fgVbattPlausible vbatUv = true ↔ 2500000 ≤ vbatUv ∧ vbatUv ≤ 4600000 := by
  rw [fgVbattPlausible, Bool.and_eq_true, decide_eq_true_iff, decide_eq_true_iff]
  rfl

/-- Over the plausible cells, the centre of the band moves with the cell and the ceiling is
never met. -/
theorem targetVbusUv_eq (h : fgVbattPlausible vbatUv = true) :
    targetVbusUv vbatUv = max (2 * vbatUv + 300000) pumpVinTargetAbsMinUv := by
  obtain ⟨hmin, hmax⟩ := fgVbattPlausible_iff.1 h
  have hcentre : windowTargetUv vbatUv = 2 * vbatUv + 300000 := windowTargetUv_eq (by omega)
  rw [targetVbusUv, if_neg (by omega)]
  simp only [hcentre, pumpVinTargetAbsMinUv, pumpVinTargetCeilUv]
  by_cases hlow : 2 * vbatUv + 300000 < 6000000
  · rw [if_pos hlow, if_neg (by decide)]
    omega
  · rw [if_neg hlow, if_neg (by omega)]
    omega

/-- For such a cell the floor does not saturate. -/
theorem hvdcpWindowFloorUv_eq (h : fgVbattPlausible vbatUv = true) :
    hvdcpWindowFloorUv vbatUv = max (2 * vbatUv + 200000) pumpVinTargetAbsMinUv := by
  obtain ⟨hmin, hmax⟩ := fgVbattPlausible_iff.1 h
  have hfloor : windowFloorUv vbatUv = 2 * vbatUv + 200000 := windowFloorUv_eq (by omega)
  have hword : asI32 (2 * vbatUv + 200000) = ((2 * vbatUv + 200000 : Nat) : Int) :=
    asI32_of_lt (by omega)
  have hmin6v : pumpVinTargetAbsMinUv = 6000000 := rfl
  rw [hvdcpWindowFloorUv, if_neg (by omega), hfloor, hword]
  by_cases hlow : 2 * vbatUv + 200000 < pumpVinTargetAbsMinUv
  · rw [if_pos hlow]
    omega
  · rw [if_neg hlow]
    omega

/-- The target of a plausible cell admits 2:1, lies in the band, and the planned pulses reach
it. -/
theorem target_usable (h : fgVbattPlausible vbatUv = true) :
    chargeMode (targetVbusUv vbatUv) vbatUv = some .switching ∧
      hvdcpWindowFloorUv vbatUv ≤ targetVbusUv vbatUv ∧
      targetVbusUv vbatUv ≤ max (windowTopUv vbatUv) 6000000 ∧
      pulsesTowardTarget vbatUv ≤ 23 ∧
      targetVbusUv vbatUv ≤ estimatedVbusUv (pulsesTowardTarget vbatUv) ∧
      estimatedVbusUv (pulsesTowardTarget vbatUv) < targetVbusUv vbatUv + 200000 := by
  have htarget := targetVbusUv_eq h
  have hfloor := hvdcpWindowFloorUv_eq h
  obtain ⟨hmin, hmax⟩ := fgVbattPlausible_iff.1 h
  have hgate : minVinForSwitchingUv vbatUv = max (2 * vbatUv + 250000) elevatedMinVinUv :=
    minVinForSwitchingUv_eq (by omega)
  have htop : windowTopUv vbatUv = 2 * vbatUv + 400000 := windowTopUv_eq (by omega)
  -- everything in microvolts, so that the six parts are linear
  simp only [pumpVinTargetAbsMinUv] at htarget hfloor
  simp only [elevatedMinVinUv] at hgate
  have hbottomUv : pulseGrid.bottom = 5000000 := rfl
  have htopUv : pulseGrid.top = 9600000 := rfl
  -- the target is within the grid of 200 mV steps, so the counter reaches it
  have hpulses : pulsesTowardTarget vbatUv ≤ maxPulseCnt := by
    rw [pulsesTowardTarget_eq]
    exact (pulseGrid.raise_valid _).2
  refine ⟨?_, ?_, ?_, hpulses, ?_, ?_⟩
  · rw [chargeMode_eq_switching_iff]
    omega
  · omega
  · rw [htarget, htop]
    exact max_le_max (by omega) le_rfl
  · rw [estimatedVbusUv_eq hpulses, pulsesTowardTarget_eq]
    exact Grid.le_value_raise (by omega)
  · rw [estimatedVbusUv_eq hpulses, pulsesTowardTarget_eq]
    exact Grid.value_raise_lt (by omega)

end

/-- The target for a full cell. -/
theorem target_usable_full :
    chargeMode (targetVbusUv 4600000) 4600000 = some .switching ∧
      hvdcpWindowFloorUv 4600000 ≤ targetVbusUv 4600000 ∧
      targetVbusUv 4600000 ≤ max (windowTopUv 4600000) 6000000 ∧
      pulsesTowardTarget 4600000 ≤ 23 ∧
      targetVbusUv 4600000 ≤ estimatedVbusUv (pulsesTowardTarget 4600000) ∧
      estimatedVbusUv (pulsesTowardTarget 4600000) < targetVbusUv 4600000 + 200000 :=
  target_usable (by decide)

end Kmdf
