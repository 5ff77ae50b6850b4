import NabuCharger.Ln8000.Error
import NabuCharger.Ln8000.Regs

/-!
# `Ln8000.Encoding`: modes, thresholds and register codes

The pure half of the pump driver: which mode a bus voltage admits (`chargeMode`), where
the 2:1 transfer band lies above a pack, whether a battery sample can be trusted, and how
currents and voltages become register codes.

Voltages the code holds as `u32` are natural numbers, and the arithmetic that saturates in
the code saturates here. `Vin` is an `i32` there and an integer here.

`encodeIinLimit` stores a current as a count of 50 mA steps in seven bits.
`decode_encodeIinLimit` is what a write followed by a read makes of it: rounded down to
the grid and capped at the field. `chargeMode_eq_bypass_iff` and
`chargeMode_eq_switching_iff` describe the mode choice by voltage intervals.
-/

set_option autoImplicit false

namespace Ln8000

open Effectful

/-! ### Operating modes -/

/-- Operating mode of the charge pump. -/
inductive OpMode
  /-- State is undefined. -/
  | unknown
  /-- Idle: switches off. -/
  | standby
  /-- 1:1 mode, the input goes straight to the battery. -/
  | bypass
  /-- 2:1 mode, step-down converter. -/
  | switching
  deriving DecidableEq, Repr

namespace OpMode

/-- Mode code. -/
def code : OpMode → Byte
  | .unknown => 0x0
  | .standby => 0x1
  | .bypass => 0x2
  | .switching => 0x3

/-- Parses the mode from `SYS_STS`. -/
def fromSysSts (sysSts : Byte) : OpMode :=
  if sysSts &&& (Regs.sysStsShutdown ||| Regs.sysStsStandby) ≠ 0 then .standby
  else if sysSts &&& Regs.sysStsSwitchingEnabled ≠ 0 then .switching
  else if sysSts &&& Regs.sysStsBypassEnabled ≠ 0 then .bypass
  else .unknown

/-- The `SYS_CTRL` bits that request this mode. -/
def sysCtrlBits : OpMode → Except PumpError Byte
  | .standby => .ok Regs.sysCtrlStandbyEn
  | .bypass => .ok Regs.sysCtrlEn1to1
  | .switching => .ok 0
  | .unknown => .error (.outOfRange "op_mode" 0)

/-- Mask of the `SYS_CTRL` bits a mode controls. -/
def sysCtrlMask : Byte := Regs.sysCtrlStandbyEn ||| Regs.sysCtrlEn1to1

/-- 2:1 or 1:1: the modes in which the pump carries current. -/
def conducting : OpMode → Bool
  | .switching | .bypass => true
  | .unknown | .standby => false

end OpMode

/-! ### The transfer band -/

/-- The lowest input of the 2:1 mode. -/
def switchingMinVinUv : Nat := 8000000

/-- Bus at or above this is no longer a 5 V input. -/
def elevatedMinVinUv : Nat := 6000000

/-- Headroom above `2 * Vbat` required to enter 2:1. -/
def switchingHeadroomUv : Nat := 250000

/-- Minimum Vin that can feed 2:1 at `vbatUv`. -/
def minVinForSwitchingUv (vbatUv : Nat) : Nat :=
  let packGate := satAdd 32 (satMul 32 vbatUv 2) switchingHeadroomUv
  if packGate < elevatedMinVinUv then elevatedMinVinUv else packGate

/-- The window ends this far above twice the cell. -/
def switchingWindowTopUv : Nat := 400000
/-- It begins this far above twice the cell. -/
def switchingWindowFloorUv : Nat := 200000
/-- The bus is steered to this far above twice the cell. -/
def switchingWindowTargetUv : Nat := 300000

/-- Top of the transfer band. -/
def windowTopUv (vbatUv : Nat) : Nat :=
  satAdd 32 (satMul 32 vbatUv 2) switchingWindowTopUv

/-- Bottom of the transfer band. -/
def windowFloorUv (vbatUv : Nat) : Nat :=
  satAdd 32 (satMul 32 vbatUv 2) switchingWindowFloorUv

/-- Bus target inside the band. -/
def windowTargetUv (vbatUv : Nat) : Nat :=
  satAdd 32 (satMul 32 vbatUv 2) switchingWindowTargetUv

section
variable {vbatUv : Nat}

/-- An offset above twice a cell voltage, which no real cell saturates. -/
theorem satAdd_double {offset : Nat} (h : 2 * vbatUv + offset ≤ wordMax 32) :
    satAdd 32 (satMul 32 vbatUv 2) offset = 2 * vbatUv + offset := by
  simp only [satAdd, satMul]
  omega

/-- No cell is so full that the top of the window saturates. -/
theorem windowTopUv_eq (h : vbatUv ≤ 10000000) : windowTopUv vbatUv = 2 * vbatUv + 400000 :=
  satAdd_double (by simp only [wordMax, switchingWindowTopUv]; omega)

/-- Neither does its floor. -/
theorem windowFloorUv_eq (h : vbatUv ≤ 10000000) : windowFloorUv vbatUv = 2 * vbatUv + 200000 :=
  satAdd_double (by simp only [wordMax, switchingWindowFloorUv]; omega)

/-- Neither does its target. -/
theorem windowTargetUv_eq (h : vbatUv ≤ 10000000) : windowTargetUv vbatUv = 2 * vbatUv + 300000 :=
  satAdd_double (by simp only [wordMax, switchingWindowTargetUv]; omega)

/-- The admission gate of 2:1, with the elevated floor under it. -/
theorem minVinForSwitchingUv_eq (h : vbatUv ≤ 10000000) :
    minVinForSwitchingUv vbatUv = max (2 * vbatUv + 250000) elevatedMinVinUv := by
  have hgate : satAdd 32 (satMul 32 vbatUv 2) switchingHeadroomUv = 2 * vbatUv + 250000 :=
    satAdd_double (by simp only [wordMax, switchingHeadroomUv]; omega)
  simp only [minVinForSwitchingUv, hgate]
  split <;> omega

end

/-- Whether `vinUv` is inside the transfer band. -/
def vinInSwitchingWindow (vinUv : Int) (vbatUv : Nat) : Bool :=
  if vinUv ≤ 0 ∨ vbatUv = 0 then false
  else decide (windowFloorUv vbatUv ≤ vinUv.natAbs ∧ vinUv.natAbs ≤ windowTopUv vbatUv)

/-- Vin for unsigned comparisons, zero when absent or negative. -/
def nonNegativeUv (vinUv : Int) : Nat :=
  if vinUv > 0 then vinUv.natAbs else 0

/-- Below this current a transfer is of no use. -/
def iinUsefulUa : Nat := 300000

/-- Whether a mode-3 pump carries useful power. -/
def transferIsUseful (maxIinUa : Nat) : Bool := decide (maxIinUa > iinUsefulUa)

/-- Whether the tick may move the bus with a pulse batch. -/
def shouldWalkWindow (dead transferring belowBand : Bool) : Bool :=
  dead || !transferring || belowBand

/-- Whether a tick that found no admissible mode may stop a running charge. -/
def stopRunningCharge (admissible transferring : Bool) : Bool :=
  !admissible && !transferring

/-- Minimum Vin to attempt any charge mode. -/
def chargeMinVinUv : Nat := 4200000

/-! ### Targets and taper of the pack -/

/-- Float voltage of the pack. -/
def nabuVbatFloatUv : Nat := 4470000
/-- A soft float stays this far above the cell. -/
def vbatFloatSoftHeadroomUv : Nat := 80000
/-- No soft float is higher. -/
def vbatFloatSoftMaxUv : Nat := 4500000
/-- The taper begins this far below the float voltage. -/
def vbatTaperMarginUv : Nat := 100000

/-- Tapered input current near float. -/
def vbatTaperIinUa : Nat := 1200000

/-- Soft raise of `V_FLOAT` near or above the profile float. -/
def softFloatForVbat (profileFloatUv vbatUv : Nat) : Nat :=
  let withHeadroom := satAdd 32 vbatUv vbatFloatSoftHeadroomUv
  let raised := if withHeadroom > profileFloatUv then withHeadroom else profileFloatUv
  if raised > vbatFloatSoftMaxUv then vbatFloatSoftMaxUv else raised

/-- Two readings this close are the same node. -/
def vbatVinHalfSlackUv : Nat := 80000

/-- How much Vin must change for the reset budget to count as a new input. -/
def porVinToleranceUv : Nat := 200000

/-- Whether `Vin` is the converter's own reflection of `2 * Vbat`. -/
def vinIsDoubledVbat (vbatUv vinUv : Nat) : Bool :=
  if vbatUv = 0 then false
  else
    let half := vinUv / 2
    let lo := half - vbatVinHalfSlackUv
    let hi := satAdd 32 half vbatVinHalfSlackUv
    decide (lo ≤ vbatUv ∧ vbatUv ≤ hi)

/-- Whether VBAT tracks `Vin / 2` and is not a pack reading. -/
def vbatTracksConverterRail (vbatUv vinUv : Nat) : Bool :=
  if vinUv < switchingMinVinUv then false else vinIsDoubledVbat vbatUv vinUv

/-- Whether a VBAT sample is fit for current decisions. -/
def vbatReadingUsable (readOk : Bool) (vbatUv : Nat) : Bool := readOk && decide (vbatUv > 0)

/-- Whether Vbat is in the taper band relative to float. -/
def vbatNearFloatWithVin (vbatUv floatUv : Nat) (vbatOvLatched : Bool) (vinUv : Nat) :
    Bool :=
  if vbatOvLatched then true
  else if vinUv ≠ 0 ∧ vbatTracksConverterRail vbatUv vinUv then false
  else decide (floatUv - vbatTaperMarginUv ≤ vbatUv)

/-! ### The mode choice -/

/-- Picks the charge-pump mode from measured Vin and Vbat. -/
def chargeMode (vinUv : Int) (vbatUv : Nat) : Option OpMode :=
  let headroomOk := decide (minVinForSwitchingUv vbatUv ≤ nonNegativeUv vinUv)
  if headroomOk then some .switching
  else if (chargeMinVinUv : Int) ≤ vinUv ∧ vinUv < (elevatedMinVinUv : Int) then some .bypass
  else none

/-- Whether 1:1 is allowed at this input. -/
def bypassAllowedByVin (vinUv : Int) (vbatUv : Nat) : Bool :=
  decide (chargeMode vinUv vbatUv = some .bypass)

/-- The admission gate of 2:1 is never below the elevated floor. -/
theorem elevatedMinVinUv_le_minVinForSwitchingUv (vbatUv : Nat) :
    elevatedMinVinUv ≤ minVinForSwitchingUv vbatUv := by
  rw [minVinForSwitchingUv]
  split
  · exact Nat.le_refl _
  · next h => exact Nat.le_of_not_lt h

/-- A negative reading counts as zero. -/
theorem nonNegativeUv_eq_toNat (vinUv : Int) : nonNegativeUv vinUv = vinUv.toNat := by
  rw [nonNegativeUv]
  split <;> omega

/-- 2:1 is chosen from the admission gate of the pack on. -/
theorem chargeMode_eq_switching_iff (vinUv : Int) (vbatUv : Nat) :
    chargeMode vinUv vbatUv = some .switching ↔
      (minVinForSwitchingUv vbatUv : Int) ≤ vinUv := by
  have hfloor := elevatedMinVinUv_le_minVinForSwitchingUv vbatUv
  have helevated : elevatedMinVinUv = 6000000 := rfl
  simp only [chargeMode, nonNegativeUv_eq_toNat, decide_eq_true_eq]
  split
  · next h => simp only [true_iff]; omega
  · next h =>
      have hne : ¬((minVinForSwitchingUv vbatUv : Int) ≤ vinUv) := by omega
      split
      · exact iff_of_false nofun hne
      · exact iff_of_false nofun hne

/-- 1:1 is chosen in the 5 V window, whatever the pack. -/
theorem chargeMode_eq_bypass_iff (vinUv : Int) (vbatUv : Nat) :
    chargeMode vinUv vbatUv = some .bypass ↔
      (chargeMinVinUv : Int) ≤ vinUv ∧ vinUv < (elevatedMinVinUv : Int) := by
  have hfloor := elevatedMinVinUv_le_minVinForSwitchingUv vbatUv
  simp only [chargeMode, nonNegativeUv_eq_toNat, decide_eq_true_eq]
  split
  · next h =>
      have hne : ¬((chargeMinVinUv : Int) ≤ vinUv ∧ vinUv < (elevatedMinVinUv : Int)) := by
        omega
      simp [hne]
  · split <;> simp_all

/-- Only the two conducting modes are ever chosen. -/
theorem chargeMode_conducting {vinUv : Int} {vbatUv : Nat} {mode : OpMode}
    (h : chargeMode vinUv vbatUv = some mode) : mode = .switching ∨ mode = .bypass := by
  rw [chargeMode] at h
  split at h
  · exact Or.inl (Option.some.inj h).symm
  · split at h
    · exact Or.inr (Option.some.inj h).symm
    · cases h

/-! ### Timers and the ADC -/

/-- Watchdog timer period. -/
inductive WatchdogPeriod
  | sec5
  | sec10
  | sec20
  | sec40
  deriving DecidableEq, Repr

/-- Period code for bits 5:6 of `TIMER_CTRL`. -/
def WatchdogPeriod.code : WatchdogPeriod → Byte
  | .sec5 => 0x0
  | .sec10 => 0x1
  | .sec20 => 0x2
  | .sec40 => 0x3

/-- ADC hibernation entry delay. -/
inductive AdcHibernateDelay
  | ms500
  | sec1
  | sec2
  | sec4
  deriving DecidableEq, Repr

/-- Code for bits 3:4 of `ADC_CTRL`. -/
def AdcHibernateDelay.code : AdcHibernateDelay → Byte
  | .ms500 => 0x0
  | .sec1 => 0x1
  | .sec2 => 0x2
  | .sec4 => 0x3

/-- ADC operating mode. -/
inductive AdcMode
  | autoHibernate
  | autoShutdown
  | shutdown
  | hibernate
  | normal
  deriving DecidableEq, Repr

/-- Code for bits 5:7 of `ADC_CTRL`. -/
def AdcMode.code : AdcMode → Byte
  | .autoHibernate => 0x0
  | .autoShutdown => 0x1
  | .shutdown => 0x2
  | .hibernate => 0x4
  | .normal => 0x6

/-! ### Register codes -/

/-- Upper bound of the input current code. -/
def iinCodeMax : Byte := 0x7F

/-- Encodes the input current limit as a count of 50 mA steps. -/
def encodeIinLimit (iinUa : Nat) : Except PumpError Byte :=
  if iinUa < Regs.iinMinUa then .error (.outOfRange "iin_limit_ua" iinUa)
  else
    let code := iinUa / Regs.iinStepUa
    .ok (if code > iinCodeMax.toNat then iinCodeMax else BitVec.ofNat 8 code)

/-- Decodes the input current limit applied by the device. -/
def decodeIinLimit (raw : Byte) : Nat :=
  let value := satMul 32 (raw &&& iinCodeMax).toNat Regs.iinStepUa
  if value < Regs.iinMinUa then Regs.iinMinUa else value

/-- Encodes the charge target voltage. -/
def encodeVbatFloat (vbatUv : Nat) : Byte :=
  if vbatUv ≤ Regs.vbatFloatMinUv then 0x00
  else if Regs.vbatFloatMaxUv ≤ vbatUv then 0xFF
  else BitVec.ofNat 8 ((vbatUv - Regs.vbatFloatMinUv) / Regs.vbatFloatStepUv)

/-- Decodes the charge voltage from the code. -/
def decodeVbatFloat (raw : Byte) : Nat :=
  satAdd 32 Regs.vbatFloatMinUv (satMul 32 raw.toNat Regs.vbatFloatStepUv)

/-- Encodes the input overvoltage threshold. -/
def encodeVacOvp (ovpUv : Nat) : Byte :=
  if ovpUv ≤ 6500000 then Regs.vacOvp6v5
  else if ovpUv ≤ 11000000 then Regs.vacOvp11v
  else if ovpUv ≤ 12000000 then Regs.vacOvp12v
  else Regs.vacOvp13v

/-- Encodes the NTC alarm threshold: low byte, then the two high bits. -/
def encodeNtcAlarm (code : Nat) : Byte × Byte :=
  (BitVec.ofNat 8 (code % 256), BitVec.ofNat 8 (code / 256 % 4))

/-- The current a limit becomes in the chip: rounded down to the grid of the field and
capped at its top. -/
def iinOnGrid (iinUa : Nat) : Nat :=
  min (iinUa / Regs.iinStepUa) iinCodeMax.toNat * Regs.iinStepUa

/-- The encoder accepts exactly the currents from the minimum on. -/
theorem encodeIinLimit_isOk_iff (iinUa : Nat) :
    (∃ code, encodeIinLimit iinUa = .ok code) ↔ Regs.iinMinUa ≤ iinUa := by
  rw [encodeIinLimit]
  split
  · next h => simp only [reduceCtorEq, exists_false, false_iff]; omega
  · next h => simp only [Except.ok.injEq, exists_eq', true_iff]; omega

/-- The seven bits of the field as a number. -/
theorem toNat_and_iinCodeMax_le (raw : Byte) : (raw &&& iinCodeMax).toNat ≤ 127 := by
  rw [BitVec.toNat_and]
  exact Nat.and_le_right

/-- The highest current the field holds. -/
def iinTopUa : Nat := iinCodeMax.toNat * Regs.iinStepUa

/-- A read of the limit lies between the minimum and the top of the field. -/
theorem iinMinUa_le_decodeIinLimit (raw : Byte) : Regs.iinMinUa ≤ decodeIinLimit raw := by
  simp only [decodeIinLimit]
  split <;> omega

/-- No code stands for more than the top of the grid. -/
theorem decodeIinLimit_le_iinTopUa (raw : Byte) : decodeIinLimit raw ≤ iinTopUa := by
  have hsteps : satMul 32 (raw &&& iinCodeMax).toNat Regs.iinStepUa ≤ iinTopUa :=
    (min_le_left _ _).trans (Nat.mul_le_mul_right _ (toNat_and_iinCodeMax_le raw))
  have hmin : Regs.iinMinUa ≤ iinTopUa := by decide
  simp only [decodeIinLimit]
  split <;> omega

/-- Writing a limit and reading it back gives the limit on the grid. -/
theorem decode_encodeIinLimit {iinUa : Nat} {code raw : Byte}
    (h : encodeIinLimit iinUa = .ok code) (hraw : raw &&& iinCodeMax = code &&& iinCodeMax) :
    decodeIinLimit raw = iinOnGrid iinUa := by
  have hmin : Regs.iinMinUa = 500000 := rfl
  have hstep : Regs.iinStepUa = 50000 := rfl
  have hmax : iinCodeMax.toNat = 127 := rfl
  have hword : wordMax 32 = 4294967295 := rfl
  rw [encodeIinLimit] at h
  -- below the grid there is no code; within it the value of the code is the request rounded down
  split at h
  · cases h
  next hlow =>
    have hcode : (code &&& iinCodeMax).toNat = min (iinUa / Regs.iinStepUa) 127 := by
      rw [← Except.ok.inj h]
      split
      · next hbig =>
          rw [hmax] at hbig
          have htop : (iinCodeMax &&& iinCodeMax).toNat = 127 := rfl
          omega
      · next hsmall =>
          rw [hmax, not_lt] at hsmall
          rw [BitVec.toNat_and, BitVec.toNat_ofNat, hmax, min_eq_left hsmall,
            Nat.mod_eq_of_lt (by omega), show (127 : Nat) = 2 ^ 7 - 1 from rfl,
            Nat.and_two_pow_sub_one_eq_mod, Nat.mod_eq_of_lt (by omega)]
    simp only [decodeIinLimit, iinOnGrid, hraw, hcode, satMul, hmax, hword, hmin, hstep]
    split <;> omega

end Ln8000
