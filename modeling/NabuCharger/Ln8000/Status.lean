import NabuCharger.Ln8000.Encoding

/-!
# `Ln8000.Status`: status snapshots and ADC samples

`Status` is what one pass over the status registers returns. `AdcChannel.decode` slices
the ten bits of a channel out of the byte pair at its address and scales them.
-/

set_option autoImplicit false

namespace Ln8000

open Effectful

/-- ADC channel. -/
inductive AdcChannel
  | vout
  | vin
  | vbat
  | vac
  | iin
  | dieTemp
  | tsBat
  | tsBus
  deriving DecidableEq, Repr

namespace AdcChannel

/-- Channel result register. The register after `VOUT` belongs to no channel. -/
def register : AdcChannel → RegAddr
  | .iin => Regs.adcFirstSts + 0
  | .vac => Regs.adcFirstSts + 1
  | .vin => Regs.adcFirstSts + 2
  | .vout => Regs.adcFirstSts + 3
  | .vbat => Regs.adcFirstSts + 5
  | .dieTemp => Regs.adcFirstSts + 6
  | .tsBat => Regs.adcFirstSts + 7
  | .tsBus => Regs.adcFirstSts + 8

/-- Distinct channels have distinct result registers. -/
theorem register_injective : Function.Injective register := by
  intro a b h
  revert h
  cases a <;> cases b <;> decide

/-- The 10-bit code of the channel in the byte pair at its register. -/
def rawCode (channel : AdcChannel) (raw : BitVec 16) : Int :=
  let low := raw.toNat % 256
  let high := raw.toNat / 256
  match channel with
  | .iin | .vbat => (high % 4 * 256 + low : Nat)
  | .vac | .dieTemp => (high % 16 * 64 + low / 4 : Nat)
  | .vin | .tsBat => (high % 64 * 16 + low / 16 : Nat)
  | .vout | .tsBus => (high * 4 + low / 64 : Nat)

/-- Converts a register pair into microvolts, microamps or tenths of a degree. -/
def decode (channel : AdcChannel) (raw : BitVec 16) : Int :=
  let code := channel.rawCode raw
  match channel with
  | .vin => code * 16000
  | .vout | .vbat => code * 5000
  | .vac => (code + 5) * 16000
  | .iin => code * 4890
  | .dieTemp => max (-250) (min (((935 - code) * 4350).tdiv 1000) 1600)
  | .tsBat | .tsBus => code * 2933

/-- A channel code has ten bits. -/
theorem rawCode_bounds (channel : AdcChannel) (raw : BitVec 16) :
    0 ≤ channel.rawCode raw ∧ channel.rawCode raw ≤ 1023 := by
  have hraw := raw.isLt
  cases channel <;> simp only [rawCode] <;> omega

end AdcChannel

/-- Snapshot of the device state. -/
structure Status where
  sysSts : Byte
  opMode : OpMode
  safetySts : Byte
  fault1Sts : Byte
  fault2Sts : Byte
  ldoSts : Byte
  deriving DecidableEq, Repr

namespace Status

/-- Whether there is a critical fault that requires intervention. -/
def hasCriticalFault (st : Status) : Bool :=
  decide (st.fault1Sts &&& (Regs.fault1Watchdog ||| Regs.fault1VbatOv ||| Regs.fault1VacOv) ≠ 0)
    || decide (st.safetySts &&& (Regs.safetyNtcShutdown ||| Regs.safetyTempMax) ≠ 0)

end Status

/-- One telemetry sample. -/
structure TelemetrySample where
  tsMs : Nat
  vbatUv : Nat
  vbusUv : Nat
  iinUa : Nat
  dieTempDc : Int
  opMode : OpMode
  inputPresent : Bool
  /-- Whether `vbatUv` is valid. -/
  vbatValid : Bool
  /-- Whether `dieTempDc` is valid. -/
  dieTempValid : Bool
  deriving DecidableEq, Repr

end Ln8000
