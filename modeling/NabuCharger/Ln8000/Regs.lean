import NabuCharger.Logic.Word

/-!
# `Ln8000.Regs`: the register map of the chip

Addresses, bit masks and numeric constants of the LN8000, under the names the driver gives
them.
-/

set_option autoImplicit false

namespace Ln8000

open Effectful

/-- Register address. -/
abbrev RegAddr : Type := Byte

namespace Regs

/-! ### Status registers -/

/-- Device identifier. -/
def deviceId : RegAddr := 0x00
/-- What it reads as. -/
def deviceIdValue : Byte := 0x42
/-- Mode of the chip and its active loops. -/
def sysSts : RegAddr := 0x03
/-- State of the protections. -/
def safetySts : RegAddr := 0x04
/-- First group of faults. -/
def fault1Sts : RegAddr := 0x05
/-- Second group of faults. -/
def fault2Sts : RegAddr := 0x06
/-- State of the regulator and of the charge. -/
def ldoSts : RegAddr := 0x08
/-- First result of the converter. The others follow. -/
def adcFirstSts : RegAddr := 0x09

/-! ### Control registers -/

/-- Input current limit. -/
def iinCtrl : RegAddr := 0x1B
/-- Regulation loops. -/
def regulationCtrl : RegAddr := 0x1C
/-- The requested mode. -/
def sysCtrl : RegAddr := 0x1E
/-- Surge protection, and the threshold of the input. -/
def glitchCtrl : RegAddr := 0x20
/-- Masks of the fault detectors. -/
def faultCtrl : RegAddr := 0x21
/-- Threshold of the thermistor. -/
def ntcCtrl : RegAddr := 0x22
/-- Mode of the converter. -/
def adcCtrl : RegAddr := 0x23
/-- Settings of the converter. -/
def adcCfg : RegAddr := 0x24
/-- What the chip recovers from by itself. -/
def recoveryCtrl : RegAddr := 0x25
/-- Watchdog, and the pause of the converter. -/
def timerCtrl : RegAddr := 0x26
/-- Thresholds of the loops. -/
def thresholdCtrl : RegAddr := 0x27
/-- Float voltage. -/
def vFloatCtrl : RegAddr := 0x28
/-- The flag of the initialisation. -/
def chargeCtrl : RegAddr := 0x29
/-- Unlocks the service registers. -/
def lionCtrl : RegAddr := 0x30
/-- Operations of the built-in controller, the soft reset among them. -/
def bcOp2 : RegAddr := 0x42

/-- Value that unlocks the service registers. -/
def lionCtrlUnlock : Byte := 0xC6

/-! ### `TIMER_CTRL` and `FAULT_CTRL` bits -/

/-- While this bit is set, conversions do not rewrite the ADC results. -/
def timerCtrlPauseAdc : Byte := bit 1

/-- Pulse bit that clears a latched fault. -/
def timerCtrlClearLatch : Byte := bit 2

/-- Masks the over-voltage of `VIN`. -/
def faultCtrlDisableVinOv : Byte := bit 2
/-- Masks the under-voltage of `VAC`. -/
def faultCtrlDisableVacUv : Byte := bit 3
/-- Masks the over-voltage of `VAC`. -/
def faultCtrlDisableVacOv : Byte := bit 4
/-- Masks the over-voltage of the battery. -/
def faultCtrlDisableVbatOv : Byte := bit 5

/-- Mask used before a 5 V bypass. -/
def faultCtrlMask5vBypass : Byte :=
  faultCtrlDisableVinOv ||| faultCtrlDisableVacUv ||| faultCtrlDisableVacOv |||
    faultCtrlDisableVbatOv

/-! ### `SYS_STS` and `SYS_CTRL` bits -/

/-- The chip is in 1:1 mode. -/
def sysStsBypassEnabled : Byte := bit 3
/-- The chip is in 2:1 mode. -/
def sysStsSwitchingEnabled : Byte := bit 2
/-- The chip is in standby. -/
def sysStsStandby : Byte := bit 1
/-- The chip is off. -/
def sysStsShutdown : Byte := bit 0

/-- The bit that requests standby. -/
def sysCtrlStandbyEn : Byte := bit 3

/-- The bit that enables 1:1 mode. -/
def sysCtrlEn1to1 : Byte := bit 0

/-! ### Fault bits -/

/-- The die has reached its highest temperature. -/
def safetyTempMax : Byte := bit 6
/-- The thermistor has stopped the chip. -/
def safetyNtcShutdown : Byte := bit 3

/-- The watchdog has expired. -/
def fault1Watchdog : Byte := bit 7
/-- Over-voltage of the battery. -/
def fault1VbatOv : Byte := bit 6
/-- The supply is unplugged. -/
def fault1VacUnplug : Byte := bit 4
/-- Over-voltage of `VAC`. -/
def fault1VacOv : Byte := bit 3

/-- Group flag of the voltage faults in `FAULT1`. -/
def fault1VfaultsMask : Byte := 0x7F

/-! ### Numeric constants -/

/-- The lowest float voltage of the grid. -/
def vbatFloatMinUv : Nat := 3725000
/-- The highest float voltage of the grid. -/
def vbatFloatMaxUv : Nat := 5000000
/-- Step of the float voltage. -/
def vbatFloatStepUv : Nat := 5000

/-- The lowest input current of the grid. -/
def iinMinUa : Nat := 500000
/-- Step of the input current. -/
def iinStepUa : Nat := 50000
/-- The highest input current of the grid. -/
def iinMaxUa : Nat := iinStepUa * 0x7F

/-- Protection from 6.5 V on. -/
def vacOvp6v5 : Byte := 0x0
/-- Protection from 11 V on. -/
def vacOvp11v : Byte := 0x1
/-- Protection from 12 V on. -/
def vacOvp12v : Byte := 0x2
/-- Protection from 13 V on. -/
def vacOvp13v : Byte := 0x3

/-- Setting of the thermistor's shutdown. -/
def ntcShutdownCfg : Byte := 2
/-- Code of the thermistor's alarm. -/
def ntcAlarmDefault : Nat := 226
/-- Thresholds of the loops as they are configured. -/
def thresholdCtrlDefault : Byte := 0x0E

end Regs

end Ln8000
