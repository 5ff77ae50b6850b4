import NabuCharger.Ln8000.Pump

/-!
# `Ln8000.Chip`: an executable chip

The register model of the repository's mock bus, as an environment that runs a pump program:
a file of registers in which a write of `SYS_CTRL` changes `SYS_STS` the way the chip does,
and a reset returns it to standby. It can refuse every mode, and writes of chosen registers
can fail. Statements about every bus do not use it. It is there for the concrete runs.
-/

set_option autoImplicit false

namespace Ln8000

open Effectful

/-- A chip on the bus. -/
structure Chip where
  regs : List (RegAddr × Byte)
  /-- Registers whose writes fail. -/
  brokenWrites : List RegAddr
  /-- `SYS_STS` does not follow `SYS_CTRL`. -/
  refuses : Bool

namespace Chip

/-- Value of a register, zero when it was never set. -/
def reg (chip : Chip) (addr : RegAddr) : Byte :=
  match chip.regs.find? fun slot => slot.1 == addr with
  | some slot => slot.2
  | none => 0

/-- Sets a register, whatever it was. -/
def setReg (chip : Chip) (addr : RegAddr) (value : Byte) : Chip :=
  { chip with regs := (addr, value) :: chip.regs.filter fun slot => slot.1 != addr }

/-- `SYS_STS` after a write of `SYS_CTRL`. -/
def sysStsOf (sysCtrl : Byte) : Byte :=
  if sysCtrl &&& Regs.sysCtrlStandbyEn ≠ 0 then Regs.sysStsStandby
  else if sysCtrl &&& Regs.sysCtrlEn1to1 ≠ 0 then Regs.sysStsBypassEnabled
  else Regs.sysStsSwitchingEnabled

/-- A write that reaches the chip. -/
def write (chip : Chip) (addr : RegAddr) (value : Byte) : Chip :=
  let written := chip.setReg addr value
  if addr = Regs.sysCtrl then
    if chip.refuses then written else written.setReg Regs.sysSts (sysStsOf value)
  else if addr = Regs.bcOp2 ∧ value &&& bit 0 ≠ 0 then
    (written.setReg Regs.fault1Sts 0).setReg Regs.sysSts Regs.sysStsStandby
  else written

/-- What the chip answers. -/
def answer (chip : Chip) : (o : BusOp) → BusEffect.Resp o × Chip
  | .read addr => (.ok (chip.reg addr), chip)
  | .write addr value =>
      if chip.brokenWrites.contains addr then
        (.error { kind := .protocol, code := 0, detail := "injected write fault" }, chip)
      else (.ok (), chip.write addr value)
  | .reset => (.ok (), chip)
  | .readPair addr => (.ok ((chip.reg (addr + 1)).append (chip.reg addr)), chip)
  | .postResetDelay => ((), chip)
  | .mark _ => ((), chip)

/-- A chip in standby whose ADC holds these channel codes. -/
def sampling (vin vbat iin dieTemp : Nat) : Chip where
  regs :=
    [(Regs.deviceId, Regs.deviceIdValue), (Regs.sysSts, Regs.sysStsStandby),
      -- the codes are packed without gaps, ten bits each
      (0x09, BitVec.ofNat 8 iin), (0x0A, BitVec.ofNat 8 (iin / 256)),
      (0x0B, BitVec.ofNat 8 (vin * 16)), (0x0C, BitVec.ofNat 8 (vin / 16)),
      (0x0E, BitVec.ofNat 8 vbat), (0x0F, BitVec.ofNat 8 (vbat / 256 + dieTemp * 4)),
      (0x10, BitVec.ofNat 8 (dieTemp / 64))]
  brokenWrites := []
  refuses := false

/-- A 5 V input, a cell at 3.9 V, 39 mA and 25 °C. -/
def fiveVolt : Chip := sampling 313 780 8 877

/-- An input of 9 V, with the same cell. -/
def nineVolt : Chip := sampling 563 780 8 877

/-- A 5 V chip that refuses every mode. -/
def refusing : Chip := { fiveVolt with refuses := true }

end Chip

/-- A configured session of the default profile. -/
def Pump.configuredDefault : Pump :=
  { Pump.probed PumpConfig.forQc35ClassB with state := .configured }

example : (Chip.fiveVolt.answer (.readPair AdcChannel.vin.register)).1 = .ok 0x1390 :=
  rfl

end Ln8000
