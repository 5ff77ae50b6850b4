import NabuCharger.Kmdf.Spb
import NabuCharger.Wdf.Objects

/-!
# `Kmdf.Superuser`: a session with the PMIC of the platform

`\Device\Spmi\SUPERUSER` gives access to the registers of the PMIC, to three clients at a time. The
driver opens it for one purpose, is granted the peripherals it needs, and closes it again. Each
transfer has a request and memories of its own (`ioctlInOut`), and is a frame: a header of flags,
address and length, and the payload of a write.

Three purposes are here: the state of charge (`readBattSocRaw`), the registers of the buck and the
fuel gauge (`readChargeRegs`), and the limit of the buck (`writeFccRaw`). A step that fails ends the
session, and the session is closed all the same (`session`).
-/

set_option autoImplicit false

namespace Kmdf.Superuser

open Effectful Wdf

/-- Programs of the session. The failure is a status. -/
abbrev SuperuserM : Type → Type := Proc ObjectEffect Int Unit

/-- Programs of which only success matters. -/
abbrev CallM : Type → Type := Proc ObjectEffect Unit Unit

/-- Control code of a read. -/
def ioctlRead : Nat := 0x85B5240C
/-- Control code of a write. -/
def ioctlWrite : Nat := 0x85B52410
/-- Control code that grants a peripheral. -/
def ioctlGrant : Nat := 0x85B52418

/-- The status of a request that makes no sense. -/
def statusInvalidParameter : Int := -1073741811

/-- Read and write, shared by all, not a directory. -/
def openParams : OpenParams where
  targetDeviceName := "\\Device\\Spmi\\SUPERUSER"
  desiredAccess := 0xC0000000
  shareAccess := 0x00000007
  createDisposition := 1
  fileAttributes := 0x00000080
  createOptions := 0x00000040

/-! ### Frames -/

/-- A word, least significant byte first. -/
def leBytes (word : BitVec 32) : List Byte :=
  [word.extractLsb' 0 8, word.extractLsb' 8 8, word.extractLsb' 16 8, word.extractLsb' 24 8]

/-- `(sid << 16) | reg`. -/
def superuserAddrEnc (sid : Byte) (reg : BitVec 16) : BitVec 32 :=
  (sid.setWidth 32 <<< 16) ||| reg.setWidth 32

/-- The header of a transfer of `len` bytes, `len` below 256. -/
def header (sid : Byte) (reg : BitVec 16) (len : Nat) : List Byte :=
  [0, 0, 0, 0] ++ leBytes (superuserAddrEnc sid reg) ++ [BitVec.ofNat 8 len, 0, 0, 0]

/-- One peripheral: the count, and its number. -/
def grantFrame (peri : BitVec 16) : List Byte :=
  [1, 0, peri.extractLsb' 0 8, peri.extractLsb' 8 8]

/-! ### Transfers -/

/-- Ends the request and its memories. -/
def cleanUp (request input : Handle) (output : Option Handle) : SuperuserM Unit := do
  match output with
  | some handle => Proc.perform (E := ObjectEffect) (.delete handle)
  | none => pure ()
  Proc.perform (E := ObjectEffect) (.delete input)
  Proc.perform (E := ObjectEffect) (.delete request)

/-- The memory of the reply, filled with ones. A call without a reply has none. -/
def createOutput (size : Nat) : SuperuserM (Option Handle) :=
  if size = 0 then pure none
  else do
    let created : Int × Handle ← Proc.perform (E := ObjectEffect) (.createMemory size)
    if ntOk created.1 = false then Proc.fail created.1
    else
      Proc.perform (E := ObjectEffect) (.fill created.2 0xFF size)
      pure (some created.2)

/-- The reply of a request that was completed. -/
def collect (request : Handle) (output : Option Handle) (size : Nat) : SuperuserM (List Byte) := do
  let status : Int ← Proc.perform (E := ObjectEffect) (.getStatus request)
  if ntOk status = false then Proc.fail status
  else
    match output with
    | some handle => Proc.perform (E := ObjectEffect) (.copyOut handle size)
    | none => pure []

/-- Formats the request, sends it and waits for its end. -/
def transact (target request : Handle) (ioctl : Nat) (input : Handle) (output : Option Handle)
    (size : Nat) : SuperuserM (List Byte) := do
  let status : Int ← Proc.perform (E := ObjectEffect)
    (.formatForIoctl target request ioctl input output)
  if ntOk status = false then Proc.fail status
  else
    let sent : Bool ← Proc.perform (E := ObjectEffect) (.send request target Spb.sendOptions)
    -- A request that was not sent has no status.
    if sent then collect request output size else Proc.fail (-1)

/-- One transfer, with objects of its own. The answer has `size` bytes. -/
def ioctlInOut (target : Handle) (ioctl : Nat) (input : List Byte) (size : Nat) :
    SuperuserM (List Byte) := do
  let request : Int × Handle ← Proc.perform (E := ObjectEffect) (.createRequest target)
  if ntOk request.1 = false then Proc.fail request.1
  else
    let inMem : Int × Handle ← Proc.perform (E := ObjectEffect) (.createMemory input.length)
    if ntOk inMem.1 = false then
      Proc.perform (E := ObjectEffect) (.delete request.2)
      Proc.fail inMem.1
    else
      Proc.perform (E := ObjectEffect) (.copyIn inMem.2 input)
      let output : Except Int (Option Handle) ← Proc.attempt (createOutput size)
      match output with
      | .error status =>
          -- There is no memory for the reply, so nothing was sent.
          cleanUp request.2 inMem.2 none
          Proc.fail status
      | .ok output =>
          -- The objects are deleted whatever became of the request.
          let result : Except Int (List Byte) ← Proc.attempt
            (transact target request.2 ioctl inMem.2 output size)
          cleanUp request.2 inMem.2 output
          Proc.ofExcept result

/-- A request that returns nothing. -/
def ioctlIn (target : Handle) (ioctl : Nat) (input : List Byte) : SuperuserM Unit := do
  let _ ← ioctlInOut target ioctl input 0

/-! ### The session -/

/-- An open connection to the privileged bus. -/
structure SuperuserBus where
  target : Handle
  deriving DecidableEq, Repr

namespace SuperuserBus

/-- `SuperuserBus::open`. A target that cannot be opened is deleted. -/
def openTarget : SuperuserM SuperuserBus := do
  let created : Int × Handle ← Proc.perform (E := ObjectEffect) .createTarget
  if ntOk created.1 = false then Proc.fail created.1
  else
    let status : Int ← Proc.perform (E := ObjectEffect) (.openTarget created.2 openParams)
    if ntOk status = false then
      -- the target of a failed open is deleted here: no bus is returned to drop it
      Proc.perform (E := ObjectEffect) (.delete created.2)
      Proc.fail status
    else pure ⟨created.2⟩

/-- The connection is closed and its target deleted. -/
def drop (su : SuperuserBus) : CallM Unit := do
  Proc.perform (E := ObjectEffect) (.closeTarget su.target)
  Proc.perform (E := ObjectEffect) (.delete su.target)

/-- Asks for access to a peripheral. -/
def grant (su : SuperuserBus) (peri : BitVec 16) : SuperuserM Unit :=
  ioctlIn su.target ioctlGrant (grantFrame peri)

/-- Reads `len` bytes starting at `reg`. -/
def readBytes (su : SuperuserBus) (sid : Byte) (reg : BitVec 16) (len : Nat) :
    SuperuserM (List Byte) :=
  if len = 0 ∨ 255 < len then Proc.fail statusInvalidParameter
  else ioctlInOut su.target ioctlRead (header sid reg len) len

/-- Writes the payload starting at `reg`. -/
def writeBytes (su : SuperuserBus) (sid : Byte) (reg : BitVec 16) (data : List Byte) :
    SuperuserM Unit :=
  if data.length = 0 ∨ 255 < data.length then Proc.fail statusInvalidParameter
  else ioctlIn su.target ioctlWrite (header sid reg data.length ++ data)

/-- Reads one register. -/
def readU8 (su : SuperuserBus) (sid : Byte) (reg : BitVec 16) : SuperuserM Byte := do
  let buf : List Byte ← su.readBytes sid reg 1
  pure (buf.getD 0 0)

/-- Writes one register. -/
def writeU8 (su : SuperuserBus) (sid : Byte) (reg : BitVec 16) (value : Byte) : SuperuserM Unit :=
  su.writeBytes sid reg [value]

end SuperuserBus

/-- Only the success of the step counts. -/
def orNone {α : Type} (x : SuperuserM α) : CallM α := do
  let result : Except Int α ← Proc.attempt x
  match result with
  | .ok value => pure value
  | .error _ => Proc.fail ()

/-- Opens the session, runs `body` in it, and closes it however that ended. -/
def session {α : Type} (body : SuperuserBus → CallM α) : CallM α := do
  let su : SuperuserBus ← orNone SuperuserBus.openTarget
  let result : Except Unit α ← Proc.attempt (body su)
  su.drop
  Proc.ofExcept result

/-! ### The calls -/

/-- Slave of the charger peripherals. -/
def spmiSidUsbin : Byte := 2

/-- The charger. -/
def spmiPeriChgr : BitVec 16 := 0x0010
/-- The USB input. -/
def spmiPeriUsbin : BitVec 16 := 0x0013
/-- The state of charge. -/
def spmiPeriBattSoc : BitVec 16 := 0x0040
/-- The battery values. -/
def spmiPeriBattInfo : BitVec 16 := 0x0041

/-- Subtype of the gauge, which tells the PMIC. -/
def spmiRegBattSocSubtype : BitVec 16 := 0x4005
/-- State of charge. -/
def spmiRegBattSoc : BitVec 16 := 0x4009
/-- Subtype of the PM8150B. -/
def spmiBattSocSubtypePm8150b : Byte := 0x10
/-- State of the charger. -/
def spmiRegChgrStatus1 : BitVec 16 := 0x1006
/-- Whether the charger may charge. -/
def spmiRegChgrChargingEnable : BitVec 16 := 0x1042
/-- Settings of the charger. -/
def spmiRegChgrCfg2 : BitVec 16 := 0x1051
/-- Fast charge current. -/
def spmiRegChgrFcc : BitVec 16 := 0x1061
/-- Float voltage. -/
def spmiRegChgrFloatVoltage : BitVec 16 := 0x1070
/-- The voltages the input takes. -/
def spmiRegUsbinAdapterAllow : BitVec 16 := 0x1360
/-- Input current limit. -/
def spmiRegUsbinIcl : BitVec 16 := 0x1370
/-- Battery voltage. -/
def spmiRegFgVbattLsb : BitVec 16 := 0x41A0
/-- Battery current. -/
def spmiRegFgIbattLsb : BitVec 16 := 0x41A2
/-- Shadow copy of the battery voltage. -/
def spmiRegFgVbattLsbCp : BitVec 16 := 0x41A6
/-- Shadow copy of the battery current. -/
def spmiRegFgIbattLsbCp : BitVec 16 := 0x41A8

/-- A code of the voltage in nanovolts. -/
def fgVbattNumer : Nat := 122070
/-- And from there to microvolts. -/
def fgVbattDenom : Nat := 1000
/-- A code of the current in nanoamperes. -/
def fgIbattNumer : Int := 488281
/-- And from there to microamperes. -/
def fgIbattDenom : Int := 1000

/-- The state of charge, from the cell and its copy. -/
def readBattSocRaw : CallM Byte :=
  session fun su => do
    orNone (su.grant spmiPeriBattSoc)
    let subtype : Byte ← orNone (su.readU8 spmiSidUsbin spmiRegBattSocSubtype)
    if subtype ≠ spmiBattSocSubtypePm8150b then Proc.fail ()
    else
      -- The registers are consecutive, so one transfer reads the cell and its copy.
      let cap : List Byte ← orNone (su.readBytes spmiSidUsbin spmiRegBattSoc 2)
      if cap.getD 0 0 ≠ cap.getD 1 0 then Proc.fail () else pure (cap.getD 0 0)

/-- The snapshot of the buck and the fuel gauge. -/
structure ChargeSnapshot where
  fccRaw : Byte
  chargeEnable : Byte
  inhibit : Byte
  chgrStatus : Byte
  fvRaw : Byte
  iclRaw : Byte
  usbinAllow : Byte
  /-- Microamperes, in two's complement. -/
  ibattUa : BitVec 32
  /-- Microvolts. -/
  fgVbattUv : BitVec 32
  deriving DecidableEq, Repr

/-- `u16::from_le_bytes`. -/
def word (pair : List Byte) : BitVec 16 := pair.getD 1 0 ++ pair.getD 0 0

/-- The cell voltage of a raw pair, computed in 64 bits. -/
def fgVbattUv (pair : List Byte) : BitVec 32 :=
  BitVec.ofNat 32 ((word pair).toNat * fgVbattNumer / fgVbattDenom)

/-- The cell current of a raw pair, signed, computed in 64 bits and rounded toward zero. -/
def ibattUa (pair : List Byte) : BitVec 32 :=
  BitVec.ofInt 32 (((word pair).toInt * fgIbattNumer).tdiv fgIbattDenom)

/-- A snapshot is complete, or it is not taken. -/
def readChargeRegs : CallM ChargeSnapshot :=
  session fun su => do
    orNone (su.grant spmiPeriChgr)
    orNone (su.grant spmiPeriUsbin)
    orNone (su.grant spmiPeriBattInfo)
    let fccRaw : Byte ← orNone (su.readU8 spmiSidUsbin spmiRegChgrFcc)
    let chargeEnable : Byte ← orNone (su.readU8 spmiSidUsbin spmiRegChgrChargingEnable)
    let inhibit : Byte ← orNone (su.readU8 spmiSidUsbin spmiRegChgrCfg2)
    let chgrStatus : Byte ← orNone (su.readU8 spmiSidUsbin spmiRegChgrStatus1)
    let fvRaw : Byte ← orNone (su.readU8 spmiSidUsbin spmiRegChgrFloatVoltage)
    let iclRaw : Byte ← orNone (su.readU8 spmiSidUsbin spmiRegUsbinIcl)
    let usbinAllow : Byte ← orNone (su.readU8 spmiSidUsbin spmiRegUsbinAdapterAllow)
    let ibatt : List Byte ← orNone (su.readBytes spmiSidUsbin spmiRegFgIbattLsb 2)
    let ibattCp : List Byte ← orNone (su.readBytes spmiSidUsbin spmiRegFgIbattLsbCp 2)
    -- the copy registers differ: the gauge latched a new value between the reads
    if ibatt ≠ ibattCp then Proc.fail ()
    else
      let vbatt : List Byte ← orNone (su.readBytes spmiSidUsbin spmiRegFgVbattLsb 2)
      let vbattCp : List Byte ← orNone (su.readBytes spmiSidUsbin spmiRegFgVbattLsbCp 2)
      if vbatt ≠ vbattCp then Proc.fail ()
      else
        pure { fccRaw, chargeEnable, inhibit, chgrStatus, fvRaw, iclRaw, usbinAllow,
               ibattUa := ibattUa ibatt, fgVbattUv := fgVbattUv vbatt }

/-- Writes the limit of the buck and answers what is read back. -/
def writeFccRaw (raw : Byte) : CallM Byte :=
  session fun su => do
    orNone (su.grant spmiPeriChgr)
    orNone (su.writeU8 spmiSidUsbin spmiRegChgrFcc raw)
    orNone (su.readU8 spmiSidUsbin spmiRegChgrFcc)

/-- A call of the driver. -/
inductive Call
  | readBattSocRaw
  | readChargeRegs
  | writeFccRaw (raw : Byte)
  deriving DecidableEq, Repr

/-- What a call answers with. -/
inductive Answer
  | soc (raw : Byte)
  | regs (snapshot : ChargeSnapshot)
  | fcc (raw : Byte)
  deriving DecidableEq, Repr

/-- The program of a call. -/
def Call.run : Call → CallM Answer
  | .readBattSocRaw => do pure (.soc (← Superuser.readBattSocRaw))
  | .readChargeRegs => do pure (.regs (← Superuser.readChargeRegs))
  | .writeFccRaw raw => do pure (.fcc (← Superuser.writeFccRaw raw))

end Kmdf.Superuser
