import NabuCharger.Logic.Prog
import NabuCharger.Ln8000.HvdcpPolicy

/-!
# `Kmdf.Hvdcp`: the Quick Charge state machine

The negotiation over the USBIN registers of the PMIC, and the bus corrections that keep `Vin`
inside the transfer band. A program here talks to the PMIC through one of two transports, and
to the pump through `readVin` only, the closure the caller passes in: the driver handles that
operation with a sample of the pump's ADC. Registry marks are left out.

The voltages of the band (`targetVbusUv`, `trimTargetUv`, `windowFloorUv`) follow the cell.
Pulses are counted by the software alone (`pulseCnt`), and while `FORCE_9V` is latched none is
sent (`pulseCmdBit`).
-/

set_option autoImplicit false

namespace Kmdf

open Effectful Ln8000

/-- Register of the PMIC. -/
abbrev PmicAddr : Type := BitVec 16

namespace Pmic

/-- State of the machine that detects the adapter. -/
def apsdStatus : PmicAddr := 0x1307
/-- Result of the detection. -/
def apsdResult : PmicAddr := 0x1308
/-- State of the Quick Charge negotiation. -/
def qcChangeStatus : PmicAddr := 0x1309
/-- A pulse counter of the previous PMIC, read for diagnostics only. -/
def qcPulseCount : PmicAddr := 0x130A
/-- Clears the latched interrupts of the input. -/
def intLatchedClr : PmicAddr := 0x1314
/-- Commands to the input, the suspension among them. -/
def usbinCmdIl : PmicAddr := 0x1340
/-- Commands to the detection. -/
def cmdApsd : PmicAddr := 0x1341
/-- Forced input current limit. -/
def cmdIclOverride : PmicAddr := 0x1342
/-- Steps of the bus voltage. -/
def cmdHvdcp2 : PmicAddr := 0x1343
/-- Settings of the connector. -/
def typeCCfg : PmicAddr := 0x1358
/-- Highest voltage of Quick Charge 2. -/
def hvdcpPulseCountMax : PmicAddr := 0x135B
/-- The voltages the input takes. -/
def usbinAdapterAllow : PmicAddr := 0x1360
/-- What the input may negotiate. -/
def usbinOptions1 : PmicAddr := 0x1362
/-- Input current limit, in steps of 50 mA. -/
def usbinIclCfg : PmicAddr := 0x1370

/-- Negotiates a high voltage. -/
def bitHvdcpEn : Byte := bit 2
/-- Detects the kind of port. -/
def bitBc1p2SrcDetect : Byte := bit 3
/-- Lets the PMIC step the bus by itself. -/
def bitHvdcpAutonomous : Byte := bit 5
/-- Lets it authenticate the adapter. -/
def bitHvdcpAuthAlgEn : Byte := bit 6
/-- Starts the detection only when the connector is seen. -/
def bitBc1p2StartOnCc : Byte := bit 7
/-- Suspends the input. -/
def bitUsbinSuspend : Byte := bit 0
/-- Forces the input current limit. -/
def bitIclOverride : Byte := bit 0
/-- Runs the detection again. -/
def bitApsdRerun : Byte := bit 0
/-- The detection is complete. -/
def bitApsdDone : Byte := bit 0
/-- The adapter can do Quick Charge. -/
def bitQcCharger : Byte := bit 1
/-- A port that only charges. -/
def bitDcp : Byte := bit 3
/-- Quick Charge 2.0. -/
def bitQc2 : Byte := bit 5
/-- Quick Charge 3.0. -/
def bitQc3 : Byte := bit 6
/-- One step up. -/
def bitSingleInc : Byte := bit 0
/-- One step down. -/
def bitSingleDec : Byte := bit 1
/-- Back to 5 V. -/
def bitForce5v : Byte := bit 3
/-- On to 9 V. -/
def bitForce9v : Byte := bit 4
/-- Steps of 200 mV are possible. The name is from the previous PMIC. -/
def bitQcContinuous : Byte := bit 3

/-- The bits of the highest voltage. -/
def maskHvdcpPulseCountMaxQc2 : Byte := 0xC0
/-- 9 V in these bits. -/
def hvdcpPulseCountMaxQc29v : Byte := 0x40
/-- The bits of the allowed voltages. -/
def maskUsbinAdapterAllow : Byte := 0x0F
/-- 5 V to 12 V in these bits. -/
def usbinAdapterAllow5vTo12v : Byte := 0x0C

end Pmic

/-- Limit code of 500 mA. -/
def iclRaw500ma : Byte := 10
/-- Limit code of 3 A, for the pump. -/
def iclRawPump3a : Byte := 60
/-- Limit code of 2.7 A, for the bypass at 5 V. -/
def iclRaw5v2p7a : Byte := 54
/-- Limit code of 2 A, for a plain charging port. -/
def iclRawDcp2a : Byte := 40
/-- Limit code of 1.5 A, for an adapter of version 2. -/
def iclRawHvdcp21p5a : Byte := 30

/-- Peripheral granted for the negotiation. -/
def spmiPeriUsbin : Nat := 0x13

/-- Pause before the status is sampled after a step. -/
def qcStatusSettleMs : Nat := 200
/-- Pause between two samples of a rise to 9 V. -/
def force9vPollMs : Nat := 50
/-- Samples in a row that confirm a level. -/
def force9vConfirmN : Nat := 2
/-- One step of version 3. -/
def qc3StepUv : Nat := 200000
/-- The level after a detection. -/
def micro5vUv : Nat := 5000000
/-- The counter of the steps stops here. -/
def maxPulseCnt : Nat := 23
/-- No policy steps the bus above this level. -/
def pumpVinTrimUv : Nat := 10500000
/-- Target of the bus when the cell voltage is not known. -/
def pumpVinTargetMinUv : Nat := 9500000
/-- No target is lower. -/
def pumpVinTargetAbsMinUv : Nat := 6000000
/-- No target is higher. -/
def pumpVinTargetCeilUv : Nat := 9600000
/-- Steps down a correction may take. -/
def maxTrimDec : Nat := 20
/-- Steps up it may take. -/
def maxBoostInc : Nat := 23
/-- Pause between two corrections. -/
def windowNudgeMs : Nat := 10000

/-- Input current at or below which a 2:1 pump carries no power. -/
def iinDeadFloorUa : Nat := 60000

/-- Pause after a step. -/
def pulseGapMs : Nat := 40
/-- How long a detection may take. -/
def apsdWaitMs : Nat := 2000
/-- Pause between two looks at it. -/
def apsdPollMs : Nat := 200
/-- Pause after the negotiation was enabled. -/
def enableSettleMs : Nat := 50

/-- Vin below this still counts as "stayed at 5 V". -/
def fiveVStayMaxUv : Int := 6000000

/-! ### Targets -/

/-- An unsigned word read as a signed one. -/
def asI32 (value : Nat) : Int := (BitVec.ofNat 32 value).toInt

/-- A word that is not negative as a signed one. -/
theorem asI32_of_lt {value : Nat} (h : value < 2147483648) : asI32 value = value := by
  rw [asI32, BitVec.toInt_eq_toNat_of_lt]
  · rw [BitVec.toNat_ofNat, Nat.mod_eq_of_lt (by omega)]
  · rw [BitVec.toNat_ofNat]
    omega

/-- A signed 32-bit word, saturated. -/
def satI32 (value : Int) : Int := max (-2147483648) (min value 2147483647)

/-- Bus target of a 2:1 pump: the centre of the transfer band, within its bounds. -/
def targetVbusUv (vbatUv : Nat) : Nat :=
  if vbatUv = 0 then pumpVinTargetMinUv
  else
    let target := windowTargetUv vbatUv
    let target := if target < pumpVinTargetAbsMinUv then pumpVinTargetAbsMinUv else target
    if target > pumpVinTargetCeilUv then pumpVinTargetCeilUv else target

/-- Top of the band, or the absolute safety ceiling. -/
def trimTargetUv (vbatUv : Nat) : Int :=
  if vbatUv = 0 then pumpVinTargetMinUv
  else if windowTopUv vbatUv > pumpVinTrimUv then pumpVinTrimUv
  else asI32 (windowTopUv vbatUv)

/-- Bottom of the band, lifted to the elevated boundary. -/
def hvdcpWindowFloorUv (vbatUv : Nat) : Int :=
  if vbatUv = 0 then pumpVinTargetMinUv
  else if windowFloorUv vbatUv < pumpVinTargetAbsMinUv then pumpVinTargetAbsMinUv
  else asI32 (windowFloorUv vbatUv)

/-- Soft estimate of the adapter's VBUS. -/
def estimatedVbusUv (pulseCnt : Nat) : Nat :=
  satAdd 32 micro5vUv (satMul 32 qc3StepUv pulseCnt)

/-- INC pulses needed to reach the target. -/
def pulsesTowardTarget (vbatUv : Nat) : Nat :=
  let target := targetVbusUv vbatUv
  if target ≤ micro5vUv then 0
  else min ((target - micro5vUv + (qc3StepUv - 1)) / qc3StepUv) maxPulseCnt

/-- The register with 9 V as the highest voltage. -/
def withQc2Max9v (pulseMaxReg : Byte) : Byte :=
  (pulseMaxReg &&& ~~~Pmic.maskHvdcpPulseCountMaxQc2) ||| Pmic.hvdcpPulseCountMaxQc29v

/-- The register with all voltages allowed. -/
def withAdapterAllow5vTo12v (allowReg : Byte) : Byte :=
  (allowReg &&& ~~~Pmic.maskUsbinAdapterAllow) ||| Pmic.usbinAdapterAllow5vTo12v

/-- Vin stayed near 5 V after the raise. -/
def vinStayedNear5v (vinUv : Int) : Bool := decide (vinUv > 0) && decide (vinUv < fiveVStayMaxUv)

/-! ### State and effects -/

/-- Which transport carried the negotiation. -/
inductive HvdcpTransport
  | none
  | superuser
  | usbinRh
  deriving DecidableEq, Repr

/-- Coarse phase of the machine. -/
inductive HvdcpPhase
  | idle
  | enable
  | apsdRerun
  | apsdWait
  | qc2Force9v
  | qc3Pulse
  | done
  | failed
  | qc35Auth
  | fiveVBypass
  deriving DecidableEq, Repr

/-- Numeric code of a phase. -/
def HvdcpPhase.code : HvdcpPhase → Nat
  | .idle => 0
  | .enable => 1
  | .apsdRerun => 2
  | .apsdWait => 3
  | .qc2Force9v => 4
  | .qc3Pulse => 5
  | .done => 6
  | .failed => 7
  | .qc35Auth => 8
  | .fiveVBypass => 9

/-- Errors of the negotiation. -/
inductive HvdcpError
  | usbinUnavailable
  | busOpenFailed
  | spmiIo
  | apsdTimeout
  | notQcAdapter
  deriving DecidableEq, Repr

/-- Stable negative code of an error. -/
def HvdcpError.code : HvdcpError → Int
  | .usbinUnavailable => -10
  | .busOpenFailed => -11
  | .spmiIo => -12
  | .apsdTimeout => -13
  | .notQcAdapter => -14

/-- Soft runtime of the machine. -/
structure HvdcpState where
  pulseCnt : Nat
  apsdStatus : Byte
  apsdResult : Byte
  options1 : Byte
  phase : HvdcpPhase
  bigEndian : Bool
  endianKnown : Bool
  transport : HvdcpTransport
  /-- `CMD_HVDCP_2` carries `FORCE_9V`. -/
  force9vLatched : Bool
  deriving DecidableEq, Repr

/-- Before any negotiation. -/
def HvdcpState.new : HvdcpState where
  pulseCnt := 0
  apsdStatus := 0
  apsdResult := 0
  options1 := 0
  phase := .idle
  bigEndian := true
  endianKnown := false
  transport := .none
  force9vLatched := false

/-- Operations on the PMIC bus. An answer says whether the call succeeded. -/
inductive SpmiOp
  | sleep (ms : Nat)
  | superuserOpen
  | superuserGrant (peri : Nat)
  | superuserRead (addr : PmicAddr)
  | superuserWrite (addr : PmicAddr) (value : Byte)
  | usbinOpen (id : Nat)
  | usbinTransact (addr : PmicAddr) (value : Option Byte) (bigEndian : Bool)
  deriving DecidableEq, Repr

/-- The answer to an operation. Without a value, the transfer failed. -/
def SpmiOp.Resp : SpmiOp → Type
  | .sleep _ => Unit
  | .superuserOpen => Bool
  | .superuserGrant _ => Bool
  | .superuserRead _ => Option Byte
  | .superuserWrite _ _ => Bool
  | .usbinOpen _ => Bool
  | .usbinTransact _ _ _ => Option Byte

/-- Operations of the negotiation: the PMIC bus, and the caller's `Vin` sample. -/
inductive HvdcpOp
  | spmi (o : SpmiOp)
  | readVin
  deriving DecidableEq, Repr

/-- What a negotiation needs of its surroundings. -/
def HvdcpEffect : Effect where
  Op := HvdcpOp
  Resp
    | .spmi o => o.Resp
    | .readVin => Int

/-- Programs of the negotiation. -/
abbrev HvdcpM (α : Type) : Type := Proc HvdcpEffect HvdcpError HvdcpState α

section
variable {ε : Type}

/-- An operation of the PMIC bus. -/
def spmi (o : SpmiOp) : Proc HvdcpEffect ε HvdcpState o.Resp :=
  Proc.perform (E := HvdcpEffect) (HvdcpOp.spmi o)

/-- The caller's sample of the input voltage. -/
def readVin : Proc HvdcpEffect ε HvdcpState Int :=
  Proc.perform (E := HvdcpEffect) HvdcpOp.readVin

/-- A pause. -/
def sleepMs (ms : Nat) : Proc HvdcpEffect ε HvdcpState Unit :=
  spmi (.sleep ms)

/-- Opens the privileged bus. -/
def superuserOpen : Proc HvdcpEffect ε HvdcpState Bool :=
  spmi .superuserOpen

/-- Opens the input bus at its connection. -/
def usbinOpen (id : Nat) : Proc HvdcpEffect ε HvdcpState Bool :=
  spmi (.usbinOpen id)

/-- Notes the phase of the negotiation. -/
def setPhase (phase : HvdcpPhase) : Proc HvdcpEffect ε HvdcpState Unit :=
  Proc.modify fun st => { st with phase := phase }

end

/-- Active transport of one negotiation. -/
inductive Bus
  | superuser
  | usbin
  deriving DecidableEq, Repr

/-- One transfer over the input bus, a write if there is a value. -/
def spmiRwUsbin (addr : PmicAddr) (value : Option Byte) (bigEndian : Bool) : HvdcpM Byte := do
  let answer : Option Byte ← spmi (.usbinTransact addr value bigEndian)
  match answer with
  | some read => pure read
  | none => Proc.fail .spmiIo

/-- Reads a register over the bus in use. -/
def readReg (bus : Bus) (addr : PmicAddr) : HvdcpM Byte :=
  match bus with
  | .superuser => do
      let answer : Option Byte ← spmi (.superuserRead addr)
      match answer with
      | some read => pure read
      | none => Proc.fail .spmiIo
  -- the byte order found by the probe is used for every later transfer
  | .usbin => do
      let st ← Proc.get
      spmiRwUsbin addr none st.bigEndian

/-- Writes a register over the bus in use. -/
def writeReg (bus : Bus) (addr : PmicAddr) (value : Byte) : HvdcpM Unit :=
  match bus with
  | .superuser => do
      let ok : Bool ← spmi (.superuserWrite addr value)
      if ok then pure () else Proc.fail .spmiIo
  | .usbin => do
      let st ← Proc.get
      let _ ← spmiRwUsbin addr (some value) st.bigEndian
      pure ()

/-- Discovers the address endianness the controller accepts. -/
def resolveEndianUsbin : HvdcpM Unit := do
  let st ← Proc.get
  if st.endianKnown then pure ()
  else
    -- the order in which a read succeeds, big endian first
    match ← Proc.attempt (spmiRwUsbin Pmic.apsdStatus none true) with
    | .ok _ => Proc.modify fun st => { st with bigEndian := true, endianKnown := true }
    | .error _ =>
        match ← Proc.attempt (spmiRwUsbin Pmic.apsdStatus none false) with
        | .ok _ => Proc.modify fun st => { st with bigEndian := false, endianKnown := true }
        | .error _ => Proc.fail .spmiIo

/-! ### Preparation of the input -/

/-- Clears the latched interrupts, if it can. -/
def clearUsbinLatched (bus : Bus) : HvdcpM Unit :=
  Proc.discard (writeReg bus Pmic.intLatchedClr 0xFF)

/-- Clears the suspend bit, so that the detection can draw current. -/
def clearUsbinSuspend (bus : Bus) : HvdcpM Unit := do
  match ← Proc.attempt (readReg bus Pmic.usbinCmdIl) with
  | .error _ => pure ()
  | .ok cmdIl =>
      Proc.when (cmdIl &&& Pmic.bitUsbinSuspend != 0)
        (Proc.discard (writeReg bus Pmic.usbinCmdIl (cmdIl &&& ~~~Pmic.bitUsbinSuspend)))

/-- Detection must not wait for the Type-C attach. -/
def clearApsdCcGate (bus : Bus) : HvdcpM Byte := do
  let cfg ← readReg bus Pmic.typeCCfg
  if cfg &&& Pmic.bitBc1p2StartOnCc ≠ 0 then
    writeReg bus Pmic.typeCCfg (cfg &&& ~~~Pmic.bitBc1p2StartOnCc)
    pure (cfg &&& ~~~Pmic.bitBc1p2StartOnCc)
  else pure cfg

/-- Raises the input current limit to 500 mA when it is below. -/
def ensureIclFloor500ma (bus : Bus) : HvdcpM Byte := do
  let current ← readReg bus Pmic.usbinIclCfg
  if iclRaw500ma ≤ current then pure current
  else
    writeReg bus Pmic.usbinIclCfg iclRaw500ma
    Proc.discard (writeReg bus Pmic.cmdIclOverride Pmic.bitIclOverride)
    pure iclRaw500ma

/-- Raises the input current limit to at least `target` and pulses the override. -/
def ensureIclAtLeast (bus : Bus) (target : Byte) : HvdcpM Byte := do
  let current ← readReg bus Pmic.usbinIclCfg
  Proc.when (current < target) (writeReg bus Pmic.usbinIclCfg target)
  Proc.discard (writeReg bus Pmic.cmdIclOverride Pmic.bitIclOverride)
  clearUsbinSuspend bus
  pure (if target ≤ current then current else target)

/-- Enables HVDCP, pulses driven by the host. -/
def enableHvdcp (bus : Bus) : HvdcpM Unit := do
  let read ← readReg bus Pmic.usbinOptions1
  let options :=
    (read ||| (Pmic.bitHvdcpEn ||| Pmic.bitHvdcpAuthAlgEn ||| Pmic.bitBc1p2SrcDetect))
      &&& ~~~Pmic.bitHvdcpAutonomous
  writeReg bus Pmic.usbinOptions1 options
  Proc.modify fun st => { st with options1 := options }

/-- Unlocks the elevation gates of the PMIC. -/
def ensureHvdcpVoltageGates (bus : Bus) : HvdcpM Unit := do
  let allow ← readReg bus Pmic.usbinAdapterAllow
  Proc.when (withAdapterAllow5vTo12v allow != allow)
    (writeReg bus Pmic.usbinAdapterAllow (withAdapterAllow5vTo12v allow))
  let pulseMax ← readReg bus Pmic.hvdcpPulseCountMax
  Proc.when (withQc2Max9v pulseMax != pulseMax)
    (writeReg bus Pmic.hvdcpPulseCountMax (withQc2Max9v pulseMax))

/-- Samples the status of the raise, for the record only. -/
def sampleQcStatus (bus : Bus) : HvdcpM Unit := do
  sleepMs qcStatusSettleMs
  let _ ← readReg bus Pmic.qcChangeStatus
  let _ ← readReg bus Pmic.qcPulseCount
  pure ()

/-- Polls until the detection is done: `fuel` polls at most. -/
def waitApsdDone (bus : Bus) : Nat → Nat → HvdcpM Unit
  | 0, _ => Proc.diverge
  | fuel + 1, waited => do
      let status ← readReg bus Pmic.apsdStatus
      Proc.modify fun st => { st with apsdStatus := status }
      if status &&& Pmic.bitApsdDone ≠ 0 then
        let result ← readReg bus Pmic.apsdResult
        Proc.modify fun st => { st with apsdResult := result }
      -- the status is read once more at the limit before it counts as late
      else if apsdWaitMs ≤ waited then Proc.fail .apsdTimeout
      else
        sleepMs apsdPollMs
        waitApsdDone bus fuel (satAdd 32 waited apsdPollMs)

/-- Polls the wait can make. -/
def apsdPolls : Nat := apsdWaitMs / apsdPollMs + 1

/-! ### Pulses -/

/-- Sends one step bit, the others of the register kept. Under the latch nothing goes out, and
the answer says so. -/
def pulseCmdBit (bus : Bus) (stepBit : Byte) : HvdcpM Bool := do
  let st ← Proc.get
  if st.force9vLatched then pure false
  else
    let current ← Proc.unwrapOr (readReg bus Pmic.cmdHvdcp2) 0
    writeReg bus Pmic.cmdHvdcp2
      ((current &&& ~~~(Pmic.bitSingleInc ||| Pmic.bitSingleDec)) ||| stepBit)
    pure true

/-- One step up, and a pause of this length. The counter stops at its end. -/
def pulseIncGap (bus : Bus) (gapMs : Nat) : HvdcpM Unit := do
  let sent ← pulseCmdBit bus Pmic.bitSingleInc
  Proc.when sent
    (Proc.modify fun st => { st with pulseCnt := min (satAdd 32 st.pulseCnt 1) maxPulseCnt })
  sleepMs gapMs

/-- One step down, and a pause of this length. -/
def pulseDecGap (bus : Bus) (gapMs : Nat) : HvdcpM Unit := do
  let sent ← pulseCmdBit bus Pmic.bitSingleDec
  Proc.when sent (Proc.modify fun st => { st with pulseCnt := st.pulseCnt - 1 })
  sleepMs gapMs

/-- One step up. -/
def pulseInc (bus : Bus) : HvdcpM Unit := pulseIncGap bus pulseGapMs
/-- One step down. -/
def pulseDec (bus : Bus) : HvdcpM Unit := pulseDecGap bus pulseGapMs

/-- Requests 9 V the QC2 way and latches the request. -/
def force9v (bus : Bus) : HvdcpM Unit := do
  let existing ← Proc.unwrapOr (readReg bus Pmic.cmdHvdcp2) 0
  writeReg bus Pmic.cmdHvdcp2 (existing ||| Pmic.bitForce9v)
  Proc.modify fun st => { st with force9vLatched := true, pulseCnt := 20 }
  sleepMs 100

/-- Returns the adapter to 5 V, as far as the bus lets it. -/
def safeForce5v (bus : Bus) : HvdcpM Unit := do
  Proc.discard (writeReg bus Pmic.cmdHvdcp2 Pmic.bitForce5v)
  Proc.modify fun st => { st with force9vLatched := false }

/-- State of the `FORCE_9V` wait. -/
structure Force9vPoll where
  waited : Nat
  deadline : Nat
  extended : Bool
  last : Int
  peak : Int
  confirm : Nat
  deriving DecidableEq, Repr

/-- Judges the newest sample of the wait: `none` ends it. -/
def Force9vPoll.judge (poll : Force9vPoll) : Option Force9vPoll :=
  let poll := { poll with peak := max poll.peak poll.last }
  if (switchingMinVinUv : Int) ≤ poll.last then
    -- confirmed, by this sample and the one before
    if force9vConfirmN ≤ poll.confirm + 1 then none
    else some { poll with confirm := poll.confirm + 1 }
  else
    -- a sample below the gate takes the confirmation back
    let poll := { poll with confirm := 0 }
    match force9vStep poll.last poll.waited poll.deadline poll.extended switchingMinVinUv with
    | .stop => none
    | .extend =>
        some { poll with deadline := force9vExtendedDeadline poll.deadline, extended := true }
    | .continue => some poll

/-- Polls VBUS while the signature is asserted. The answer is the last sample and the peak. -/
def waitForce9vRise : Nat → Force9vPoll → HvdcpM (Int × Int)
  | 0, _ => Proc.diverge
  | fuel + 1, poll =>
      match poll.judge with
      | none => pure (poll.last, max poll.peak poll.last)
      | some poll =>
          -- the cap does not move with the deadline
          if force9vHardCapMs ≤ poll.waited then pure (poll.last, poll.peak)
          else do
            sleepMs force9vPollMs
            let last ← readVin
            waitForce9vRise fuel
              { poll with
                waited := satAdd 32 poll.waited force9vPollMs
                last := last
                peak := max poll.peak last }

/-- Polls the wait can make. -/
def force9vPolls : Nat := force9vHardCapMs / force9vPollMs + 1

/-- Polls until `pred` holds of a sample. -/
def waitVinWindow {ε : Type} (timeoutMs : Nat) (pred : Int → Bool) :
    Nat → Nat → Proc HvdcpEffect ε HvdcpState (Option Int)
  | 0, _ => Proc.diverge
  | fuel + 1, waited => do
      let vin ← readVin
      if pred vin then pure (some vin)
      -- one sample is taken even with the time used up
      else if timeoutMs ≤ waited then pure none
      else
        sleepMs qc35VinPollMs
        waitVinWindow timeoutMs pred fuel (satAdd 32 waited qc35VinPollMs)

/-- Polls a wait of `timeoutMs` can make. -/
def vinPolls (timeoutMs : Nat) : Nat := timeoutMs / qc35VinPollMs + 2

/-! ### QC3.5 authentication -/

/-- Programs that fail without a reason. -/
abbrev AuthM (α : Type) : Type := Proc HvdcpEffect Unit HvdcpState α

/-- One pulse of a train. -/
def pulseAuthStep (bus : Bus) (pulse : Qc35AuthPulse) : AuthM Unit := do
  match ← Proc.attempt
      (match pulse with
      | .inc => pulseIncGap bus qc35AuthPulseGapMs
      | .dec => pulseDecGap bus qc35AuthPulseGapMs) with
  | .ok _ => pure ()
  | .error _ => Proc.fail ()

/-- The pulses of a train, in order. -/
def pulseTrain (bus : Bus) : List Qc35AuthPulse → AuthM Unit
  | [] => pure ()
  | pulse :: rest => do
      pulseAuthStep bus pulse
      pulseTrain bus rest

/-- INC pulses into the detect window, `budget` at most. -/
def prepPulses (bus : Bus) : Nat → Int → AuthM Unit
  | 0, _ => pure ()
  | budget + 1, vin =>
      if qc35DetectWindow vin then pure ()
      else do
        pulseAuthStep bus .inc
        let vin ← readVin
        -- the bus has left the range in which the authentication is safe
        if decideQc35AuthAttempt vin ≠ .attempt then Proc.fail ()
        else prepPulses bus budget vin

/-- Raises a 5 V adapter into the detect window. -/
def prepQc35DetectWindow (bus : Bus) : AuthM Int := do
  let vin ← readVin
  if decideQc35AuthAttempt vin ≠ .attempt then Proc.fail ()
  else
    prepPulses bus qc35PrepMaxInc vin
    match ← waitVinWindow qc35DetectTimeoutMs qc35DetectWindow (vinPolls qc35DetectTimeoutMs) 0 with
    | some vin => pure vin
    | none => Proc.fail ()

/-- Authenticates a QC3.5 source. A failure leaves the QC3 path to the caller. -/
def attemptQc35Authenticate (bus : Bus) : AuthM Nat := do
  Proc.discard (ensureIclFloor500ma bus)
  let _ ← prepQc35DetectWindow bus
  pulseTrain bus qc35SrcCapPulses
  match ← waitVinWindow qc35CapTimeoutMs qc35CapWindow (vinPolls qc35CapTimeoutMs) 0 with
  | none =>
      -- one more sample goes into the record of the miss
      let _ ← readVin
      Proc.fail ()
  | some capVin =>
      match qc35PowerLimitW capVin with
      | none => Proc.fail ()
      | some powerW =>
          pulseTrain bus qc35ConfirmPulses
          Proc.discard (ensureIclAtLeast bus (qc35IclRaw powerW))
          pure powerW

/-! ### Negotiation -/

/-- What was latched before the detection was touched. -/
structure ApsdBefore where
  status : Byte
  result : Byte
  qc : Byte
  deriving DecidableEq, Repr

/-- A QC adapter is already latched: a rerun would demote it. -/
def ApsdBefore.skipsRerun (pre : ApsdBefore) : Bool :=
  let alreadyQc3 :=
    decide (pre.result &&& Pmic.bitQc3 ≠ 0) || decide (pre.qc &&& Pmic.bitQcContinuous ≠ 0)
  let alreadyQc2 :=
    decide (pre.result &&& Pmic.bitQc2 ≠ 0) ||
      (decide (pre.status &&& Pmic.bitQcCharger ≠ 0) && decide (pre.result &&& Pmic.bitDcp ≠ 0)
        && decide (pre.result &&& Pmic.bitQc3 = 0) && !alreadyQc3)
  decide (pre.status &&& Pmic.bitApsdDone ≠ 0) && (alreadyQc3 || alreadyQc2)

/-- The rerun demoted this adapter to a plain DCP. -/
def ApsdBefore.demotedTo (pre : ApsdBefore) (result : Byte) : Bool :=
  (decide (result &&& Pmic.bitQc3 = 0) && decide (pre.result &&& Pmic.bitQc3 ≠ 0)
      && decide (result &&& Pmic.bitDcp ≠ 0)) ||
    (decide (result &&& Pmic.bitQc2 = 0) && decide (pre.result &&& Pmic.bitQc2 ≠ 0)
      && decide (result &&& Pmic.bitDcp ≠ 0))

/-- Reruns the detection and keeps the better of both results. -/
def rerunApsd (bus : Bus) (pre : ApsdBefore) : HvdcpM Unit := do
  setPhase .apsdRerun
  match ← Proc.attempt (writeReg bus Pmic.cmdApsd Pmic.bitApsdRerun) with
  | .error err =>
      setPhase .failed
      Proc.fail err
  | .ok _ =>
      setPhase .apsdWait
      match ← Proc.attempt (waitApsdDone bus apsdPolls 0) with
      | .error err =>
          setPhase .failed
          Proc.fail err
      | .ok _ =>
          let st ← Proc.get
          -- a rerun that demoted the class does not count
          Proc.when (pre.demotedTo st.apsdResult)
            (Proc.modify fun st =>
              { st with apsdResult := pre.result, apsdStatus := pre.status })

/-- INC pulses toward the target, one sample after each. The answer is the last sample. -/
def qc3Raise (bus : Bus) (target ceiling : Int) : Nat → Int → HvdcpM Unit
  | 0, _ => pure ()
  | want + 1, vin => do
      let st ← Proc.get
      if maxPulseCnt ≤ st.pulseCnt ∨ target ≤ vin then pure ()
      else
        match ← Proc.attempt (pulseInc bus) with
        | .error err =>
            setPhase .failed
            -- a pulse that fails: back to 5 V
            safeForce5v bus
            Proc.fail err
        | .ok _ =>
            let vin ← readVin
            -- the pulse overshot the window, so no more go out
            if vin > ceiling then pure ()
            else qc3Raise bus target ceiling want vin

/-- Authentication first, then the QC3 raise. -/
def elevateQc3 (bus : Bus) (vbatUv : Nat) : HvdcpM Unit := do
  setPhase .qc35Auth
  Proc.discard (attemptQc35Authenticate bus)
  setPhase .qc3Pulse
  let vin ← readVin
  qc3Raise bus (asI32 (targetVbusUv vbatUv)) (trimTargetUv vbatUv) (pulsesTowardTarget vbatUv)
    vin

/-- Requests 9 V and votes the current of a QC2 adapter. -/
def requestForce9v (bus : Bus) : HvdcpM Unit := do
  setPhase .qc2Force9v
  match ← Proc.attempt (force9v bus) with
  | .error err =>
      setPhase .failed
      safeForce5v bus
      Proc.fail err
  | .ok _ => Proc.discard (ensureIclAtLeast bus iclRawHvdcp21p5a)

/-- Counts samples in a row above the 2:1 gate, `tries` samples at most. The answer is the
last sample and the count. -/
def confirmHold : Nat → Int → Nat → HvdcpM (Int × Nat)
  | 0, vin, hold => pure (vin, hold)
  | tries + 1, vin, hold =>
      -- two samples in a row above the gate
      let hold := if (switchingMinVinUv : Int) ≤ vin then hold + 1 else 0
      if 2 ≤ hold then pure (vin, hold)
      else do
        sleepMs force9vPollMs
        let vin ← readVin
        confirmHold tries vin hold

/-- INC pulses of the fallback, until the target or the budget. A failed pulse ends it. -/
def dcpRaise (bus : Bus) (target : Int) : Nat → Int → HvdcpM Int
  | 0, vin => pure vin
  | budget + 1, vin => do
      let st ← Proc.get
      if target ≤ vin ∨ maxPulseCnt ≤ st.pulseCnt then pure vin
      else
        match ← Proc.attempt (pulseInc bus) with
        -- a pulse that fails ends the raise, at what was reached
        | .error _ => pure vin
        | .ok _ =>
            let vin ← readVin
            dcpRaise bus target budget vin

/-- A plain DCP: one bounded `FORCE_9V`, then pulses, then the 5 V current. -/
def elevateDcp (bus : Bus) (vbatUv : Nat) : HvdcpM Unit := do
  requestForce9v bus
  let first ← readVin
  let _ ← waitForce9vRise force9vPolls
    { waited := 0, deadline := force9vSettleMs, extended := false, last := first, peak := first,
      confirm := 0 }
  let after ← readVin
  let (vin, hold) ← confirmHold 4 after 0
  if hold < 2 then
    -- 9 V did not hold: back to 5 V, then pulses as for QC 3.0
    safeForce5v bus
    Proc.modify fun st => { st with pulseCnt := 0 }
    let vin ← dcpRaise bus (asI32 (targetVbusUv vbatUv)) maxPulseCnt vin
    -- the pulses did nothing: a plain DCP at 5 V and 2 A
    if vin < force9vRiseUv then
      safeForce5v bus
      Proc.discard (ensureIclAtLeast bus iclRawDcp2a)
    else Proc.discard (ensureIclAtLeast bus iclRawHvdcp21p5a)
  else pure ()

/-- Runs `x` and marks the machine failed when it fails. -/
def orFailed {α : Type} (x : HvdcpM α) : HvdcpM α := do
  match ← Proc.attempt x with
  | .ok value => pure value
  | .error err =>
      setPhase .failed
      Proc.fail err

/-- Core negotiation over an open bus. -/
def negotiateOnBus (bus : Bus) (vbatUv : Nat) : HvdcpM Unit := do
  Proc.modify fun st => { st with pulseCnt := 0 }
  clearUsbinLatched bus
  clearUsbinSuspend bus
  let _ ← orFailed (clearApsdCcGate bus)
  Proc.discard (ensureIclFloor500ma bus)
  Proc.discard (ensureHvdcpVoltageGates bus)
  -- what the PMIC had found before, zero where it cannot be read
  let status ← Proc.unwrapOr (readReg bus Pmic.apsdStatus) 0
  let result ← Proc.unwrapOr (readReg bus Pmic.apsdResult) 0
  let qc ← Proc.unwrapOr (readReg bus Pmic.qcChangeStatus) 0
  let pre : ApsdBefore := { status, result, qc }
  setPhase .enable
  orFailed (enableHvdcp bus)
  sleepMs enableSettleMs
  -- a rerun would demote the Quick Charge class that is latched
  if pre.skipsRerun then
    Proc.modify fun st => { st with apsdStatus := pre.status, apsdResult := pre.result }
  else rerunApsd bus pre
  Proc.modify fun st =>
    { st with apsdResult := promoteQcCharger st.apsdResult st.apsdStatus }
  let st ← Proc.get
  match apsdElevatePath st.apsdResult (decide (pre.qc &&& Pmic.bitQcContinuous ≠ 0)) with
  | .qc3Pulse => elevateQc3 bus vbatUv
  | .force9v =>
      if st.apsdResult &&& Pmic.bitQc2 ≠ 0 then requestForce9v bus else elevateDcp bus vbatUv
  -- neither a Quick Charge class nor a DCP
  | .reject =>
      setPhase .failed
      Proc.fail .notQcAdapter
  Proc.discard (sampleQcStatus bus)
  setPhase .done

/-- The secondary transport, when an overlay exposes it. -/
def negotiateUsbin (usbinId : Option Nat) (vbatUv : Nat) : HvdcpM Unit :=
  match usbinId with
  -- the device got no second connection: nothing is transferred
  | none => do
      Proc.modify fun st => { st with phase := .failed, transport := .none }
      Proc.fail .usbinUnavailable
  | some id => do
      let ok : Bool ← usbinOpen id
      if !ok then
        setPhase .failed
        Proc.fail .busOpenFailed
      else
        orFailed resolveEndianUsbin
        Proc.modify fun st => { st with transport := .usbinRh }
        negotiateOnBus .usbin vbatUv

/-- Full negotiation: SUPERUSER first, the Usbin hub second. -/
def runNegotiate (usbinId : Option Nat) (vbatUv : Nat) : HvdcpM Unit := do
  Proc.modify fun st => { st with phase := .enable, transport := .none }
  let ok : Bool ← superuserOpen
  let granted : Bool ← if ok then spmi (.superuserGrant spmiPeriUsbin) else pure false
  if granted then
    Proc.modify fun st =>
      { st with transport := .superuser, endianKnown := true, bigEndian := true }
    negotiateOnBus .superuser vbatUv
  -- without the grant the USBIN device is the only way
  else negotiateUsbin usbinId vbatUv

/-! ### Bus corrections -/

/-- Runs `body` on the first transport that opens, `fallback` when none does. -/
def onFirstBus {α : Type} (usbinId : Option Nat) (body : Bus → HvdcpM α) (fallback : α) :
    HvdcpM α := do
  let ok : Bool ← superuserOpen
  if ok then
    Proc.modify fun st => { st with transport := .superuser }
    -- here the SUPERUSER bus is taken without a grant
    body .superuser
  else
    match usbinId with
    | none => pure fallback
    | some id =>
        let ok : Bool ← usbinOpen id
        if ok then body .usbin else pure fallback

/-- DEC pulses while the estimate is above `stop` and `floor`. The answer is their count. -/
def trimLoop (bus : Bus) (stop floor : Int) : Nat → Int → Nat → HvdcpM Nat
  | 0, _, dec => pure dec
  | budget + 1, vin, dec =>
      if vin > stop ∧ vin > floor then do
        match ← Proc.attempt (pulseDec bus) with
        | .error _ => pure dec
        | .ok _ => trimLoop bus stop floor budget (satI32 (vin - qc3StepUv)) (dec + 1)
      else pure dec

/-- Lowers VBUS to the target. The answer is the number of pulses. -/
def trimVinForPump (usbinId : Option Nat) (vinUv : Int) (vbatUv : Nat) : HvdcpM Nat :=
  let stop := asI32 (targetVbusUv vbatUv)
  if vinUv ≤ stop then pure 0
  else
    onFirstBus usbinId
      (fun bus => trimLoop bus stop (hvdcpWindowFloorUv vbatUv) maxTrimDec vinUv 0) 0

/-- INC pulses while the estimate is below `stop`, none past `top`. The answer is their
count. -/
def boostLoop (bus : Bus) (stop top : Int) : Nat → Int → Nat → HvdcpM Nat
  | 0, _, inc => pure inc
  | budget + 1, vin, inc =>
      if vin < stop then do
        match ← Proc.attempt (pulseInc bus) with
        | .error _ => pure inc
        | .ok _ =>
            let vin := satI32 (vin + qc3StepUv)
            -- the estimate is past the band: the pulse counts, and no more go out
            if vin > top then pure (inc + 1) else boostLoop bus stop top budget vin (inc + 1)
      else pure inc

/-- Raises VBUS to the target. The answer is the number of pulses. -/
def boostVinForPump (usbinId : Option Nat) (vinUv : Int) (vbatUv : Nat) : HvdcpM Nat :=
  let stop := asI32 (targetVbusUv vbatUv)
  if stop ≤ vinUv then pure 0
  else
    onFirstBus usbinId
      (fun bus => boostLoop bus stop (trimTargetUv vbatUv) maxBoostInc vinUv 0) 0

/-- A single DEC pulse: `1` when it was sent. -/
def oneDecPulse (usbinId : Option Nat) : HvdcpM Nat :=
  onFirstBus usbinId
    (fun bus => do
      match ← Proc.attempt (pulseDec bus) with
      | .ok _ => pure 1
      | .error _ => pure 0)
    0

/-- One closed-loop correction toward the transfer band. The answer is the number of
pulses. -/
def nudgeVinIntoWindow (usbinId : Option Nat) (vinUv : Int) (vbatUv : Nat)
    (deadCurrent : Bool) : HvdcpM Nat := do
  let st ← Proc.get
  if vinUv ≤ 0 ∨ vbatUv = 0 then pure 0
  -- under the 9 V latch the bus does not follow pulses
  else if st.force9vLatched then pure 0
  else if vinUv > trimTargetUv vbatUv then trimVinForPump usbinId vinUv vbatUv
  else if vinUv < asI32 (targetVbusUv vbatUv) ∧
      (deadCurrent = true ∨ vinUv < hvdcpWindowFloorUv vbatUv) then
    boostVinForPump usbinId vinUv vbatUv
  -- in the band without a current: one step down, as the chip's band is not the computed one
  else if deadCurrent = true ∧ vinUv > hvdcpWindowFloorUv vbatUv then oneDecPulse usbinId
  else pure 0

/-- Raises the input current limit on the first transport that takes it, `0` when none
does. -/
def raiseIcl (usbinId : Option Nat) (target : Byte) : HvdcpM Byte := do
  let ok : Bool ← superuserOpen
  let first : Except HvdcpError Byte ←
    if ok then do
      Proc.modify fun st => { st with transport := .superuser }
      Proc.attempt (ensureIclAtLeast .superuser target)
    else pure (.error .spmiIo)
  match first with
  | .ok icl => pure icl
  -- the SUPERUSER bus was missing or failed: the USBIN device is tried
  | .error _ =>
      match usbinId with
      | none => pure 0
      | some id =>
          let ok : Bool ← usbinOpen id
          if ok then Proc.unwrapOr (ensureIclAtLeast .usbin target) 0 else pure 0

/-- Input current of a 2:1 pump. -/
def raiseIclForPump (usbinId : Option Nat) : HvdcpM Byte := raiseIcl usbinId iclRawPump3a

/-- Input current of the 5 V bypass, the retreat of a brick that does not rise. -/
def raiseIclFor5vBypass (usbinId : Option Nat) : HvdcpM Byte := do
  setPhase .fiveVBypass
  raiseIcl usbinId iclRaw5v2p7a

end Kmdf
