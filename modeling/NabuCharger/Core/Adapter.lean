import NabuCharger.Logic.Word

/-!
# `Core.Adapter`: adapter types and the current they may draw

The charger core reads two registers of the USBIN peripheral, `APSD_STATUS` and
`APSD_RESULT_STATUS`, and maps them to an adapter type (`AdapterType.decode`, after
`smblib_get_apsd_result`). The type selects a policy: the input current limit, and the voltage
to ask of a Quick Charge adapter (`policyFor`).

The errors of the core stand here too, because the decoder returns them.
-/

set_option autoImplicit false

namespace ChargerCore

open Effectful

/-! ### Registers -/

/-- Register address in the peripheral space. -/
abbrev RegAddr : Type := BitVec 16

/-- Base of the USB input peripheral. -/
def usbinBase : RegAddr := 0x1300
/-- State of the machine that detects the adapter. -/
def apsdStatus : RegAddr := usbinBase + 0x07
/-- The detection is complete. -/
def apsdDtcStatusDone : Byte := bit 0
/-- The adapter can do Quick Charge. -/
def qcCharger : Byte := bit 1
/-- The check for a high-voltage adapter ran out of time. -/
def hvdcpCheckTimeout : Byte := bit 6
/-- Result of the detection. -/
def apsdResultStatus : RegAddr := usbinBase + 0x08
/-- The bits of the result that name the adapter. -/
def apsdResultStatusMask : Byte := 0b01111111
/-- Commands to the detection. -/
def cmdApsd : RegAddr := usbinBase + 0x41
/-- The bit that reruns it. -/
def apsdRerun : Byte := bit 0
/-- Forced input current limit. -/
def cmdIclOverride : RegAddr := usbinBase + 0x42
/-- The bit that enables the forced limit. -/
def iclOverride : Byte := bit 0
/-- The forced limit also holds after a detection. -/
def iclOverrideAfterApsd : Byte := bit 4
/-- Voltage of Quick Charge 2. -/
def hvdcpPulseCountMax : RegAddr := usbinBase + 0x5B
/-- The two bits that select it. -/
def qc2VoltageMask : Byte := 0b11000000
/-- Code of the input current limit. -/
def usbinCurrentLimitCfg : RegAddr := usbinBase + 0x70

/-- Result pattern of a standard port. -/
def patternSdp : Byte := bit 0
/-- Result pattern of another port. -/
def patternOcp : Byte := bit 1
/-- Result pattern of a charging and data port. -/
def patternCdp : Byte := bit 2
/-- Result pattern of a port that only charges. -/
def patternDcp : Byte := bit 3
/-- Result pattern of a source that is no standard port. -/
def patternFloat : Byte := bit 4
/-- Flag of Quick Charge 2.0 in a pattern. -/
def patternQc2p0 : Byte := bit 5
/-- Flag of Quick Charge 3.0 in a pattern. -/
def patternQc3p0 : Byte := bit 6
/-- A charging port with the flag of Quick Charge 2.0. -/
def patternHvdcp2 : Byte := patternDcp ||| patternQc2p0
/-- A charging port with the flag of Quick Charge 3.0. -/
def patternHvdcp3 : Byte := patternDcp ||| patternQc3p0

/-! ### Errors -/

/-- Transport failure category. -/
inductive TransportErrorKind
  | io
  | timeout
  | disconnected
  | protocol
  | unsupported
  deriving DecidableEq, Repr

/-- Short category name for the journal. -/
def TransportErrorKind.asStr : TransportErrorKind → String
  | .io => "io"
  | .timeout => "timeout"
  | .disconnected => "disconnected"
  | .protocol => "protocol"
  | .unsupported => "unsupported"

/-- A register could not be read or written. -/
structure TransportError where
  kind : TransportErrorKind
  /-- Platform code, `0` if none. -/
  code : Int
  detail : String
  deriving DecidableEq, Repr

/-- The error of a link that is gone. -/
def TransportError.disconnected (detail : String) : TransportError := ⟨.disconnected, 0, detail⟩

/-- Driver error. -/
inductive ChargerError
  | transport (err : TransportError)
  | notOpen
  | alreadyOpen
  | detectionNotComplete
  | detectionTimeout (waitedMs : Nat)
  | unknownAdapterPattern (raw : Byte)
  | adapterCheckTimeout (rawStatus : Byte)
  | currentOutOfRange (requestedUa maxUa : Nat)
  | verifyFailed (addr : RegAddr) (wrote read : Byte)
  | deviceFault (status : Byte)
  deriving DecidableEq, Repr

/-- Short stable error name for the journal. -/
def ChargerError.code : ChargerError → String
  | .transport _ => "transport"
  | .notOpen => "not_open"
  | .alreadyOpen => "already_open"
  | .detectionNotComplete => "detection_not_complete"
  | .detectionTimeout _ => "detection_timeout"
  | .unknownAdapterPattern _ => "unknown_adapter_pattern"
  | .adapterCheckTimeout _ => "adapter_check_timeout"
  | .currentOutOfRange _ _ => "current_out_of_range"
  | .verifyFailed _ _ _ => "verify_failed"
  | .deviceFault _ => "device_fault"

/-! ### Adapter types -/

/-- Type of the connected power adapter. -/
inductive AdapterType
  | unknown
  | sdp
  | ocp
  | cdp
  | dcp
  | float
  | hvdcp2
  | hvdcp3
  | hvdcp3p5
  deriving DecidableEq, Repr

/-- Quick Charge 3.5 support on the platform. -/
inductive Qc35Support
  | unsupported
  | supported (authenticated : Bool)
  deriving DecidableEq, Repr

namespace AdapterType

/-- Stable short name for the journal. -/
def label : AdapterType → String
  | .unknown => "UNKNOWN"
  | .sdp => "SDP"
  | .ocp => "OCP"
  | .cdp => "CDP"
  | .dcp => "DCP"
  | .float => "FLOAT"
  | .hvdcp2 => "HVDCP2"
  | .hvdcp3 => "HVDCP3"
  | .hvdcp3p5 => "HVDCP3P5"

/-- Parses a pattern without considering the Quick Charge flag. -/
def fromPattern (raw : Byte) : Except ChargerError AdapterType :=
  if raw = 0 then .ok .unknown
  else if raw = patternSdp then .ok .sdp
  else if raw = patternOcp then .ok .ocp
  else if raw = patternCdp then .ok .cdp
  else if raw = patternDcp then .ok .dcp
  else if raw = patternFloat then .ok .float
  else if raw = patternHvdcp2 then .ok .hvdcp2
  else if raw = patternHvdcp3 then .ok .hvdcp3
  -- two bits at once, or one of no adapter
  else .error (.unknownAdapterPattern raw)

/-- The base type, refined when the Quick Charge bit is set. Type 3.5 needs authentication. -/
def refined (base : AdapterType) (qc35 : Qc35Support) : AdapterType :=
  match base with
  | .hvdcp3p5 => .hvdcp3p5
  | .hvdcp3 => if qc35 = .supported true then .hvdcp3p5 else .hvdcp3
  | _ => .hvdcp2

/-- Full parse of the two detection registers. -/
def decode (status result : Byte) (qc35 : Qc35Support) : Except ChargerError AdapterType :=
  if status &&& apsdDtcStatusDone = 0 then .error .detectionNotComplete
  else if status &&& hvdcpCheckTimeout ≠ 0 then .error (.adapterCheckTimeout status)
  else
    match fromPattern (result &&& apsdResultStatusMask) with
    | .error err => .error err
    | .ok base => if status &&& qcCharger = 0 then .ok base else .ok (refined base qc35)

/-- A pattern either has a type or is reported as unknown. -/
theorem fromPattern_cases (raw : Byte) :
    (∃ base, fromPattern raw = .ok base) ∨
      fromPattern raw = .error (.unknownAdapterPattern raw) := by
  simp only [fromPattern]
  repeat' split
  all_goals first | exact .inl ⟨_, rfl⟩ | exact .inr rfl

/-- What the decoder says of the two registers. -/
theorem decode_cases (status result : Byte) (qc35 : Qc35Support) :
    (status &&& apsdDtcStatusDone = 0 ∧ decode status result qc35 = .error .detectionNotComplete) ∨
    (status &&& apsdDtcStatusDone ≠ 0 ∧ (
      decode status result qc35 = .error (.adapterCheckTimeout status) ∨
      (∃ raw, decode status result qc35 = .error (.unknownAdapterPattern raw)) ∨
      ∃ adapter, decode status result qc35 = .ok adapter)) := by
  by_cases hdone : status &&& apsdDtcStatusDone = 0
  · exact .inl ⟨hdone, if_pos hdone⟩
  · refine .inr ⟨hdone, ?_⟩
    simp only [decode, if_neg hdone]
    -- the timeout bit is looked at before the result byte
    by_cases hcheck : status &&& hvdcpCheckTimeout = 0
    · simp only [hcheck, ne_eq, not_true_eq_false, if_false]
      rcases fromPattern_cases (result &&& apsdResultStatusMask) with ⟨base, hbase⟩ | herr
      · rw [hbase]
        refine .inr (.inr ?_)
        -- the Quick Charge bit only refines an adapter already found
        by_cases hqc : status &&& qcCharger = 0
        · exact ⟨base, if_pos hqc⟩
        · exact ⟨refined base qc35, if_neg hqc⟩
      · rw [herr]
        exact .inr (.inl ⟨_, rfl⟩)
    · exact .inl (if_pos hcheck)

end AdapterType

/-! ### Policy -/

/-- The lowest input current limit. -/
def minIclUa : Nat := 100000
/-- The highest limit the core applies. -/
def maxIclUa : Nat := 4500000
/-- Limit of a standard port. -/
def iclSdpUa : Nat := 500000
/-- Limit of a port that only charges. -/
def iclDcpUa : Nat := 1500000
/-- Limit of a charging and data port. -/
def iclCdpUa : Nat := 1500000
/-- Limit of an adapter of version 2. -/
def iclHvdcp2Ua : Nat := 1500000
/-- Limit of an adapter of version 3. -/
def iclHvdcp3Ua : Nat := 3000000
/-- Limit of an adapter of version 3.5, on the buck alone. -/
def iclHvdcp3p5SmbUa : Nat := 3000000

/-- Voltage requested from a Quick Charge adapter. -/
inductive Qc2Voltage
  | v5
  | v9
  | v12
  deriving DecidableEq, Repr

/-- Bits 7:6 of `HVDCP_PULSE_COUNT_MAX`. -/
def Qc2Voltage.raw : Qc2Voltage → Byte
  | .v5 => 0x00
  | .v9 => 0x40
  | .v12 => 0x80

/-- Short name of a voltage. -/
def Qc2Voltage.label : Qc2Voltage → String
  | .v5 => "5V"
  | .v9 => "9V"
  | .v12 => "12V"

/-- Decision for an identified adapter. -/
structure ChargePolicy where
  iclUa : Nat
  qc2Voltage : Option Qc2Voltage
  /-- The charge pump may be attached as a second stage. -/
  pumpEligible : Bool
  rationale : String
  deriving DecidableEq, Repr

/-- The policy for an adapter type. An unknown source gets the minimum. -/
def policyFor (adapter : AdapterType) (qc35 : Qc35Support) : ChargePolicy :=
  match adapter with
  | .sdp => ⟨iclSdpUa, none, false, "standard USB port, 500 mA limit"⟩
  | .cdp => ⟨iclCdpUa, none, false, "charging port with data, BC1.2 1.5 A"⟩
  | .dcp => ⟨iclDcpUa, none, false, "charging-only port, BC1.2 1.5 A"⟩
  -- what was not identified gets the least the grid offers
  | .ocp | .float | .unknown =>
      ⟨minIclUa, none, false, "source not identified, minimum safe current"⟩
  | .hvdcp2 => ⟨iclHvdcp2Ua, some .v9, false, "Quick Charge 2.0, 9 V and 1.5 A"⟩
  | .hvdcp3 =>
      ⟨iclHvdcp3Ua, some .v9, true, "Quick Charge 3.0, 9 V and 3 A, charge pump possible"⟩
  -- the pump is offered only where the configuration supports it for this class
  | .hvdcp3p5 =>
      ⟨iclHvdcp3p5SmbUa, some .v9, qc35 == .supported true,
        "Quick Charge 3.5, the tablet's own power brick"⟩

/-- No policy asks for more than the core allows by default. -/
theorem policyFor_iclUa_le (adapter : AdapterType) (qc35 : Qc35Support) :
    (policyFor adapter qc35).iclUa ≤ maxIclUa := by
  cases adapter <;> simp [policyFor, maxIclUa, minIclUa, iclSdpUa, iclDcpUa, iclCdpUa,
    iclHvdcp2Ua, iclHvdcp3Ua, iclHvdcp3p5SmbUa]

end ChargerCore
