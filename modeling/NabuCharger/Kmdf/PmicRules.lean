import NabuCharger.Kmdf.Adapter
import NabuCharger.Kmdf.Detection
import NabuCharger.Kmdf.VinTrace
import NabuCharger.Logic.Cost
import NabuCharger.Logic.Fields

/-!
# `Kmdf.PmicRules`: what the Quick Charge machine writes, and how long it sleeps

The registers of the input belong to the PMIC and its firmware. The driver has a few bits in some
of them (`pmicFields`), the step register, the input current limit, and three commands.
`PmicWrite` is the write it may make: a field is merged into the value that was read, the current
limit is only raised, a step changes the step bits alone. `pmicWatch` keeps what was read of each
register since the driver last wrote it (`PmicSeen`), so a write that may be made is one from a
fresh value.

Every program has one lemma. It says that the program makes only such writes,
and how many milliseconds it sleeps at most (`Owned`).
-/

set_option autoImplicit false

namespace Kmdf

open Effectful Ln8000

/-! ### The writes -/

/-- What the driver has read of each register since it last wrote it. -/
abbrev PmicSeen : Type := PmicAddr → Option Byte

namespace PmicSeen

/-- Nothing was read yet. -/
def start : PmicSeen := fun _ => none

/-- A read shows what the register holds, a write makes that worthless. -/
def spmi (m : PmicSeen) : (o : SpmiOp) → o.Resp → PmicSeen
  | .superuserRead addr => fun answer => Function.update m addr answer
  | .superuserWrite addr _ => fun _ => Function.update m addr none
  | .usbinTransact addr none _ => fun answer => Function.update m addr answer
  | .usbinTransact addr (some _) _ => fun _ => Function.update m addr none
  | _ => fun _ => m

/-- The same for the operations of a negotiation. -/
def next (m : PmicSeen) : (o : HvdcpOp) → HvdcpEffect.Resp o → PmicSeen
  | .spmi o => m.spmi o
  | .readVin => fun _ => m

end PmicSeen

/-- The bits of the configuration registers that the negotiation sets, with what it sets them
to. -/
def pmicFields : List (Effectful.Field PmicAddr) :=
  [⟨"USBIN_SUSPEND", Pmic.usbinCmdIl, Pmic.bitUsbinSuspend, 0⟩,
    ⟨"BC1P2_START_ON_CC", Pmic.typeCCfg, Pmic.bitBc1p2StartOnCc, 0⟩,
    ⟨"ADAPTER_ALLOW", Pmic.usbinAdapterAllow, Pmic.maskUsbinAdapterAllow,
      Pmic.usbinAdapterAllow5vTo12v⟩,
    ⟨"PULSE_COUNT_MAX_QC2", Pmic.hvdcpPulseCountMax, Pmic.maskHvdcpPulseCountMaxQc2,
      Pmic.hvdcpPulseCountMaxQc29v⟩,
    ⟨"HVDCP_OPTIONS", Pmic.usbinOptions1,
      Pmic.bitHvdcpEn ||| Pmic.bitHvdcpAuthAlgEn ||| Pmic.bitBc1p2SrcDetect
        ||| Pmic.bitHvdcpAutonomous,
      Pmic.bitHvdcpEn ||| Pmic.bitHvdcpAuthAlgEn ||| Pmic.bitBc1p2SrcDetect⟩]

/-- The writes the driver may make, by what it has read. -/
inductive PmicWrite (seen : PmicSeen) : PmicAddr → Byte → Prop
  | clearLatched : PmicWrite seen Pmic.intLatchedClr 0xFF
  | apsdRerun : PmicWrite seen Pmic.cmdApsd Pmic.bitApsdRerun
  | iclOverride : PmicWrite seen Pmic.cmdIclOverride Pmic.bitIclOverride
  /-- The rest of the register stays as it was read. -/
  | field {field : Effectful.Field PmicAddr} {old : Byte} (hfield : field ∈ pmicFields)
      (hread : seen field.addr = some old) :
      PmicWrite seen field.addr (mergeBits old field.mask field.value)
  /-- The limit goes up, to 3 A at most. -/
  | icl {old value : Byte} (hread : seen Pmic.usbinIclCfg = some old) (hraise : old < value)
      (hmax : value ≤ iclRawPump3a) : PmicWrite seen Pmic.usbinIclCfg value
  /-- One step. A register that could not be read counts as zero. -/
  | step {stepBit : Byte} (hstep : stepBit = Pmic.bitSingleInc ∨ stepBit = Pmic.bitSingleDec) :
      PmicWrite seen Pmic.cmdHvdcp2
        (mergeBits ((seen Pmic.cmdHvdcp2).getD 0) Pmic.stepBits stepBit)
  | force9v : PmicWrite seen Pmic.cmdHvdcp2 ((seen Pmic.cmdHvdcp2).getD 0 ||| Pmic.bitForce9v)
  | force5v : PmicWrite seen Pmic.cmdHvdcp2 Pmic.bitForce5v

/-- Asks that every write of the PMIC is one the driver may make. -/
abbrev pmicWatch : Machine HvdcpEffect where
  State := PmicSeen
  allow _ _ _ := True
  require m
    | .spmi o => ∀ addr value, o.write? = some (addr, value) → PmicWrite m addr value
    | .readVin => True
  next := PmicSeen.next

/-- The watch assumes nothing of the answers. -/
theorem pmicWatch_allowed (t : List (Event HvdcpEffect)) :
    ∀ m, pmicWatch.Allowed m t := by
  induction t with
  | nil => exact fun _ => trivial
  | cons e t ih => exact fun _ => ⟨trivial, ih _⟩

/-- The price of an operation is the time it sleeps. -/
abbrev pauseMs : HvdcpEffect.Op → Nat := HvdcpOp.sleepMs

/-- The cost of a trace is the time slept in it. -/
theorem cost_pauseMs (t : List (Event HvdcpEffect)) : cost pauseMs t = sleptMs t := by
  induction t with
  | nil => rfl
  | cons e t ih =>
      rw [cost_cons, ih]
      rfl

/-- Nothing is known of the state or of the registers. -/
abbrev AnySeen : HvdcpState → pmicWatch.State → Prop := fun _ _ => True

/-- The register was read, and the answer has not been used yet. -/
abbrev SeenAs (addr : PmicAddr) (answer : Option Byte) : HvdcpState → pmicWatch.State → Prop :=
  fun _ m => m addr = answer

/-- The program makes only writes the driver may make, and sleeps `n` milliseconds at most. -/
abbrev Owned {ε α : Type} (n : Nat) (x : Proc HvdcpEffect ε HvdcpState α) : Prop :=
  Proc.Costs pmicWatch pauseMs AnySeen AnySeen n x

section
variable {ε α : Type} {n k : Nat}

/-! ### Operations -/

/-- A change of the state writes nothing. -/
theorem owned_modify (f : HvdcpState → HvdcpState) :
    Owned 0 (Proc.modify f : Proc HvdcpEffect ε HvdcpState Unit) :=
  Proc.Costs.modify fun _ _ h => h

/-- Neither does the phase. -/
theorem owned_setPhase (phase : HvdcpPhase) :
    Owned 0 (setPhase phase : Proc HvdcpEffect ε HvdcpState Unit) :=
  owned_modify _

/-- A program that is run on a condition. -/
theorem owned_when {c : Bool} {x : Proc HvdcpEffect ε HvdcpState Unit} (hx : Owned n x) :
    Owned n (Proc.when c x) :=
  Proc.Costs.ite (fun _ => hx) fun _ => (Proc.Costs.pure ()).mono (Nat.zero_le n)

/-- An operation that writes nothing. -/
theorem owned_spmi {o : SpmiOp} (ho : o.write? = none) :
    Owned (HvdcpOp.spmi o).sleepMs (spmi o : Proc HvdcpEffect ε HvdcpState o.Resp) := by
  refine Proc.Costs.perform (E := HvdcpEffect) (o := .spmi o) fun s m _ => ⟨?_, fun _ _ => trivial⟩
  intro addr value hwrite
  rw [ho] at hwrite
  cases hwrite

/-- A pause costs its length. -/
theorem owned_sleepMs (ms : Nat) :
    Owned ms (sleepMs ms : Proc HvdcpEffect ε HvdcpState Unit) :=
  owned_spmi (o := .sleep ms) rfl

/-- A sample costs no pause. -/
theorem owned_readVin : Owned 0 (readVin : Proc HvdcpEffect ε HvdcpState Int) :=
  Proc.Costs.perform (E := HvdcpEffect) (o := .readVin) fun _ _ _ => ⟨trivial, fun _ _ => trivial⟩

/-- A read, with what follows it: the register was read with the answer. -/
theorem owned_read {Q : Except HvdcpError Byte → HvdcpState → PmicSeen × Nat → Prop} {bus : Bus}
    {addr : PmicAddr} {limit spent : Nat} {s : HvdcpState} {m : PmicSeen}
    (h : ∀ answer : Option Byte, Q (answer.elim (.error .spmiIo) .ok) s
      (Function.update m addr answer, spent)) (hlimit : spent ≤ limit) :
    (readReg bus addr).wp (pmicWatch.metered pauseMs limit) Q s (m, spent) := by
  -- both paths read the same register, and neither read costs time
  cases bus with
  | superuser =>
      refine (Proc.wp_perform_bind (M := pmicWatch.metered pauseMs limit) s (m, spent)
        (.spmi (.superuserRead addr)) _ _).2 ⟨⟨fun _ _ hwrite => (by cases hwrite), hlimit⟩, ?_⟩
      intro (answer : Option Byte) _
      have hanswer := h answer
      cases answer with
      | some read => exact (Proc.wp_pure _ s _ read).2 hanswer
      | none => exact (Proc.wp_fail _ s _ _).2 hanswer
  | usbin =>
      refine (Proc.wp_get_bind (M := pmicWatch.metered pauseMs limit) s (m, spent) _ _).2 ?_
      refine (Proc.wp_perform_bind (M := pmicWatch.metered pauseMs limit) s (m, spent)
        (.spmi (.usbinTransact addr none s.bigEndian)) _ _).2
        ⟨⟨fun _ _ hwrite => (by cases hwrite), hlimit⟩, ?_⟩
      intro (answer : Option Byte) _
      have hanswer := h answer
      cases answer with
      | some read => exact (Proc.wp_pure _ s _ read).2 hanswer
      | none => exact (Proc.wp_fail _ s _ _).2 hanswer

/-- Reading is always allowed. -/
theorem owned_readReg (bus : Bus) (addr : PmicAddr) : Owned 0 (readReg bus addr) :=
  ⟨returns_closed.readReg bus addr,
    fun _ _ _ _ _ hlimit => owned_read (fun _ => ⟨trivial, Nat.le_refl _⟩) hlimit⟩

/-- What follows a read may rely on it. -/
theorem owned_readReg_bind {bus : Bus} {addr : PmicAddr} {f : Byte → HvdcpM α}
    (hf : ∀ old, Proc.Costs pmicWatch pauseMs (SeenAs addr (some old)) AnySeen n (f old)) :
    Owned n (readReg bus addr >>= f) := by
  have hreturns := (returns_closed.readReg bus addr).bind fun old => (hf old).returns
  refine ⟨hreturns, fun limit s m spent _ hlimit => ?_⟩
  refine (Proc.wp_bind (M := pmicWatch.metered pauseMs limit) s (m, spent) _ f _).2 ?_
  refine owned_read (fun answer => ?_) (by omega)
  -- A read that fails ends the program, so only a value has to be paid for.
  cases answer with
  | none => exact ⟨trivial, by simp⟩
  | some old => exact (hf old).run limit s _ spent (Function.update_self ..) hlimit

/-- So may what follows a read whose failure counts as zero. -/
theorem owned_readOrZero_bind {bus : Bus} {addr : PmicAddr} {f : Byte → HvdcpM α}
    (hf : ∀ answer : Option Byte, Proc.Costs pmicWatch pauseMs (SeenAs addr answer)
      AnySeen n (f (answer.getD 0))) :
    Owned n (Proc.unwrapOr (readReg bus addr) 0 >>= f) := by
  have hreturns := ((returns_closed.readReg bus addr).unwrapOr 0).bind fun read =>
    (hf (some read)).returns
  refine ⟨hreturns, fun limit s m spent _ hlimit => ?_⟩
  refine (Proc.wp_unwrapOr_bind (M := pmicWatch.metered pauseMs limit) s (m, spent)
    _ 0 f _).2 (owned_read (fun answer => ?_) (by omega))
  have hseen : SeenAs addr answer s (Function.update m addr answer) := Function.update_self ..
  have hrest := (hf answer).run limit s (Function.update m addr answer) spent hseen hlimit
  cases answer <;> exact hrest

/-- So may what follows a read whose failure is looked at. -/
theorem owned_tryRead_bind {ε' : Type} {bus : Bus} {addr : PmicAddr}
    {f : Except HvdcpError Byte → Proc HvdcpEffect ε' HvdcpState α}
    (hf : ∀ result, Proc.Costs pmicWatch pauseMs (SeenAs addr result.toOption) AnySeen n
      (f result)) :
    Owned n (Proc.attempt (readReg bus addr) >>= f) := by
  have hreturns := (returns_closed.readReg bus addr).attempt.bind fun result =>
    (hf result).returns
  refine ⟨hreturns, fun limit s m spent _ hlimit => ?_⟩
  refine (Proc.wp_attempt_bind (M := pmicWatch.metered pauseMs limit) s (m, spent) _ f _).2
    (owned_read (fun answer => ?_) (by omega))
  have hseen : SeenAs addr answer s (Function.update m addr answer) := Function.update_self ..
  cases answer with
  | none => exact (hf (.error .spmiIo)).run limit s _ spent hseen hlimit
  | some read => exact (hf (.ok read)).run limit s _ spent hseen hlimit

/-- A write the driver may make. -/
theorem owned_writeReg {I : HvdcpState → pmicWatch.State → Prop} {bus : Bus} {addr : PmicAddr}
    {value : Byte} (h : ∀ s m, I s m → PmicWrite m addr value) :
    Proc.Costs pmicWatch pauseMs I AnySeen 0 (writeReg bus addr value) := by
  have hmay : ∀ {o : SpmiOp} {s : HvdcpState} {m : pmicWatch.State},
      o.write? = some (addr, value) → I s m →
      ∀ addr' value', o.write? = some (addr', value') → PmicWrite m addr' value' := by
    intro o s m ho hs addr' value' hwrite
    rw [ho] at hwrite
    cases hwrite
    exact h s m hs
  -- both paths write the same register, and the write is judged before it goes out
  cases bus with
  | superuser =>
      refine Proc.Costs.perform_bind (M := pmicWatch) (w := pauseMs) (I := I) (n := 0)
        (o := .spmi (.superuserWrite addr value))
        (J := fun _ => AnySeen) (fun s m hs => ⟨hmay rfl hs, fun _ _ => trivial⟩) ?_
      intro (ok : Bool)
      cases ok with
      | true => exact Proc.Costs.pure ()
      | false => exact Proc.Costs.fail _
  | usbin =>
      refine Proc.Costs.get_bind fun st => Proc.Costs.bind_free (J := AnySeen) ?_ fun _ =>
        Proc.Costs.pure ()
      refine Proc.Costs.perform_bind (M := pmicWatch) (w := pauseMs) (I := I) (n := 0)
        (o := .spmi (.usbinTransact addr (some value) st.bigEndian)) (J := fun _ => AnySeen)
        (fun s m hs => ⟨hmay rfl hs, fun _ _ => trivial⟩) ?_
      intro (answer : Option Byte)
      cases answer with
      | some read => exact Proc.Costs.pure read
      | none => exact Proc.Costs.fail _

/-- A field is merged into the value that was read. -/
theorem owned_writeField (bus : Bus) (field : Effectful.Field PmicAddr) (old : Byte) {value : Byte}
    (hfield : field ∈ pmicFields) (hvalue : value = mergeBits old field.mask field.value) :
    Proc.Costs pmicWatch pauseMs (SeenAs field.addr (some old)) AnySeen 0
      (writeReg bus field.addr value) := by
  subst hvalue
  exact owned_writeReg fun _ _ hread => .field hfield hread

/-- The write that follows a condition on what was read. -/
theorem owned_writeWhen {bus : Bus} {old value : Byte} {c : Bool} {addr : PmicAddr}
    (h : c = true → ∀ m : PmicSeen, m addr = some old → PmicWrite m addr value) :
    Proc.Costs pmicWatch pauseMs (SeenAs addr (some old)) AnySeen 0
      (Proc.when c (writeReg bus addr value)) := by
  refine Proc.Costs.ite (fun hc => owned_writeReg fun _ m hread => h hc m hread) fun _ => ?_
  exact (Proc.Costs.pure ()).weaken (fun _ _ _ => trivial) fun _ _ h => h

/-! ### Preparation of the input -/

/-- Clearing the latched interrupts is one of the allowed writes. -/
theorem owned_clearUsbinLatched (bus : Bus) : Owned 0 (clearUsbinLatched bus) :=
  (owned_writeReg fun _ _ _ => .clearLatched).discard

/-- The suspension is cleared in the value that was read. -/
theorem owned_clearUsbinSuspend (bus : Bus) : Owned 0 (clearUsbinSuspend bus) := by
  refine owned_tryRead_bind fun result => ?_
  cases result with
  | error e => exact (Proc.Costs.pure ()).weaken (fun _ _ _ => trivial) fun _ _ h => h
  | ok cmdIl =>
      -- Clearing a bit is merging a field of zeros.
      have hvalue : cmdIl &&& ~~~Pmic.bitUsbinSuspend = mergeBits cmdIl Pmic.bitUsbinSuspend 0 := by
        simp [mergeBits]
      have hfield := owned_writeField bus
        ⟨"USBIN_SUSPEND", Pmic.usbinCmdIl, Pmic.bitUsbinSuspend, 0⟩ cmdIl (by decide) hvalue
      refine Proc.Costs.ite (fun _ => hfield.discard) fun _ => ?_
      exact (Proc.Costs.pure ()).weaken (fun _ _ _ => trivial) fun _ _ h => h

/-- The gate of the detection is cleared in the value that was read. -/
theorem owned_clearApsdCcGate (bus : Bus) : Owned 0 (clearApsdCcGate bus) := by
  refine owned_readReg_bind fun cfg => Proc.Costs.ite (fun _ => ?_) fun _ => ?_
  · have hvalue : cfg &&& ~~~Pmic.bitBc1p2StartOnCc = mergeBits cfg Pmic.bitBc1p2StartOnCc 0 := by
      simp [mergeBits]
    have hfield := owned_writeField bus
      ⟨"BC1P2_START_ON_CC", Pmic.typeCCfg, Pmic.bitBc1p2StartOnCc, 0⟩ cfg (by decide) hvalue
    exact hfield.bind_free fun _ => Proc.Costs.pure _
  · exact (Proc.Costs.pure cfg).weaken (fun _ _ _ => trivial) fun _ _ h => h

/-- The override of the input current is one of the allowed writes. -/
theorem owned_iclOverride (bus : Bus) :
    Owned 0 (Proc.discard (writeReg bus Pmic.cmdIclOverride Pmic.bitIclOverride) : HvdcpM Unit) :=
  (owned_writeReg fun _ _ _ => .iclOverride).discard

/-- The limit is raised to its floor, and never lowered. -/
theorem owned_ensureIclFloor500ma (bus : Bus) : Owned 0 (ensureIclFloor500ma bus) := by
  refine owned_readReg_bind fun current => Proc.Costs.ite (fun _ => ?_) fun hlow => ?_
  · exact (Proc.Costs.pure current).weaken (fun _ _ _ => trivial) fun _ _ h => h
  · refine Proc.Costs.bind_free (J := AnySeen) (owned_writeReg fun _ m hread => ?_) fun _ => ?_
    -- The limit was read below the floor, so the write is a raise.
    · exact .icl hread (BitVec.not_le.1 hlow) (by decide)
    · exact (owned_iclOverride bus).bind_free fun _ => Proc.Costs.pure _

/-- The currents that are asked for are 3 A at most. -/
theorem owned_ensureIclAtLeast (bus : Bus) {target : Byte} (hmax : target ≤ iclRawPump3a) :
    Owned 0 (ensureIclAtLeast bus target) := by
  refine owned_readReg_bind fun current => ?_
  refine Proc.Costs.bind_free (J := AnySeen) (owned_writeWhen fun hlow m hread => ?_) fun _ => ?_
  · exact .icl hread (of_decide_eq_true hlow) hmax
  · refine (owned_iclOverride bus).bind_free fun _ => ?_
    exact (owned_clearUsbinSuspend bus).bind_free fun _ => Proc.Costs.pure _

/-- The options are changed in the value that was read. -/
theorem owned_enableHvdcp (bus : Bus) : Owned 0 (enableHvdcp bus) := by
  refine owned_readReg_bind fun read => ?_
  -- Three bits set and one cleared are one field of four bits.
  have hvalue : ∀ read : Byte,
      (read ||| (Pmic.bitHvdcpEn ||| Pmic.bitHvdcpAuthAlgEn ||| Pmic.bitBc1p2SrcDetect))
          &&& ~~~Pmic.bitHvdcpAutonomous =
        mergeBits read (Pmic.bitHvdcpEn ||| Pmic.bitHvdcpAuthAlgEn ||| Pmic.bitBc1p2SrcDetect
            ||| Pmic.bitHvdcpAutonomous)
          (Pmic.bitHvdcpEn ||| Pmic.bitHvdcpAuthAlgEn ||| Pmic.bitBc1p2SrcDetect) := by
    decide +kernel
  have hfield := owned_writeField bus ⟨"HVDCP_OPTIONS", Pmic.usbinOptions1, _, _⟩ read
    (by decide) (hvalue read)
  exact hfield.bind_free fun _ => owned_modify _

/-- Both voltage settings are changed in the value that was read. -/
theorem owned_ensureHvdcpVoltageGates (bus : Bus) : Owned 0 (ensureHvdcpVoltageGates bus) := by
  -- both updates are merges of a field into the byte just read
  have hallow : ∀ allow : Byte, withAdapterAllow5vTo12v allow =
      mergeBits allow Pmic.maskUsbinAdapterAllow Pmic.usbinAdapterAllow5vTo12v := fun _ => rfl
  have hpulses : ∀ pulseMax : Byte, withQc2Max9v pulseMax =
      mergeBits pulseMax Pmic.maskHvdcpPulseCountMaxQc2 Pmic.hvdcpPulseCountMaxQc29v := fun _ => rfl
  refine owned_readReg_bind fun allow => ?_
  refine Proc.Costs.bind_free (J := AnySeen) (owned_writeWhen fun _ m hread => ?_) fun _ => ?_
  · rw [hallow]
    exact PmicWrite.field
      (show (⟨"ADAPTER_ALLOW", _, _, _⟩ : Effectful.Field PmicAddr) ∈ pmicFields by decide) hread
  · refine owned_readReg_bind fun pulseMax => owned_writeWhen fun _ m hread => ?_
    rw [hpulses]
    exact PmicWrite.field
      (show (⟨"PULSE_COUNT_MAX_QC2", _, _, _⟩ : Effectful.Field PmicAddr) ∈ pmicFields by decide)
      hread

/-- The status is sampled after a pause for it to settle. -/
theorem owned_sampleQcStatus (bus : Bus) : Owned 200 (sampleQcStatus bus) := by
  refine (owned_sleepMs qcStatusSettleMs).bind (n := 0) fun _ => ?_
  refine (owned_readReg bus _).bind_free fun _ => ?_
  exact (owned_readReg bus _).bind_free fun _ => Proc.Costs.pure ()

/-- A failure is noted, which writes nothing. -/
theorem owned_orFailed {x : HvdcpM α} (hx : Owned n x) : Owned n (orFailed x) := by
  refine (hx.attempt.bind (n := 0) fun result => ?_).mono (Nat.le_of_eq (Nat.add_zero n))
  cases result with
  | ok value => exact Proc.Costs.pure value
  | error err => exact (owned_setPhase _).bind_free fun _ => Proc.Costs.fail err

/-! ### Transports -/

/-- The byte order is found by reading. -/
theorem owned_resolveEndianUsbin : Owned 0 resolveEndianUsbin := by
  have hprobe : ∀ big, Owned 0 (spmiRwUsbin Pmic.apsdStatus none big) := by
    intro big
    refine Proc.Costs.bind_free (owned_spmi (o := .usbinTransact Pmic.apsdStatus none big) rfl) ?_
    intro (answer : Option Byte)
    cases answer with
    | some read => exact Proc.Costs.pure read
    | none => exact Proc.Costs.fail _
  refine Proc.Costs.get_bind fun st => Proc.Costs.ite (fun _ => Proc.Costs.pure ()) fun _ => ?_
  -- Big-endian is tried first, and the other order only if nothing was answered.
  refine (hprobe true).attempt.bind_free fun first => ?_
  cases first with
  | ok _ => exact owned_modify _
  | error _ =>
      refine (hprobe false).attempt.bind_free fun second => ?_
      cases second with
      | ok _ => exact owned_modify _
      | error _ => exact Proc.Costs.fail _

/-- Opening the input bus reads from it. -/
theorem owned_openUsbin (usbinId : Option Nat) : Owned 0 (openUsbin usbinId) := by
  cases usbinId with
  | none => exact (owned_modify _).bind_free fun _ => Proc.Costs.fail _
  | some id =>
      refine Proc.Costs.bind_free (owned_spmi (o := .usbinOpen id) rfl) fun (ok : Bool) => ?_
      cases ok with
      | false => exact (owned_setPhase _).bind_free fun _ => Proc.Costs.fail _
      | true =>
          refine (owned_orFailed owned_resolveEndianUsbin).bind_free fun _ => ?_
          exact (owned_modify _).bind_free fun _ => Proc.Costs.pure _

/-- Opening either bus writes nothing. -/
theorem owned_openBus (usbinId : Option Nat) : Owned 0 (openBus usbinId) := by
  have hgranted : ∀ granted : Bool, Owned 0 (if granted then do
        Proc.modify fun st =>
          { st with transport := .superuser, endianKnown := true, bigEndian := true }
        Pure.pure .superuser
      else Kmdf.openUsbin usbinId : HvdcpM Bus) := by
    intro granted
    cases granted with
    | true => exact (owned_modify _).bind_free fun _ => Proc.Costs.pure _
    | false => exact owned_openUsbin usbinId
  refine (owned_modify _).bind_free fun _ => ?_
  -- A session that does not open, or is not granted, falls back to the other transport.
  refine Proc.Costs.bind_free (owned_spmi (o := .superuserOpen) rfl) fun (ok : Bool) => ?_
  cases ok with
  | true =>
      exact Proc.Costs.bind_free (owned_spmi (o := .superuserGrant spmiPeriUsbin) rfl) hgranted
  | false => exact hgranted false

/-- A correction costs what its body costs. -/
theorem owned_onFirstBus (usbinId : Option Nat) {body : Bus → HvdcpM α}
    (hbody : ∀ bus, Owned n (body bus)) (fallback : α) :
    Owned n (onFirstBus usbinId body fallback) := by
  have hidle : Owned n (Pure.pure fallback : HvdcpM α) :=
    (Proc.Costs.pure fallback).mono (Nat.zero_le n)
  refine Proc.Costs.bind_free (owned_spmi (o := .superuserOpen) rfl) fun (ok : Bool) => ?_
  -- the second connection is tried only when the first did not open
  cases ok with
  | true => exact (owned_modify _).bind_free fun _ => hbody _
  | false =>
      cases usbinId with
      | none => exact hidle
      | some id =>
          refine Proc.Costs.bind_free (owned_spmi (o := .usbinOpen id) rfl) fun (ok : Bool) => ?_
          cases ok with
          | true => exact hbody _
          | false => exact hidle

/-! ### Steps -/

/-- A step is written over the other bits of its register as they were read. -/
theorem owned_pulseCmdBit (bus : Bus) {stepBit : Byte}
    (hstep : stepBit = Pmic.bitSingleInc ∨ stepBit = Pmic.bitSingleDec) :
    Owned 0 (pulseCmdBit bus stepBit) := by
  have hvalue : ∀ current : Byte,
      (current &&& ~~~(Pmic.bitSingleInc ||| Pmic.bitSingleDec)) ||| stepBit =
        mergeBits current Pmic.stepBits stepBit := by
    obtain rfl | rfl := hstep <;> exact fun _ => rfl
  refine Proc.Costs.get_bind fun st => Proc.Costs.ite (fun _ => Proc.Costs.pure false) fun _ => ?_
  -- An unreadable register counts as zero, and `PmicWrite.step` says the same of it.
  refine owned_readOrZero_bind fun answer => ?_
  refine Proc.Costs.bind_free (J := AnySeen) (owned_writeReg fun _ m hread => ?_) fun _ =>
    Proc.Costs.pure true
  have hread : m Pmic.cmdHvdcp2 = answer := hread
  rw [hvalue, ← hread]
  exact .step hstep

/-- A step up costs its pause. -/
theorem owned_pulseIncGap (bus : Bus) (gapMs : Nat) : Owned gapMs (pulseIncGap bus gapMs) := by
  refine (owned_pulseCmdBit bus (.inl rfl)).bind_free fun sent => ?_
  exact (owned_when (owned_modify _)).bind_free fun _ => owned_sleepMs gapMs

/-- A step down costs its pause. -/
theorem owned_pulseDecGap (bus : Bus) (gapMs : Nat) : Owned gapMs (pulseDecGap bus gapMs) := by
  refine (owned_pulseCmdBit bus (.inr rfl)).bind_free fun sent => ?_
  exact (owned_when (owned_modify _)).bind_free fun _ => owned_sleepMs gapMs

/-- The request for 9 V waits twice 50 ms. -/
theorem owned_force9v (bus : Bus) : Owned 100 (force9v bus) := by
  refine owned_readOrZero_bind fun answer => ?_
  refine Proc.Costs.bind_free (J := AnySeen) (owned_writeReg fun _ m hread => ?_) fun _ => ?_
  · have hread : m Pmic.cmdHvdcp2 = answer := hread
    rw [← hread]
    exact .force9v
  · exact (owned_modify _).bind_free fun _ => owned_sleepMs 100

/-- The return to 5 V is one of the allowed writes. -/
theorem owned_safeForce5v (bus : Bus) : Owned 0 (safeForce5v bus) :=
  (owned_writeReg (I := AnySeen) fun _ _ _ => .force5v).discard.bind_free fun _ => owned_modify _

end

end Kmdf
