import NabuCharger.Core.Adapter

/-!
# `Core.Testkit`: the transport to the registers, and its register model

The core knows only the trait `ChargerTransport`: reads, writes, and a reset of the link. A
`TransportCall` is one of the three, and what it answers is a `Reply`.

`ScriptedMockTransport` is the transport for tests. It keeps registers and a queue of injected
faults in fixed buffers, counts the resets, and can hold back the ready bit of `APSD_STATUS` for a
number of reads. The buffers are lists with their bounds as fields. What does not fit is dropped, as
in the source.
-/

set_option autoImplicit false

namespace ChargerCore

open Effectful

/-- An error of the bus. -/
def TransportError.io (detail : String) : TransportError := ⟨.io, 0, detail⟩
/-- An error of the protocol. -/
def TransportError.protocol (detail : String) : TransportError := ⟨.protocol, 0, detail⟩

/-! ### The transport -/

/-- Programs on a transport. A failure keeps the state it found. -/
abbrev TransportM (τ : Type) : Type → Type := ExceptT TransportError (StateM τ)

namespace TransportM

variable {τ α β : Type} {x : TransportM τ α} {s s' : τ}

/-- After a step that went well. -/
theorem bind_ok {a : α} (h : x s = (.ok a, s')) (f : α → TransportM τ β) :
    (x >>= f) s = f a s' := by
  show StateT.bind x (ExceptT.bindCont f) s = _
  rw [StateT.bind, h]
  rfl

/-- A failure ends the program. -/
theorem bind_error {err : TransportError} (h : x s = (.error err, s')) (f : α → TransportM τ β) :
    (x >>= f) s = (.error err, s') := by
  show StateT.bind x (ExceptT.bindCont f) s = _
  rw [StateT.bind, h]
  rfl

/-- A step that only decodes what the one before it answered. -/
theorem bind_ofExcept {answer : Except TransportError α} (h : x s = (answer, s'))
    (f : α → Except TransportError β) :
    (x >>= fun a => MonadExcept.ofExcept (f a)) s = (answer >>= f, s') := by
  cases answer with
  | error err => exact bind_error h _
  | ok a =>
      refine (bind_ok h _).trans ?_
      show (MonadExcept.ofExcept (f a) : TransportM τ β) s' = (f a, s')
      cases f a <;> rfl

/-- The answer under a function. -/
theorem bind_return {answer : Except TransportError α} (h : x s = (answer, s')) (f : α → β) :
    (x >>= fun a => pure (f a)) s = (f <$> answer, s') := by
  cases answer with
  | error err => exact bind_error h _
  | ok a => exact bind_ok h _

end TransportM

/-- Access to the charger peripheral registers. -/
structure ChargerTransport (τ : Type) where
  read : RegAddr → TransportM τ Byte
  write : RegAddr → Byte → TransportM τ Unit
  reset : TransportM τ Unit

/-- A call of the trait. -/
inductive TransportCall
  | read (addr : RegAddr)
  | write (addr : RegAddr) (value : Byte)
  | reset
  deriving DecidableEq, Repr

/-- What a call returns when it returns `Ok`. -/
inductive Reply
  | value (value : Byte)
  | done
  deriving DecidableEq, Repr

/-- The call on a transport. -/
def TransportCall.run {τ : Type} (transport : ChargerTransport τ) :
    TransportCall → TransportM τ Reply
  | .read addr => do return .value (← transport.read addr)
  | .write addr value => do
      transport.write addr value
      return .done
  | .reset => do
      transport.reset
      return .done

/-! ### The register model -/

namespace AdapterType

/-- The adapter supports Quick Charge. -/
def isHvdcp : AdapterType → Bool
  | .hvdcp2 | .hvdcp3 | .hvdcp3p5 => true
  | _ => false

/-- Pattern the hardware sets in `APSD_RESULT_STATUS`. -/
def apsdPattern : AdapterType → Byte
  | .unknown => 0
  | .sdp => patternSdp
  | .ocp => patternOcp
  | .cdp => patternCdp
  | .dcp => patternDcp
  | .float => patternFloat
  | .hvdcp2 => patternHvdcp2
  | .hvdcp3 | .hvdcp3p5 => patternHvdcp3

end AdapterType

/-- Size of the register table. -/
def maxRegs : Nat := 64
/-- Size of the fault queue. -/
def maxFaults : Nat := 16
/-- Size of the write log. -/
def maxLog : Nat := 128

/-- Injected fault. -/
inductive Fault
  /-- The next `times` reads of the register fail. -/
  | readError (addr : RegAddr) (kind : TransportErrorKind) (times : Nat)
  /-- The next `times` writes of the register fail. -/
  | writeError (addr : RegAddr) (kind : TransportErrorKind) (times : Nat)
  | disconnect (times : Nat)
  /-- The next `times` reads of the register return another value. -/
  | wrongReadBack (addr : RegAddr) (value : Byte) (times : Nat)
  deriving DecidableEq, Repr

namespace Fault

/-- The fault hits reads of this register. -/
def isReadError (addr : RegAddr) : Fault → Bool
  | .readError a _ _ => a == addr
  | _ => false

/-- The fault hits writes of this register. -/
def isWriteError (addr : RegAddr) : Fault → Bool
  | .writeError a _ _ => a == addr
  | _ => false

/-- The fault falsifies reads of this register. -/
def isWrongReadBack (addr : RegAddr) : Fault → Bool
  | .wrongReadBack a _ _ => a == addr
  | _ => false

end Fault

/-- A fault in the queue, with the operations it still lasts for. -/
structure FaultSlot where
  fault : Fault
  remaining : Nat
  deriving DecidableEq, Repr

/-- The registers with one of them replaced, when there is one at the address. -/
def replaceReg (addr : RegAddr) (value : Byte) :
    List (RegAddr × Byte) → Option (List (RegAddr × Byte))
  | [] => none
  | slot :: rest =>
      if slot.1 = addr then some ((addr, value) :: rest)
      else (replaceReg addr value rest).map (slot :: ·)

/-- The first active fault of the kind, and the queue with one of its attempts consumed. -/
def consumeFault (kind : Fault → Bool) : List FaultSlot → Option (Fault × List FaultSlot)
  | [] => none
  | slot :: rest =>
      if kind slot.fault ∧ 0 < slot.remaining then
        some (slot.fault, { slot with remaining := slot.remaining - 1 } :: rest)
      else (consumeFault kind rest).map fun found => (found.1, slot :: found.2)

/-- A replaced register is one that was there. -/
theorem replaceReg_length {addr : RegAddr} {value : Byte} {regs regs' : List (RegAddr × Byte)}
    (h : replaceReg addr value regs = some regs') : regs'.length = regs.length := by
  induction regs generalizing regs' with
  | nil => cases h
  | cons slot rest ih =>
      rw [replaceReg] at h
      split at h
      · cases h
        rfl
      · obtain ⟨rest', hrest, rfl⟩ := Option.map_eq_some_iff.1 h
        rw [List.length_cons, List.length_cons, ih hrest]

/-- No slot of the queue goes away. -/
theorem consumeFault_length {kind : Fault → Bool} {faults : List FaultSlot}
    {found : Fault × List FaultSlot} (h : consumeFault kind faults = some found) :
    found.2.length = faults.length := by
  induction faults generalizing found with
  | nil => cases h
  | cons slot rest ih =>
      rw [consumeFault] at h
      split at h
      · cases h
        rfl
      · obtain ⟨found', hrest, rfl⟩ := Option.map_eq_some_iff.1 h
        show (slot :: found'.2).length = _
        rw [List.length_cons, List.length_cons, ih hrest]

/-- Mock transport with programmable registers and faults. -/
structure ScriptedMockTransport where
  regs : List (RegAddr × Byte)
  writeLog : List (RegAddr × Byte)
  faults : List FaultSlot
  resetCount : Nat
  readyAfterReads : Nat
  statusReads : Nat
  regs_le : regs.length ≤ maxRegs
  writeLog_le : writeLog.length ≤ maxLog
  faults_le : faults.length ≤ maxFaults
  deriving DecidableEq, Repr

/-- An entry put at the end of a buffer, if there is room. -/
def pushBounded {α : Type} (size : Nat) (entries : List α) (x : α) : List α :=
  if entries.length < size then entries ++ [x] else entries

/-- A table that is full stays as it is. -/
theorem pushBounded_length_le {α : Type} {size : Nat} {entries : List α}
    (h : entries.length ≤ size) (x : α) : (pushBounded size entries x).length ≤ size := by
  rw [pushBounded]
  split
  · rw [List.length_append, List.length_singleton]
    omega
  · exact h

namespace ScriptedMockTransport

/-- Port with no power. -/
def detached : ScriptedMockTransport where
  regs := []
  writeLog := []
  faults := []
  resetCount := 0
  readyAfterReads := 0
  statusReads := 0
  regs_le := Nat.zero_le _
  writeLog_le := Nat.zero_le _
  faults_le := Nat.zero_le _

variable (mock : ScriptedMockTransport)

/-- The registers after a register was set. -/
def setRegs (addr : RegAddr) (value : Byte) : List (RegAddr × Byte) :=
  (replaceReg addr value mock.regs).getD (pushBounded maxRegs mock.regs (addr, value))

/-- Setting a register keeps the table within its size. -/
theorem setRegs_length_le (addr : RegAddr) (value : Byte) :
    (mock.setRegs addr value).length ≤ maxRegs := by
  rw [setRegs]
  cases hfound : replaceReg addr value mock.regs with
  | none => exact pushBounded_length_le mock.regs_le _
  | some regs =>
      rw [Option.getD_some, replaceReg_length hfound]
      exact mock.regs_le

/-- Sets a register value. -/
def setReg (addr : RegAddr) (value : Byte) : ScriptedMockTransport :=
  { mock with
    regs := mock.setRegs addr value
    regs_le := mock.setRegs_length_le addr value }

/-- Current value of the mock register. -/
def reg (addr : RegAddr) : Byte :=
  ((mock.regs.find? fun slot => slot.1 == addr).map Prod.snd).getD 0

/-- Programs the detection registers for the given adapter. -/
def setAdapter (adapter : AdapterType) : ScriptedMockTransport :=
  let status := if adapter.isHvdcp then apsdDtcStatusDone ||| qcCharger else apsdDtcStatusDone
  { (mock.setReg apsdStatus status).setReg apsdResultStatus adapter.apsdPattern with
    statusReads := 0 }

/-- Mock that reports the given adapter type. -/
def forAdapter (adapter : AdapterType) : ScriptedMockTransport := detached.setAdapter adapter

/-- Finds an active fault of the kind and consumes one of its attempts. -/
def consume (kind : Fault → Bool) : StateM ScriptedMockTransport (Option Fault) := fun mock =>
  match hfound : consumeFault kind mock.faults with
  | none => (none, mock)
  | some (fault, faults) =>
      (some fault,
        { mock with
          faults
          faults_le := (consumeFault_length hfound).trans_le mock.faults_le })

/-- The fault of the next read, if there is one. -/
def takeReadFault (addr : RegAddr) : StateM ScriptedMockTransport (Option TransportError) := do
  match ← consume (Fault.isReadError addr) with
  | some (.readError _ kind _) => return some ⟨kind, 0, "injected read fault"⟩
  | some (.disconnect _) => return some (.disconnected "link lost")
  | _ => return none

/-- The fault of the next write, if there is one. -/
def takeWriteFault (addr : RegAddr) : StateM ScriptedMockTransport (Option TransportError) := do
  match ← consume (Fault.isWriteError addr) with
  | some (.writeError _ kind _) => return some ⟨kind, 0, "injected write fault"⟩
  | _ => return none

/-- The value a read is to show instead, if there is one. -/
def takeWrongReadBack (addr : RegAddr) : StateM ScriptedMockTransport (Option Byte) := do
  match ← consume (Fault.isWrongReadBack addr) with
  | some (.wrongReadBack _ value _) => return some value
  | _ => return none

/-- Another read of `APSD_STATUS`: whether its result is still held back. -/
def heldBack : StateM ScriptedMockTransport Bool := fun mock =>
  let reads := satAdd 8 mock.statusReads 1
  (decide (reads ≤ mock.readyAfterReads), { mock with statusReads := reads })

/-- Reads a register: a fault, a status that is held back, a false value or the true one. -/
def read (addr : RegAddr) : TransportM ScriptedMockTransport Byte := do
  match ← takeReadFault addr with
  | some err => throw err
  | none =>
      let pending ← if addr = apsdStatus then heldBack else pure false
      -- detection has not completed yet: the ready bit is clear
      if pending then return (← get).reg addr &&& ~~~apsdDtcStatusDone
      else
        match ← takeWrongReadBack addr with
        | some fake => return fake
        | none => return (← get).reg addr

/-- Writes a register and logs it, unless a fault is due. -/
def write (addr : RegAddr) (value : Byte) : TransportM ScriptedMockTransport Unit := do
  match ← takeWriteFault addr with
  | some err => throw err
  | none =>
      modify fun mock => mock.setReg addr value
      modify fun mock =>
        { mock with
          writeLog := pushBounded maxLog mock.writeLog (addr, value)
          writeLog_le := pushBounded_length_le mock.writeLog_le _ }

/-- Counts the resets of the link. -/
def reset : TransportM ScriptedMockTransport Unit :=
  modify fun mock => { mock with resetCount := satAdd 32 mock.resetCount 1 }

/-- The mock as a transport. -/
def transport : ChargerTransport ScriptedMockTransport where
  read := read
  write := write
  reset := reset

end ScriptedMockTransport

end ChargerCore
