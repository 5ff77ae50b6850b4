import NabuCharger.Kmdf.NegotiationRules
import NabuCharger.Logic.Served
import NabuCharger.Proofs.PulseCount

/-!
# `Proofs.PmicRegisters`: what is left of the PMIC after a session

A session is any sequence of negotiations, authentications, bus corrections and raises of the
input current, cut short anywhere, with any answers. Each of its writes is one the driver may make
(`pmic_writes_owned`).

A PMIC that keeps its configuration registers (`pmicAnswers`) then keeps all of them but the
driver's bits, whatever else it answers and whichever of its transfers fail: a register is as it
was, or as it was with the driver's field in it, and the current limit has only gone up
(`pmic_registers_settled`). So the order and the number of the operations do not matter.
-/

set_option autoImplicit false

namespace Kmdf

open Effectful Ln8000

/-! ### The operations -/

/-- What the driver does to the input. -/
inductive QcOp
  | pulse (op : PulseOp)
  | raiseIclForPump (usbinId : Option Nat)
  | raiseIclFor5vBypass (usbinId : Option Nat)
  deriving DecidableEq, Repr

/-- The program of an operation. -/
def QcOp.run : QcOp → HvdcpM Unit
  | .pulse op => op.run
  | .raiseIclForPump usbinId => Proc.discard (Kmdf.raiseIclForPump usbinId)
  | .raiseIclFor5vBypass usbinId => Proc.discard (Kmdf.raiseIclFor5vBypass usbinId)

/-- Milliseconds an operation sleeps at most. -/
def QcOp.budgetMs : QcOp → Nat
  | .pulse (.negotiate _ _) => 7520
  | .pulse (.authenticate _) => 550
  | .pulse (.boost _ _ _) => 920
  | .pulse (.trim _ _ _) => 800
  | .pulse (.nudge _ _ _ _) => 920
  | .raiseIclForPump _ => 0
  | .raiseIclFor5vBypass _ => 0

/-- Each operation owns its writes and sleeps no longer than its budget. -/
theorem owned_qcOp (op : QcOp) : Owned op.budgetMs op.run := by
  cases op with
  | pulse op =>
      cases op with
      | negotiate usbinId vbatUv => exact owned_runNegotiate usbinId vbatUv
      | authenticate bus => exact (owned_attemptQc35Authenticate bus).discard
      | boost usbinId vinUv vbatUv => exact (owned_boostVinForPump usbinId vinUv vbatUv).discard
      | trim usbinId vinUv vbatUv => exact (owned_trimVinForPump usbinId vinUv vbatUv).discard
      | nudge usbinId vinUv vbatUv deadCurrent =>
          exact (owned_nudgeVinIntoWindow usbinId vinUv vbatUv deadCurrent).discard
  | raiseIclForPump usbinId => exact (owned_raiseIcl usbinId (by decide)).discard
  | raiseIclFor5vBypass usbinId =>
      have hraise : Owned 0 (Kmdf.raiseIclFor5vBypass usbinId) :=
        (owned_setPhase _).bind_free fun _ => owned_raiseIcl usbinId (by decide)
      exact hraise.discard

section
variable {st : HvdcpState} {log : List (Entry HvdcpEffect HvdcpState QcOp)}

/-- Every session meets the watch from its start. -/
theorem meets_pmicWatch (h : Session QcOp.run st log) :
    pmicWatch.Meets PmicSeen.start (exchanges log) :=
  h.meets (M := pmicWatch) (I := AnySeen) (fun op => (owned_qcOp op).keeps) _ trivial

/-- Every write of a session is one the driver may make, by what it has read of the register
since it last wrote it. -/
theorem pmic_writes_owned (h : Session QcOp.run st log) {before after : List (Event HvdcpEffect)}
    {e : Event HvdcpEffect} {o : SpmiOp} {addr : PmicAddr} {value : Byte}
    (hsplit : exchanges log = before ++ e :: after) (hop : e.op = .spmi o)
    (hwrite : o.write? = some (addr, value)) :
    PmicWrite (pmicWatch.after PmicSeen.start before) addr value := by
  have hmeets := meets_pmicWatch h
  rw [hsplit] at hmeets
  have hrequire := Machine.Meets.require_at pmicWatch hmeets (pmicWatch_allowed before _)
  rw [hop] at hrequire
  exact hrequire addr value hwrite

/-! ### A PMIC that keeps its registers -/

/-- The registers of the PMIC. -/
abbrev PmicFile : Type := PmicAddr → Byte

/-- The registers that configure the input. The others report a state or take a command, and may
answer anything. -/
def pmicConfig : List PmicAddr := Pmic.usbinIclCfg :: pmicFields.map Field.addr

/-- How a PMIC answers that keeps its configuration. A transfer may fail at any time, and a write
that failed may have been made. -/
def pmicAnswers (file : PmicFile) : (o : HvdcpOp) → HvdcpEffect.Resp o → PmicFile → Prop
  | .spmi (.superuserRead addr) => fun (answer : Option Byte) file' =>
      (addr ∈ pmicConfig → ∀ read, answer = some read → read = file addr) ∧ file' = file
  | .spmi (.usbinTransact addr none _) => fun (answer : Option Byte) file' =>
      (addr ∈ pmicConfig → ∀ read, answer = some read → read = file addr) ∧ file' = file
  | .spmi (.superuserWrite addr value) => fun (ok : Bool) file' =>
      file' = Function.update file addr value ∨ ok = false ∧ file' = file
  | .spmi (.usbinTransact addr (some value) _) => fun (answer : Option Byte) file' =>
      file' = Function.update file addr value ∨ answer = none ∧ file' = file
  | _ => fun _ file' => file' = file

/-- A register is as it was, or has the field in it. -/
def FieldSettled (file file' : PmicFile) (field : Effectful.Field PmicAddr) : Prop :=
  file' field.addr = file field.addr ∨
    file' field.addr = mergeBits (file field.addr) field.mask field.value

/-- The current limit is as it was, or higher, and then 3 A at most. -/
def IclSettled (file file' : PmicFile) : Prop :=
  file' Pmic.usbinIclCfg = file Pmic.usbinIclCfg ∨
    file Pmic.usbinIclCfg < file' Pmic.usbinIclCfg ∧ file' Pmic.usbinIclCfg ≤ iclRawPump3a

/-- What a session may leave of a register file. -/
structure PmicSettled (file file' : PmicFile) : Prop where
  fields : ∀ field ∈ pmicFields, FieldSettled file file' field
  icl : IclSettled file file'

/-- A file that nothing wrote is settled. -/
theorem PmicSettled.refl (file : PmicFile) : PmicSettled file file :=
  ⟨fun _ _ => .inl rfl, .inl rfl⟩

/-- What was read of the configuration is still there. -/
def Fresh (file : PmicFile) (seen : PmicSeen) : Prop :=
  ∀ addr ∈ pmicConfig, ∀ read, seen addr = some read → read = file addr

/-- Merging a field twice is merging it once. -/
theorem mergeBits_mergeBits (old mask new : Byte) :
    mergeBits (mergeBits old mask new) mask new = mergeBits old mask new := by
  ext i hi
  simp only [mergeBits, BitVec.getElem_or, BitVec.getElem_and, BitVec.getElem_not]
  cases old[i] <;> cases mask[i] <;> cases new[i] <;> rfl

/-- A write that may be made settles the register it is made to. -/
theorem PmicSettled.write {file file' : PmicFile} {seen : PmicSeen} {addr : PmicAddr}
    {value : Byte} (h : PmicSettled file file') (hseen : Fresh file' seen)
    (hwrite : PmicWrite seen addr value) :
    PmicSettled file (Function.update file' addr value) := by
  -- A write to a register outside the configuration.
  have hcommand : addr ∉ pmicConfig → PmicSettled file (Function.update file' addr value) := by
    intro hout
    have hkept : ∀ a ∈ pmicConfig, Function.update file' addr value a = file' a := by
      intro a ha
      refine Function.update_of_ne (fun heq => ?_) ..
      rw [heq] at ha
      exact hout ha
    refine ⟨fun field hfield => ?_, ?_⟩
    · rw [FieldSettled, hkept _ (List.mem_cons_of_mem _ (List.mem_map_of_mem hfield))]
      exact h.fields field hfield
    · rw [IclSettled, hkept _ (List.mem_cons_self ..)]
      exact h.icl
  cases hwrite with
  | clearLatched => exact hcommand (by decide)
  | apsdRerun => exact hcommand (by decide)
  | iclOverride => exact hcommand (by decide)
  | step hstep => exact hcommand (by decide)
  | force9v => exact hcommand (by decide)
  | force5v => exact hcommand (by decide)
  | @field field old hfield hread =>
      have haddr : field.addr ∈ pmicConfig :=
        List.mem_cons_of_mem _ (List.mem_map_of_mem hfield)
      have hold : old = file' field.addr := hseen _ haddr _ hread
      -- No two fields share a register, and none is in that of the limit.
      have hicl : ∀ f ∈ pmicFields, Pmic.usbinIclCfg ≠ f.addr := by decide
      have hone : ∀ f ∈ pmicFields, ∀ g ∈ pmicFields, f.addr = g.addr → f = g := by decide
      refine ⟨fun other hother => ?_, ?_⟩
      · by_cases hsame : other.addr = field.addr
        · obtain rfl := hone other hother field hfield hsame
          rw [FieldSettled, Function.update_self, hold]
          right
          obtain hkept | hmerged := h.fields other hother
          · rw [hkept]
          · rw [hmerged, mergeBits_mergeBits]
        · rw [FieldSettled, Function.update_of_ne hsame]
          exact h.fields other hother
      · rw [IclSettled, Function.update_of_ne (hicl field hfield)]
        exact h.icl
  | @icl old _ hread hraise hmax =>
      have hold : old = file' Pmic.usbinIclCfg := hseen _ (List.mem_cons_self ..) _ hread
      have hother : ∀ f ∈ pmicFields, f.addr ≠ Pmic.usbinIclCfg := by decide
      refine ⟨fun field hfield => ?_, ?_⟩
      · rw [FieldSettled, Function.update_of_ne (hother field hfield)]
        exact h.fields field hfield
      -- Each raise starts from what an earlier one left, so the limit only goes up.
      · rw [IclSettled, Function.update_self]
        right
        rw [hold] at hraise
        obtain hkept | ⟨hup, _⟩ := h.icl
        · rw [hkept] at hraise
          exact ⟨hraise, hmax⟩
        · exact ⟨BitVec.lt_trans hup hraise, hmax⟩

/-- An answer the file gave can be remembered. -/
theorem Fresh.read {file : PmicFile} {seen : PmicSeen} (h : Fresh file seen) {addr : PmicAddr}
    {answer : Option Byte}
    (hanswer : addr ∈ pmicConfig → ∀ read, answer = some read → read = file addr) :
    Fresh file (Function.update seen addr answer) := by
  intro a ha read hread
  by_cases heq : a = addr
  · subst heq
    rw [Function.update_self] at hread
    exact hanswer ha read hread
  · rw [Function.update_of_ne heq] at hread
    exact h a ha read hread

/-- After a write nothing is known of the register. -/
theorem Fresh.write {file file' : PmicFile} {seen : PmicSeen} (h : Fresh file seen)
    {addr : PmicAddr} (hfile : ∀ a, a ≠ addr → file' a = file a) :
    Fresh file' (Function.update seen addr none) := by
  intro a ha read hread
  by_cases heq : a = addr
  · subst heq
    rw [Function.update_self] at hread
    cases hread
  · rw [Function.update_of_ne heq] at hread
    rw [hfile a heq]
    exact h a ha read hread

/-- The step lemma: an exchange that meets its obligation keeps the registers settled. -/
theorem settled_step {start file file' : PmicFile} {seen : PmicSeen} {o : HvdcpOp}
    {r : HvdcpEffect.Resp o} (h : PmicSettled start file ∧ Fresh file seen)
    (hrequire : pmicWatch.require seen o) (hanswer : pmicAnswers file o r file') :
    PmicSettled start file' ∧ Fresh file' (seen.next o r) := by
  obtain ⟨hsettled, hfresh⟩ := h
  -- An operation that is no transfer leaves the registers and what is known of them.
  have hquiet (hsame : file' = file) : PmicSettled start file' ∧ Fresh file' seen := by
    rw [hsame]
    exact ⟨hsettled, hfresh⟩
  have hread : ∀ {addr} {answer : Option Byte},
      (addr ∈ pmicConfig → ∀ read, answer = some read → read = file addr) ∧ file' = file →
      PmicSettled start file' ∧ Fresh file' (Function.update seen addr answer) := by
    rintro addr answer ⟨hread, rfl⟩
    exact ⟨hsettled, hfresh.read hread⟩
  -- A write that was made, and one that was not.
  have hwrote : ∀ {addr value}, PmicWrite seen addr value → ∀ {failed : Prop},
      (file' = Function.update file addr value ∨ failed ∧ file' = file) →
      PmicSettled start file' ∧ Fresh file' (Function.update seen addr none) := by
    intro addr value hwrite failed hmade
    obtain rfl | ⟨_, rfl⟩ := hmade
    · refine ⟨hsettled.write hfresh hwrite, hfresh.write fun a ha => ?_⟩
      exact Function.update_of_ne ha ..
    · exact ⟨hsettled, hfresh.write fun _ _ => rfl⟩
  cases o with
  | readVin => exact hquiet hanswer
  | spmi o =>
      cases o with
      | superuserRead addr => exact hread hanswer
      | superuserWrite addr value => exact hwrote (hrequire addr value rfl) hanswer
      | usbinTransact addr value bigEndian =>
          cases value with
          | none => exact hread hanswer
          | some value => exact hwrote (hrequire addr value rfl) hanswer
      | sleep ms => exact hquiet hanswer
      | superuserOpen => exact hquiet hanswer
      | superuserGrant peri => exact hquiet hanswer
      | usbinOpen id => exact hquiet hanswer

/-- After any session each configuration register of such a PMIC is as it was, or as it was with
the driver's field in it, and the current limit is as it was or higher. -/
theorem pmic_registers_settled (h : Session QcOp.run st log) {file file' : PmicFile}
    (hserved : Served pmicAnswers file (exchanges log) file') : PmicSettled file file' := by
  have hstart : PmicSettled file file ∧ Fresh file PmicSeen.start :=
    ⟨.refl file, fun _ _ _ hread => by cases hread⟩
  have hkeeps := hserved.keeps (M := pmicWatch)
    (J := fun file' seen => PmicSettled file file' ∧ Fresh file' seen)
    (fun _ _ _ _ _ hj hrequire _ hanswer => settled_step hj hrequire hanswer)
  exact (hkeeps _ (meets_pmicWatch h) (pmicWatch_allowed _ _) hstart).1

end

/-! ### A PMIC with a QC3 adapter -/

/-- A PMIC that is all memory, on a bus that stays at 5 V. -/
def fileEnv (file : PmicFile) : (o : HvdcpOp) → HvdcpEffect.Resp o × PmicFile
  | .readVin => ((5000000 : Int), file)
  | .spmi (.superuserRead addr) => (some (file addr), file)
  | .spmi (.superuserWrite addr value) => (true, Function.update file addr value)
  | .spmi (.sleep _) => ((), file)
  | .spmi .superuserOpen => (true, file)
  | .spmi (.superuserGrant _) => (true, file)
  | .spmi (.usbinOpen _) => (false, file)
  | .spmi (.usbinTransact _ _ _) => (none, file)

/-- The computed answers on a file are answers the file may give. -/
theorem fileEnv_answers (file : PmicFile) (o : HvdcpOp) :
    pmicAnswers file o (fileEnv file o).1 (fileEnv file o).2 := by
  cases o with
  | readVin => rfl
  | spmi o =>
      cases o with
      | superuserRead addr => exact ⟨fun _ _ hread => (Option.some.inj hread).symm, rfl⟩
      | superuserWrite addr value => exact .inl rfl
      | usbinTransact addr value bigEndian =>
          cases value with
          | none => exact ⟨fun _ _ hread => (by cases hread), rfl⟩
          | some value => exact .inr ⟨rfl, rfl⟩
      | sleep ms => rfl
      | superuserOpen => rfl
      | superuserGrant peri => rfl
      | usbinOpen id => rfl

/-- The detection is done and has found QC3, and the current limit is 500 mA. -/
def qc3File : PmicFile := fun addr =>
  if addr = Pmic.apsdStatus then Pmic.bitApsdDone
  else if addr = Pmic.apsdResult then Pmic.bitQc3
  else if addr = Pmic.usbinIclCfg then iclRaw500ma
  else 0

/-- The first write of a raise, after the read it is made from. -/
theorem pmic_writes_owned_on_bench : PmicWrite
    (pmicWatch.after PmicSeen.start [⟨.spmi .superuserOpen, (true : Bool)⟩,
      ⟨.spmi (.superuserRead Pmic.usbinIclCfg), some iclRaw500ma⟩])
    Pmic.usbinIclCfg iclRawPump3a :=
  pmic_writes_owned (Session.session_execute fileEnv QcOp.run [.raiseIclForPump none] qc3File
      HvdcpState.new)
    (e := ⟨.spmi (.superuserWrite Pmic.usbinIclCfg iclRawPump3a), (true : Bool)⟩)
    (o := .superuserWrite Pmic.usbinIclCfg iclRawPump3a) rfl rfl rfl

/-- A negotiation, an authentication, and a raise of the current. -/
theorem pmic_registers_settled_on_bench : ∃ file', Served pmicAnswers qc3File
    (exchanges (Session.execute fileEnv QcOp.run qc3File HvdcpState.new
      [.pulse (.negotiate none 3900000), .pulse (.authenticate .superuser),
        .raiseIclForPump none])) file' ∧ PmicSettled qc3File file' := by
  obtain ⟨file', hserved⟩ := Session.served_execute fileEnv_answers QcOp.run
    [.pulse (.negotiate none 3900000), .pulse (.authenticate .superuser), .raiseIclForPump none]
    qc3File HvdcpState.new
  exact ⟨file', hserved, pmic_registers_settled (Session.session_execute ..) hserved⟩

end Kmdf
