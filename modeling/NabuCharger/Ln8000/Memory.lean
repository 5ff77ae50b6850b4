import NabuCharger.Logic.Fields
import NabuCharger.Ln8000.Chip
import NabuCharger.Ln8000.Reliable

/-!
# `Ln8000.Memory`: a bus without faults

`memory` is the bus on which every transfer succeeds and a control register returns what was
written to it last. Its state is what is known of the control registers: nothing of a
register that was neither read nor written since the chip was reset. The status and sample
registers may return anything.

From a register file that is known (`known`), a program that only sets up registers is the
list of its field writes (`Rewrites`).
-/

set_option autoImplicit false

namespace Ln8000

open Effectful

/-- Status and sample registers, which the chip writes itself. -/
def isStatus (addr : RegAddr) : Bool := decide (addr < Regs.iinCtrl)

/-- What is known of the registers. -/
abbrev Contents : Type := RegAddr → Option Byte

/-- The contents after an exchange. A soft reset makes them unknown. -/
def Contents.next (m : Contents) : (o : BusOp) → BusEffect.Resp o → Contents
  | .read addr, .ok value => if isStatus addr then m else Function.update m addr (some value)
  | .write addr value, .ok _ =>
      if isSoftReset addr value then fun _ => none else Function.update m addr (some value)
  | _, _ => m

/-- No transfer fails, and control registers are memory. -/
def memory : Machine BusEffect where
  State := Contents
  allow m
    | .read addr, .ok value => isStatus addr = true ∨ m addr = none ∨ m addr = some value
    | .read _, .error _ | .readPair _, .error _ | .write _ _, .error _ => False
    | _, _ => True
  require _ _ := True
  next := Contents.next

/-- Every register is known. -/
def known (file : RegAddr → Byte) : Contents := fun addr => some (file addr)

/-- No transfer fails. -/
theorem opSure_memory (o : BusOp) : OpSure memory o := by
  cases o with
  | read addr =>
      intro m r hr
      cases r with
      | ok value => exact ⟨value, rfl⟩
      | error err => exact hr.elim
  | readPair addr =>
      intro m r hr
      cases r with
      | ok raw => exact ⟨raw, rfl⟩
      | error err => exact hr.elim
  | write addr value =>
      intro m r hr
      cases r with
      | ok _ => rfl
      | error err => exact hr.elim
  | reset => trivial
  | postResetDelay => trivial
  | mark mk => trivial

/-- A write of anything but the reset register is stored. -/
theorem Contents.next_write {addr : RegAddr} (haddr : addr ≠ Regs.bcOp2) (m : Contents)
    (value : Byte) : m.next (.write addr value) (.ok ()) = Function.update m addr (some value) := by
  rw [next, isSoftReset_of_ne haddr]
  rfl

/-- A control register that is read returns what is known of it. -/
theorem value_of_allow {addr : RegAddr} (hstatus : isStatus addr = false) {m : Contents}
    {value readBack : Byte} (hknown : m addr = some value)
    (hread : memory.allow m (.read addr) (.ok readBack)) : readBack = value := by
  rcases hread with htrue | hnone | hsame
  · rw [hstatus] at htrue
    cases htrue
  · rw [hknown] at hnone
    cases hnone
  · rw [hknown] at hsame
    exact (Option.some.inj hsame).symm

/-- Control registers other than `BC_OP_2` read back. -/
theorem readsBack_memory {addr : RegAddr} (hstatus : isStatus addr = false)
    (haddr : addr ≠ Regs.bcOp2) : ReadsBack memory addr := by
  rintro (m : Contents) value readBack _ hread
  refine value_of_allow hstatus (m := m.next (.write addr value) (.ok ())) ?_ hread
  rw [Contents.next_write haddr, Function.update_self]

/-! ### The executable chip -/

/-- What is known of the control registers is what the chip holds. -/
def Contents.Describes (m : Contents) (chip : Chip) : Prop :=
  ∀ addr, isStatus addr = false → ∀ value, m addr = some value → chip.reg addr = value

/-- A register that was set. -/
theorem Chip.reg_setReg_self (chip : Chip) (addr : RegAddr) (value : Byte) :
    (chip.setReg addr value).reg addr = value := by
  simp [reg, setReg]

/-- A register that was not. -/
theorem Chip.reg_setReg_ne (chip : Chip) {addr other : RegAddr} (h : other ≠ addr)
    (value : Byte) : (chip.setReg addr value).reg other = chip.reg other := by
  have hhead : ¬addr = other := fun h' => h h'.symm
  have hfind : (chip.regs.filter fun slot => slot.1 != addr).find?
      (fun slot => slot.1 == other) = chip.regs.find? fun slot => slot.1 == other := by
    rw [List.find?_filter]
    refine congrArg (fun f => chip.regs.find? f) (funext fun slot => ?_)
    by_cases hslot : slot.1 = other
    · simp [hslot, h]
    · simp [hslot]
  simp only [reg, setReg, List.find?_cons, beq_eq_false_iff_ne.2 hhead, hfind]

/-- A write changes the register it addresses, and the status registers. -/
theorem Chip.reg_write_ne (chip : Chip) {addr other : RegAddr} (h : other ≠ addr)
    (hstatus : isStatus other = false) (value : Byte) :
    (chip.write addr value).reg other = chip.reg other := by
  -- a status register is the chip's own, so the other register is none of them
  have hsys : other ≠ Regs.sysSts := by
    rintro rfl
    exact absurd hstatus (by decide)
  have hfault : other ≠ Regs.fault1Sts := by
    rintro rfl
    exact absurd hstatus (by decide)
  unfold write
  split
  · split
    · exact reg_setReg_ne chip h value
    · rw [reg_setReg_ne _ hsys, reg_setReg_ne _ h]
  · split
    · rw [reg_setReg_ne _ hsys, reg_setReg_ne _ hfault, reg_setReg_ne _ h]
    · exact reg_setReg_ne chip h value

/-- A control register that was written. -/
theorem Chip.reg_write_self (chip : Chip) {addr : RegAddr} (hstatus : isStatus addr = false)
    (value : Byte) : (chip.write addr value).reg addr = value := by
  -- the chip moves only its status registers, and this one is none of them
  have hsys : addr ≠ Regs.sysSts := by
    rintro rfl
    exact absurd hstatus (by decide)
  have hfault : addr ≠ Regs.fault1Sts := by
    rintro rfl
    exact absurd hstatus (by decide)
  unfold write
  split
  · split
    · exact reg_setReg_self chip addr value
    · rw [reg_setReg_ne _ hsys, reg_setReg_self]
  · split
    · rw [reg_setReg_ne _ hsys, reg_setReg_ne _ hfault, reg_setReg_self]
    · exact reg_setReg_self chip addr value

/-- A chip whose writes are broken stays so. -/
theorem Chip.write_brokenWrites (chip : Chip) (addr : RegAddr) (value : Byte) :
    (chip.write addr value).brokenWrites = chip.brokenWrites := by
  unfold write
  split
  · split <;> rfl
  · split <;> rfl

/-- A chip that takes every write is a memory. -/
theorem describes_answer (chip : Chip) (m : Contents) (o : BusOp)
    (h : chip.brokenWrites = [] ∧ m.Describes chip) :
    memory.allow m o (chip.answer o).1 ∧ (chip.answer o).2.brokenWrites = [] ∧
      Contents.Describes (memory.next m o (chip.answer o).1) (chip.answer o).2 := by
  obtain ⟨hbroken, hm⟩ := h
  cases o with
  | read addr =>
      refine ⟨?_, hbroken, fun other hother value hvalue => ?_⟩
      · -- a status register may change by itself, so the memory says nothing of it
        cases hstatus : isStatus addr with
        | true => exact Or.inl hstatus
        | false =>
            cases hknown : m addr with
            | none => exact Or.inr (Or.inl hknown)
            | some value =>
                refine Or.inr (Or.inr ?_)
                rw [hknown, hm addr hstatus value hknown]
      · change (if isStatus addr then m else
          Function.update m addr (some (chip.reg addr))) other = some value at hvalue
        split at hvalue
        · exact hm other hother value hvalue
        · by_cases haddr : other = addr
          · rw [haddr, Function.update_self] at hvalue
            rw [haddr]
            exact Option.some.inj hvalue
          · rw [Function.update_of_ne haddr] at hvalue
            exact hm other hother value hvalue
  | write addr value =>
      have hanswer : chip.answer (.write addr value) = (.ok (), chip.write addr value) := by
        simp [Chip.answer, hbroken]
      rw [hanswer]
      refine ⟨trivial, (chip.write_brokenWrites addr value).trans hbroken, ?_⟩
      intro other hother known hknown
      change (if isSoftReset addr value then fun _ => none else
        Function.update m addr (some value)) other = some known at hknown
      split at hknown
      · cases hknown
      · -- a write is remembered as written, and leaves the other registers
        by_cases haddr : other = addr
        · rw [haddr, Function.update_self] at hknown
          rw [haddr, chip.reg_write_self (haddr ▸ hother), Option.some.inj hknown]
        · rw [Function.update_of_ne haddr] at hknown
          rw [chip.reg_write_ne haddr hother]
          exact hm other hother known hknown
  | reset => exact ⟨trivial, hbroken, hm⟩
  | readPair addr => exact ⟨trivial, hbroken, hm⟩
  | postResetDelay => exact ⟨trivial, hbroken, hm⟩
  | mark mk => exact ⟨trivial, hbroken, hm⟩

/-- A run on such a chip is one the memory allows. -/
theorem allowed_chip {α : Type} (q : Prog BusEffect α) (chip : Chip)
    (hbroken : chip.brokenWrites = []) {m : Contents} (hm : m.Describes chip) :
    memory.Allowed m (q.runWith Chip.answer chip).1 :=
  (Prog.allowed_runWith (M := memory)
    (R := fun (chip : Chip) (m : Contents) => chip.brokenWrites = [] ∧ m.Describes chip)
    describes_answer q chip m ⟨hbroken, hm⟩).1

/-- A chip is described by the file of its registers. -/
theorem known_describes (chip : Chip) : (known chip.reg).Describes chip :=
  fun _ _ _ hvalue => Option.some.inj hvalue

/-! ### Known registers -/

/-- A masked write of a known file leaves a known file. -/
theorem known_write (s : Effectful.Field RegAddr) (file : RegAddr → Byte) :
    Function.update (known file) s.addr (some (mergeBits (file s.addr) s.mask s.value)) =
      known (s.write file) := by
  funext addr
  rw [known, Effectful.Field.write]
  by_cases haddr : addr = s.addr
  · rw [haddr, Function.update_self, Function.update_self]
  · rw [Function.update_of_ne haddr, Function.update_of_ne haddr]
    rfl

/-- Reading what is known tells nothing. -/
theorem known_read (file : RegAddr → Byte) (addr : RegAddr) :
    (known file).next (.read addr) (.ok (file addr)) = known file := by
  rw [Contents.next]
  split
  · rfl
  · exact Function.update_eq_self addr (known file)

/-- A register that a step of the configuration writes. -/
def isControl (addr : RegAddr) : Bool := !isStatus addr && addr != Regs.bcOp2

section
variable [LoopFuel]

/-- The program performs the writes, for a session with the profile `cfg`. -/
structure Rewrites (cfg : PumpConfig) (x : PumpM Unit) (writes : List (Effectful.Field RegAddr)) :
    Prop where
  run : ∀ p file, p.config = cfg → p.state ≠ .closed → x.wp memory
    (fun outcome p' m' => outcome = .ok () ∧ p'.config = cfg ∧ p'.state ≠ .closed ∧
      m' = known (writeAll writes file)) p (known file)

section
variable {cfg : PumpConfig} {x : PumpM Unit}

omit [LoopFuel] in
/-- One list after the other. -/
theorem Rewrites.bind {y : PumpM Unit} {first rest : List (Effectful.Field RegAddr)}
    (hx : Rewrites cfg x first) (hy : Rewrites cfg y rest) :
    Rewrites cfg (x >>= fun _ => y) (first ++ rest) := by
  refine ⟨fun p file hcfg hopen => ?_⟩
  refine (Proc.wp_bind _ _ _ _ _).2 (Proc.wp_mono (hx.run p file hcfg hopen) ?_)
  rintro outcome p' m' ⟨rfl, hcfg', hopen', rfl⟩
  rw [writeAll_append]
  exact hy.run p' _ hcfg' hopen'

omit [LoopFuel] in
/-- A change of the session writes nothing. -/
theorem Rewrites.modify {f : Pump → Pump} (hconfig : ∀ p, (f p).config = p.config)
    (hstate : ∀ p, p.state ≠ .closed → (f p).state ≠ .closed) :
    Rewrites cfg (Proc.modify f) [] := by
  refine ⟨fun p file hcfg hopen => (Proc.wp_modify _ _ _ _).2 ?_⟩
  exact ⟨rfl, (hconfig p).trans hcfg, hstate p hopen, rfl⟩

omit [LoopFuel] in
/-- A mark writes nothing. -/
theorem Rewrites.mark (mk : Mark) : Rewrites cfg (Ln8000.mark mk) [] := by
  refine ⟨fun p file hcfg hopen => (mark_wp _ _ _ _).2 ⟨trivial, fun _ _ => ?_⟩⟩
  exact ⟨rfl, hcfg, hopen, rfl⟩

omit [LoopFuel] in
/-- An open session passes the check. -/
theorem Rewrites.ensureOpen : Rewrites cfg Ln8000.ensureOpen [] :=
  ⟨fun _ _ hcfg hopen => ensureOpen_wp hopen ⟨rfl, hcfg, hopen, rfl⟩⟩

omit [LoopFuel] in
/-- The profile is the one of the session. -/
theorem Rewrites.get_bind {f : Pump → PumpM Unit} {writes : List (Effectful.Field RegAddr)}
    (hf : ∀ p : Pump, p.config = cfg → Rewrites cfg (f p) writes) :
    Rewrites cfg (Proc.get >>= f) writes :=
  ⟨fun p file hcfg hopen => (Proc.wp_get_bind _ _ _ _).2 ((hf p hcfg).run p file hcfg hopen)⟩

omit [LoopFuel] in
/-- A setpoint that has a code, in front of a program that writes it. -/
theorem Rewrites.ofExcept_bind {r : Except PumpError Byte} {a : Byte} (hr : r = .ok a)
    {f : Byte → PumpM Unit} {writes : List (Effectful.Field RegAddr)}
    (hf : Rewrites cfg (f a) writes) :
    Rewrites cfg (Proc.ofExcept r >>= f) writes := by
  subst hr
  exact ⟨hf.run⟩

/-- What a write has brought about, for a session with the profile `cfg`. -/
def Written (cfg : PumpConfig) (file : RegAddr → Byte) (p : Pump) (m : Contents) : Prop :=
  p.config = cfg ∧ p.state ≠ .closed ∧ m = known file

omit [LoopFuel] in
/-- What was written does not depend on the counters of the session. -/
theorem Written.frame {file : RegAddr → Byte} (p p' : Pump) (m : Contents) (ht : p.Transfers p')
    (h : Written cfg file p m) : Written cfg file p' m :=
  ⟨ht.config.trans h.1, fun hclosed => h.2.1 (ht.continues.2 hclosed), h.2.2⟩

omit [LoopFuel] in
/-- A read of a control register leaves what was written. -/
theorem Written.read {file : RegAddr → Byte} {addr : RegAddr} (haddr : isControl addr = true) :
    OpKeeps memory (Written cfg file) (.read addr) := by
  rintro p m ⟨hcfg, hopen, rfl⟩
  refine ⟨trivial, fun r hr => ⟨hcfg, hopen, ?_⟩⟩
  cases r with
  | error err => exact hr.elim
  | ok value =>
      obtain ⟨hstatus, -⟩ : isStatus addr = false ∧ addr ≠ Regs.bcOp2 := by
        simpa [isControl] using haddr
      have hvalue : value = file addr := value_of_allow (m := known file) hstatus rfl hr
      rw [hvalue]
      exact known_read file addr

/-- A verified write of a control register, by what it does to the known registers. -/
theorem writeVerified_known {addr : RegAddr} (haddr : isControl addr = true) (value : Byte)
    (name : String) {file after : RegAddr → Byte}
    (hafter : Function.update (known file) addr (some value) = known after) {p : Pump}
    (hcfg : p.config = cfg) (hopen : p.state ≠ .closed) :
    (Ln8000.writeVerified addr value name).wp memory
      (fun outcome p' m' => Written cfg after p' m' ∧ outcome = .ok ()) p (known file) := by
  obtain ⟨hstatus, hreset⟩ : isStatus addr = false ∧ addr ≠ Regs.bcOp2 := by
    simpa [isControl] using haddr
  refine writeVerified_wp_sure Written.frame (opSure_memory _) (opSure_memory _)
    (readsBack_memory hstatus hreset) (Written.read haddr) trivial fun _ => ⟨hcfg, hopen, ?_⟩
  exact (Contents.next_write hreset (known file) value).trans hafter

/-- A verified write of a whole control register. -/
theorem Rewrites.writeVerified {addr : RegAddr} (haddr : isControl addr = true) (value : Byte)
    (name : String) :
    Rewrites cfg (Ln8000.writeVerified addr value name) [⟨name, addr, 0xFF, value⟩] := by
  refine ⟨fun p file hcfg hopen => ?_⟩
  have hwhole : mergeBits (file addr) 0xFF value = value := by
    have hself := mergeBits_and_self (file addr) (BitVec.allOnes 8) value
    rwa [BitVec.and_allOnes, BitVec.and_allOnes] at hself
  have hafter := known_write ⟨name, addr, 0xFF, value⟩ file
  rw [hwhole] at hafter
  refine Proc.wp_mono (writeVerified_known haddr value name hafter hcfg hopen) ?_
  rintro outcome p' m' ⟨⟨hcfg', hopen', hm⟩, hok⟩
  exact ⟨hok, hcfg', hopen', hm⟩

/-- A read-modify-write of a control register. -/
theorem Rewrites.update {addr : RegAddr} (haddr : isControl addr = true) (mask value : Byte)
    (name : String) :
    Rewrites cfg (Ln8000.update addr mask value name) [⟨name, addr, mask, value⟩] := by
  refine ⟨fun p file hcfg hopen => ?_⟩
  obtain ⟨hstatus, -⟩ : isStatus addr = false ∧ addr ≠ Regs.bcOp2 := by
    simpa [isControl] using haddr
  -- the read gives back what the memory holds
  have hread := read_wp_sure (M := memory) (opSure_memory (.read addr))
    (R := fun current p' m' => current = file addr ∧ Written cfg file p' m') (p := p)
    (m := known file) trivial fun current hv => by
      have hcurrent : current = file addr := value_of_allow (m := known file) hstatus rfl hv
      refine ⟨hcurrent, hcfg, hopen, ?_⟩
      rw [hcurrent]
      exact known_read file addr
  refine (Proc.wp_bind _ _ _ _ _).2 (Proc.wp_mono hread ?_)
  rintro outcome p' m' ⟨current, rfl, rfl, hcfg', hopen', rfl⟩
  -- and the write leaves the merge, verified or not
  have hafter := known_write ⟨name, addr, mask, value⟩ file
  refine Proc.wp_mono (writeVerified_known haddr _ name hafter hcfg' hopen') ?_
  rintro outcome p' m' ⟨⟨hcfg', hopen', hm⟩, hok⟩
  exact ⟨hok, hcfg', hopen', hm⟩

end

end

end Ln8000
