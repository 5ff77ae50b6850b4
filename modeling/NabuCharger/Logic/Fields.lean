import Mathlib.Logic.Function.Basic
import NabuCharger.Logic.Word

/-!
# `Logic.Fields`: masked writes of a register file

A device is set up by a sequence of read-modify-writes, each of the bits under a mask. A
`Field` is one such write: register, mask and value. `writeAll` performs a list of them, in
order.

Bits outside the masks stay as they were (`writeAll_outside`). A field holds after the list
when every write behind it agrees with it on the bits they share (`holds_writeAll`), which
writes with disjoint masks do (`Field.Apart.agrees`). Two fields of one register that both
hold agree (`Field.Holds.agrees`).
-/

set_option autoImplicit false

namespace Effectful

/-- A write of the bits of `value` under `mask`. -/
structure Field (A : Type) where
  name : String
  addr : A
  mask : Byte
  value : Byte
  deriving DecidableEq, Repr

namespace Field

variable {A : Type} [DecidableEq A]

/-- The register file after the write. -/
def write (s : Field A) (file : A → Byte) : A → Byte :=
  Function.update file s.addr (mergeBits (file s.addr) s.mask s.value)

/-- The register has the field's value under its mask. -/
def Holds (s : Field A) (file : A → Byte) : Prop :=
  file s.addr &&& s.mask = s.value &&& s.mask

/-- `t` writes the bits it shares with `s` the way `s` does. -/
def Agrees (s t : Field A) : Prop :=
  s.addr = t.addr → s.value &&& (s.mask &&& t.mask) = t.value &&& (s.mask &&& t.mask)

/-- The writes share no bit. -/
def Apart (s t : Field A) : Prop := s.addr = t.addr → s.mask &&& t.mask = 0

/-- All of the write but its value. -/
def key (s : Field A) : String × A × Byte := (s.name, s.addr, s.mask)

instance (s t : Field A) : Decidable (s.Apart t) := inferInstanceAs (Decidable (_ → _))

omit [DecidableEq A] in
/-- Fields that share no bit agree. -/
theorem Apart.agrees {s t : Field A} (h : s.Apart t) : s.Agrees t := by
  intro haddr
  rw [h haddr]
  exact BitVec.and_zero.trans BitVec.and_zero.symm

/-- A field holds what was written to it. -/
theorem holds_write (s : Field A) (file : A → Byte) : s.Holds (s.write file) := by
  rw [Holds, write, Function.update_self]
  exact mergeBits_and_self _ _ _

omit [DecidableEq A] in
/-- Under both masks the register has the bits of both fields. -/
theorem Holds.agrees {s t : Field A} {file : A → Byte} (hs : s.Holds file)
    (ht : t.Holds file) : s.Agrees t := by
  intro haddr
  have hleft : file s.addr &&& (s.mask &&& t.mask) = s.value &&& (s.mask &&& t.mask) := by
    rw [← BitVec.and_assoc, hs, BitVec.and_assoc]
  have hright : file t.addr &&& (s.mask &&& t.mask) = t.value &&& (s.mask &&& t.mask) := by
    rw [BitVec.and_comm s.mask, ← BitVec.and_assoc, ht, BitVec.and_assoc]
  rw [← hleft, haddr, hright]

/-- A write that agrees with a field leaves it in place. -/
theorem Holds.write {s t : Field A} {file : A → Byte} (hs : s.Holds file) (h : s.Agrees t) :
    s.Holds (t.write file) := by
  rw [Holds, Field.write]
  -- on the same register bit by bit: the shared bits agree, the others are kept
  by_cases haddr : s.addr = t.addr
  · have hshared := h haddr
    rw [haddr, Function.update_self, ← haddr]
    rw [Holds] at hs
    ext i hi
    have hbit := congrArg (fun b : Byte => b[i]) hs
    have hcommon := congrArg (fun b : Byte => b[i]) hshared
    simp only [BitVec.getElem_and] at hbit hcommon
    simp only [mergeBits, BitVec.getElem_and, BitVec.getElem_or, BitVec.getElem_not]
    revert hbit hcommon
    cases s.mask[i] <;> cases t.mask[i] <;> simp_all
  · rw [Function.update_of_ne haddr]
    exact hs

end Field

variable {A : Type} [DecidableEq A]

/-- The register file after the writes, in order. -/
def writeAll (writes : List (Field A)) (file : A → Byte) : A → Byte :=
  writes.foldl (fun f s => s.write f) file

/-- Without a write the file is as it was. -/
@[simp] theorem writeAll_nil (file : A → Byte) : writeAll [] file = file := rfl

/-- The first write comes first. -/
@[simp] theorem writeAll_cons (s : Field A) (writes : List (Field A)) (file : A → Byte) :
    writeAll (s :: writes) file = writeAll writes (s.write file) := rfl

/-- The writes of two lists, one list after the other. -/
theorem writeAll_append (first rest : List (Field A)) (file : A → Byte) :
    writeAll (first ++ rest) file = writeAll rest (writeAll first file) :=
  List.foldl_append

/-- A register that no write is of stays as it was. -/
theorem writeAll_of_ne {addr : A} {writes : List (Field A)} :
    ∀ {file : A → Byte}, (∀ s ∈ writes, s.addr ≠ addr) → writeAll writes file addr = file addr := by
  induction writes with
  | nil => exact fun _ => rfl
  | cons s writes ih =>
      intro file hne
      rw [writeAll_cons, ih fun t ht => hne t (List.mem_cons_of_mem _ ht), Field.write]
      exact Function.update_of_ne (hne s (List.mem_cons_self ..)).symm _ _

/-- Writes that agree with a field that holds leave it in place. -/
theorem holds_writeAll {s : Field A} {writes : List (Field A)} :
    ∀ {file : A → Byte}, s.Holds file → (∀ t ∈ writes, s.Agrees t) →
      s.Holds (writeAll writes file) := by
  induction writes with
  | nil => exact fun hs _ => hs
  | cons t writes ih =>
      intro file hs hagrees
      rw [writeAll_cons]
      have hnext := hs.write (hagrees t (List.mem_cons_self ..))
      exact ih hnext fun u hu => hagrees u (List.mem_cons_of_mem _ hu)

/-- A field of the list holds after it, if every later write agrees with it. -/
theorem holds_of_pairwise {s : Field A} {writes : List (Field A)} (hs : s ∈ writes)
    {P : Field A → Field A → Prop} (hwrites : writes.Pairwise P)
    (hagrees : ∀ t ∈ writes, P s t → s.Agrees t) (file : A → Byte) :
    s.Holds (writeAll writes file) := by
  obtain ⟨before, behind, rfl⟩ := List.append_of_mem hs
  have hbehind : ∀ t ∈ behind, P s t := fun t ht =>
    List.rel_of_pairwise_cons (List.pairwise_append.1 hwrites).2.1 ht
  rw [writeAll_append, writeAll_cons]
  refine holds_writeAll (s.holds_write _) fun t ht => ?_
  exact hagrees t (List.mem_append_right _ (List.mem_cons_of_mem _ ht)) (hbehind t ht)

omit [DecidableEq A] in
/-- Whether the writes of two lists share bits depends on their keys only. -/
theorem pairwise_apart_of_keys {P : String → String → Prop} {writes other : List (Field A)}
    (hkeys : writes.map Field.key = other.map Field.key)
    (hother : other.Pairwise fun s t => P s.name t.name → s.Apart t) :
    writes.Pairwise fun s t => P s.name t.name → s.Apart t := by
  let R : String × A × Byte → String × A × Byte → Prop := fun a b =>
    P a.1 b.1 → a.2.1 = b.2.1 → a.2.2 &&& b.2.2 = 0
  have hlist : (writes.map Field.key).Pairwise R := hkeys ▸ List.pairwise_map.2 hother
  exact List.pairwise_map.1 hlist

/-- The bits of a register that the writes cover. -/
def coveredBits (writes : List (Field A)) (addr : A) : Byte :=
  writes.foldr (fun s covered => if s.addr = addr then s.mask ||| covered else covered) 0

/-- Bits outside the masks stay as they were. -/
theorem writeAll_outside (writes : List (Field A)) (addr : A) (keep : Byte)
    (hkeep : keep &&& coveredBits writes addr = 0) :
    ∀ file : A → Byte, writeAll writes file addr &&& keep = file addr &&& keep := by
  induction writes with
  | nil => exact fun file => rfl
  | cons s writes ih =>
      intro file
      rw [coveredBits, List.foldr_cons] at hkeep
      change keep &&& (if s.addr = addr then s.mask ||| coveredBits writes addr
        else coveredBits writes addr) = 0 at hkeep
      rw [writeAll_cons]
      -- a write elsewhere leaves the register; one here leaves the uncovered bits
      by_cases haddr : s.addr = addr
      · rw [if_pos haddr, BitVec.and_or_distrib_left] at hkeep
        obtain ⟨hmask, hrest⟩ := BitVec.or_eq_zero_iff.1 hkeep
        rw [ih hrest, Field.write, haddr, Function.update_self]
        exact mergeBits_and_of_disjoint hmask _ _
      · rw [if_neg haddr] at hkeep
        rw [ih hkeep, Field.write, Function.update_of_ne (Ne.symm haddr)]

end Effectful
