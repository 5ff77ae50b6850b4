import Mathlib.Data.BitVec

/-!
# `Logic.Word`: saturating words and masked bytes

Two arithmetic idioms of register-level code. Unsigned words are natural numbers and their
saturating operations cap the result at the largest value of the width. Bytes are
`BitVec 8`, and a read-modify-write replaces the bits under a mask:
`mergeBits old mask new`. The lemmas say which bits of the merged byte come from which
side, `mergeBits_and_self` for the bits under the mask and `mergeBits_and_of_disjoint` for
the bits beside it.
-/

set_option autoImplicit false

namespace Effectful

/-- Largest value of an unsigned word of `w` bits. -/
def wordMax (w : Nat) : Nat := 2 ^ w - 1

/-- Saturating sum of words of `w` bits. -/
def satAdd (w a b : Nat) : Nat := min (a + b) (wordMax w)

/-- Saturating product of words of `w` bits. -/
def satMul (w a b : Nat) : Nat := min (a * b) (wordMax w)

/-- One byte. -/
abbrev Byte : Type := BitVec 8

/-- The byte with only bit `n` set. -/
def bit (n : Nat) : Byte := 1 <<< n

/-- The byte `old` with the bits under `mask` taken from `new`. -/
def mergeBits (old mask new : Byte) : Byte := (old &&& ~~~mask) ||| (new &&& mask)

/-- The bits that were set are set. -/
theorem or_and_self_right (old part : Byte) : (old ||| part) &&& part = part := by
  ext i
  simp only [BitVec.getElem_and, BitVec.getElem_or]
  cases old[i] <;> simp

/-- Under the mask, the merged byte is the new one. -/
theorem mergeBits_and_self (old mask new : Byte) :
    mergeBits old mask new &&& mask = new &&& mask := by
  ext i hi
  simp only [mergeBits, BitVec.getElem_and, BitVec.getElem_or, BitVec.getElem_not]
  cases mask[i] <;> simp

/-- Beside the mask, the merged byte is the old one. -/
theorem mergeBits_and_of_disjoint {mask keep : Byte} (h : keep &&& mask = 0)
    (old new : Byte) : mergeBits old mask new &&& keep = old &&& keep := by
  ext i hi
  have hbit : (keep[i] && mask[i]) = false := by
    rw [← BitVec.getElem_and, h]
    exact BitVec.getElem_zero hi
  simp only [mergeBits, BitVec.getElem_and, BitVec.getElem_or, BitVec.getElem_not]
  revert hbit
  cases keep[i] <;> cases mask[i] <;> simp

/-- A part of the mask reads the new byte. -/
theorem mergeBits_and_of_subset {mask part : Byte} (h : part &&& mask = part)
    (old new : Byte) : mergeBits old mask new &&& part = new &&& part := by
  have hself := mergeBits_and_self old mask new
  calc mergeBits old mask new &&& part
      = mergeBits old mask new &&& mask &&& part := by
        rw [BitVec.and_assoc, BitVec.and_comm mask, h]
    _ = new &&& mask &&& part := by rw [hself]
    _ = new &&& part := by rw [BitVec.and_assoc, BitVec.and_comm mask, h]

end Effectful
