import NabuCharger.Core.Adapter

/-!
# `Core.Icl`: the grid of the input current limit

The limit register holds a step number: code `n` stands for the current `min + n * step`.
`IclEncoding.encode` rounds down to a code and fails outside the grid, `decode` goes back, and
`quantizeDown` rounds an arbitrary current down to the grid, but not below its minimum. All
arithmetic is saturating on 32 bits.

`quantizeDown_le_max` says what this floor does to a bound: the result is at most the current
or the grid minimum, whichever is larger. `decode_encode_quantizeDown` is the round trip: the code
of a quantised current stands for that current.
-/

set_option autoImplicit false

namespace ChargerCore

open Effectful

/-- Step of the grid. -/
def iclStepUa : Nat := 100000
/-- The highest code of the five bits. -/
def iclRawMax : Byte := 0x1F

/-- Encoding grid for the input current limit. -/
structure IclEncoding where
  minUa : Nat
  stepUa : Nat
  rawMax : Byte
  minUa_le : minUa ≤ wordMax 32
  stepUa_le : stepUa ≤ wordMax 32
  deriving DecidableEq, Repr

namespace IclEncoding

/-- The grid of the chip. -/
def standard : IclEncoding where
  minUa := minIclUa
  stepUa := iclStepUa
  rawMax := iclRawMax
  minUa_le := by decide
  stepUa_le := by decide

variable (grid : IclEncoding)

/-- Current of the code `raw`. -/
def decode (raw : Byte) : Nat :=
  satAdd 32 grid.minUa (satMul 32 grid.stepUa raw.toNat)

/-- Largest current of the grid. -/
def maxUa : Nat := grid.decode grid.rawMax

/-- Code of a current, rounded down to a step. -/
def encode (iclUa : Nat) : Except ChargerError Byte :=
  if grid.stepUa = 0 ∨ iclUa < grid.minUa then .error (.currentOutOfRange iclUa grid.maxUa)
  else
    let steps := (iclUa - grid.minUa) / grid.stepUa
    if grid.rawMax.toNat < steps then .error (.currentOutOfRange iclUa grid.maxUa)
    else .ok (BitVec.ofNat 8 steps)

/-- The current rounded down to the grid, not below its minimum. -/
def quantizeDown (iclUa : Nat) : Nat :=
  if grid.stepUa = 0 ∨ iclUa ≤ grid.minUa then grid.minUa
  else
    let steps := (iclUa - grid.minUa) / grid.stepUa
    if grid.rawMax.toNat < steps then grid.decode grid.rawMax
    else grid.decode (BitVec.ofNat 8 steps)

variable {grid}

/-- Without a step, no current has a code. -/
theorem encode_of_step_zero (h : grid.stepUa = 0) (iclUa : Nat) :
    grid.encode iclUa = .error (.currentOutOfRange iclUa grid.maxUa) :=
  if_pos (.inl h)

/-- Every code stands for at least the lowest current. -/
theorem minUa_le_decode (raw : Byte) : grid.minUa ≤ grid.decode raw := by
  have h := grid.minUa_le
  simp only [decode, satAdd]
  omega

/-- A code of at most `steps` stands for at most `minUa + steps * stepUa`. -/
theorem decode_le_of_steps {raw : Byte} {steps : Nat} (h : raw.toNat ≤ steps) :
    grid.decode raw ≤ grid.minUa + steps * grid.stepUa := by
  have hmul : grid.stepUa * raw.toNat ≤ steps * grid.stepUa := by
    rw [Nat.mul_comm]
    exact Nat.mul_le_mul_right _ h
  simp only [decode, satAdd, satMul]
  omega

/-- So rounding down stays at or above it. -/
theorem minUa_le_quantizeDown (iclUa : Nat) : grid.minUa ≤ grid.quantizeDown iclUa := by
  simp only [quantizeDown]
  split
  · exact Nat.le_refl _
  · split
    · exact minUa_le_decode _
    · exact minUa_le_decode _

/-- The steps below a current add up to no more than it. -/
theorem steps_mul_le {iclUa : Nat} (h : grid.minUa ≤ iclUa) :
    grid.minUa + (iclUa - grid.minUa) / grid.stepUa * grid.stepUa ≤ iclUa := by
  have hdiv := Nat.div_mul_le_self (iclUa - grid.minUa) grid.stepUa
  omega

/-- The code of a step count that the field can hold. -/
theorem toNat_ofNat_steps {steps : Nat} (h : ¬grid.rawMax.toNat < steps) :
    (BitVec.ofNat 8 steps).toNat = steps := by
  have hmax := grid.rawMax.isLt
  rw [BitVec.toNat_ofNat]
  exact Nat.mod_eq_of_lt (by omega)

/-- The floor at the grid minimum is the only way up. -/
theorem quantizeDown_le_max (iclUa : Nat) : grid.quantizeDown iclUa ≤ max iclUa grid.minUa := by
  simp only [quantizeDown]
  split
  · exact Nat.le_max_right _ _
  · rename_i hlow
    have hmin : grid.minUa ≤ iclUa := by omega
    have hsteps := steps_mul_le hmin
    split
    · rename_i hcap
      -- above the grid: the top code decodes to less than what was asked
      have hdecode : grid.decode grid.rawMax ≤ _ := decode_le_of_steps (Nat.le_of_lt hcap)
      omega
    · rename_i hfits
      have hdecode : grid.decode _ ≤ _ :=
        decode_le_of_steps (Nat.le_of_eq (toNat_ofNat_steps hfits))
      omega

/-- A bound is kept exactly when the grid starts below it. -/
theorem quantizeDown_le_iff (bound : Nat) :
    grid.quantizeDown bound ≤ bound ↔ grid.minUa ≤ bound := by
  constructor
  · intro h
    exact Nat.le_trans (minUa_le_quantizeDown bound) h
  · intro h
    have hmax : grid.quantizeDown bound ≤ _ := quantizeDown_le_max bound
    rwa [Nat.max_eq_left h] at hmax

/-- The current of a step that fits is on the grid. -/
theorem decode_ofNat {steps : Nat} (hfield : steps ≤ grid.rawMax.toNat)
    (hword : grid.minUa + steps * grid.stepUa ≤ wordMax 32) :
    grid.decode (BitVec.ofNat 8 steps) = grid.minUa + steps * grid.stepUa := by
  rw [decode, toNat_ofNat_steps (Nat.not_lt_of_le hfield)]
  simp only [satAdd, satMul, Nat.mul_comm grid.stepUa]
  omega

/-- A quantised current is a step of the grid, and no step of it overflows. -/
theorem quantizeDown_grid {iclUa : Nat} (hword : iclUa ≤ wordMax 32) :
    ∃ steps, steps ≤ grid.rawMax.toNat ∧ grid.minUa + steps * grid.stepUa ≤ wordMax 32 ∧
      grid.quantizeDown iclUa = grid.minUa + steps * grid.stepUa := by
  have hminWord := grid.minUa_le
  simp only [quantizeDown]
  split
  · -- below the grid the answer is its first step
    exact ⟨0, Nat.zero_le _, by omega, by omega⟩
  · rename_i hlow
    have hmin : grid.minUa ≤ iclUa := by omega
    have hsteps := steps_mul_le hmin
    split
    · rename_i hcap
      -- above the grid the answer is its last step
      have hmul := Nat.mul_le_mul_right grid.stepUa (Nat.le_of_lt hcap)
      have hfits : grid.minUa + grid.rawMax.toNat * grid.stepUa ≤ wordMax 32 := by omega
      refine ⟨grid.rawMax.toNat, Nat.le_refl _, hfits, ?_⟩
      rw [← decode_ofNat (Nat.le_refl _) hfits, BitVec.ofNat_toNat, BitVec.setWidth_eq]
    · rename_i hfield
      have hfits := Nat.le_trans hsteps hword
      exact ⟨_, Nat.le_of_not_lt hfield, hfits, decode_ofNat (Nat.le_of_not_lt hfield) hfits⟩

/-- The code of a quantised current stands for that current. -/
theorem decode_encode_quantizeDown {iclUa : Nat} {raw : Byte} (hword : iclUa ≤ wordMax 32)
    (hcode : grid.encode (grid.quantizeDown iclUa) = .ok raw) :
    grid.decode raw = grid.quantizeDown iclUa := by
  obtain ⟨steps, hfield, hfits, hgrid⟩ : ∃ steps, _ ∧ _ ∧ grid.quantizeDown iclUa = _ :=
    quantizeDown_grid hword
  rw [hgrid] at hcode ⊢
  simp only [encode] at hcode
  split at hcode
  · nomatch hcode
  · rename_i hgood
    have hstep : 0 < grid.stepUa := by omega
    -- the division of the encoder undoes the multiplication of the grid
    have hback : (grid.minUa + steps * grid.stepUa - grid.minUa) / grid.stepUa = steps := by
      rw [Nat.add_sub_cancel_left]
      exact Nat.mul_div_cancel steps hstep
    rw [hback, if_neg (Nat.not_lt_of_le hfield)] at hcode
    cases hcode
    exact decode_ofNat hfield hfits

end IclEncoding

end ChargerCore
