import NabuCharger.Core.Icl
import NabuCharger.Ln8000.Encoding
import NabuCharger.Logic.Grid

/-!
# `Proofs.Setpoints`: the registers that hold a limit

Three registers of the chargers hold a limit as a count of steps: the float voltage and the input
current of the pump, and the input current limit of an adapter. Rounding one of them up would
charge harder than the caller asked, so the encoders round down.

Each register is a `Grid`, and its encoder computes `Grid.quantize`. What rounding down means is
then `RoundsDown` of the grid. The field of the pump's input current can hold codes below its
minimum. No encoder writes those and they are not valid (`IinCodeValid`).

The adapter's grid is a parameter, and `Fits` says that its largest current does not saturate.
-/

set_option autoImplicit false

namespace Ln8000

open Effectful

/-! ### Float voltage -/

/-- The codes of the float voltage. -/
def floatGrid : Grid where
  origin := Regs.vbatFloatMinUv
  step := Regs.vbatFloatStepUv
  first := 0
  last := 255
  step_pos := by decide
  first_le_last := by decide

/-- The float grid starts at the lowest float voltage. -/
theorem floatGrid_bottom : floatGrid.bottom = Regs.vbatFloatMinUv := rfl

/-- The float grid ends at the highest float voltage. -/
theorem floatGrid_top : floatGrid.top = Regs.vbatFloatMaxUv := rfl

/-- A float voltage is rounded down in steps of 5 mV. -/
theorem floatGrid_quantize (vbatUv : Nat) :
    floatGrid.quantize vbatUv = min 255 ((vbatUv - 3725000) / 5000) :=
  Nat.zero_max _

/-- The decoder of the float voltage is the value of the grid. -/
theorem decodeVbatFloat_eq (raw : Byte) : decodeVbatFloat raw = floatGrid.value raw.toNat := by
  have hraw := raw.isLt
  have horigin : floatGrid.origin = 3725000 := rfl
  have hstep : floatGrid.step = 5000 := rfl
  simp only [decodeVbatFloat, Grid.value, satAdd, satMul, wordMax, Regs.vbatFloatMinUv,
    Regs.vbatFloatStepUv, horigin, hstep]
  omega

/-- The encoder rounds down to the grid and saturates at its ends. -/
theorem toNat_encodeVbatFloat (vbatUv : Nat) :
    (encodeVbatFloat vbatUv).toNat = floatGrid.quantize vbatUv := by
  rw [encodeVbatFloat]
  -- below the grid, above it, or on it
  split
  · next hlow =>
      rw [Grid.quantize_of_le_bottom (g := floatGrid) hlow]
      rfl
  · next hlow =>
      split
      · next hhigh =>
          rw [Grid.quantize_of_top_le (g := floatGrid) hhigh]
          rfl
      · next hhigh =>
          rw [Regs.vbatFloatMaxUv] at hhigh
          rw [BitVec.toNat_ofNat, floatGrid_quantize, Regs.vbatFloatMinUv, Regs.vbatFloatStepUv]
          omega

/-- A code of the float voltage is read back. -/
theorem encode_decodeVbatFloat (raw : Byte) : encodeVbatFloat (decodeVbatFloat raw) = raw := by
  have hraw := raw.isLt
  have hlast : floatGrid.last = 255 := rfl
  apply BitVec.eq_of_toNat_eq
  rw [toNat_encodeVbatFloat, decodeVbatFloat_eq, Grid.quantize_value ⟨Nat.zero_le _, by omega⟩]

/-! ### Input current -/

/-- The codes of the input current from the minimum of the device on. -/
def iinGrid : Grid where
  origin := 0
  step := Regs.iinStepUa
  first := 10
  last := 127
  step_pos := by decide
  first_le_last := by decide

/-- A code the device accepts: the current is not below its minimum, and the field holds it. -/
def IinCodeValid (raw : Byte) : Prop :=
  Regs.iinMinUa ≤ raw.toNat * Regs.iinStepUa ∧ raw ≤ iinCodeMax

/-- The current grid starts at the lowest input limit. -/
theorem iinGrid_bottom : iinGrid.bottom = Regs.iinMinUa := rfl

/-- The current grid ends at the highest input limit. -/
theorem iinGrid_top : iinGrid.top = Regs.iinMaxUa := rfl

/-- An input limit is rounded down in steps of 50 mA, from 500 mA on. -/
theorem iinGrid_quantize (iinUa : Nat) :
    iinGrid.quantize iinUa = max 10 (min 127 (iinUa / 50000)) :=
  rfl

/-- The codes the driver accepts are those of the grid. -/
theorem iinCodeValid_iff (raw : Byte) : IinCodeValid raw ↔ iinGrid.Valid raw.toNat := by
  have hmin : Regs.iinMinUa = 500000 := rfl
  have hstep : Regs.iinStepUa = 50000 := rfl
  have hmax : iinCodeMax.toNat = 127 := rfl
  have hfirst : iinGrid.first = 10 := rfl
  have hlast : iinGrid.last = 127 := rfl
  rw [IinCodeValid, Grid.Valid, BitVec.le_def, hmin, hstep, hmax, hfirst, hlast]
  omega

/-- What the encoder makes of a current it accepts. -/
theorem toNat_encodeIinLimit {iinUa : Nat} {code : Byte} (h : encodeIinLimit iinUa = .ok code) :
    code.toNat = iinGrid.quantize iinUa := by
  have hmax : iinCodeMax.toNat = 127 := rfl
  rw [encodeIinLimit, Regs.iinMinUa, Regs.iinStepUa, hmax] at h
  -- below the minimum there is no code
  split at h
  · cases h
  · next hlow =>
      rw [← Except.ok.inj h, iinGrid_quantize]
      split
      · next hbig =>
          rw [hmax]
          omega
      · next hsmall =>
          rw [BitVec.toNat_ofNat]
          omega

/-- A valid code is read as its current. -/
theorem decodeIinLimit_eq {raw : Byte} (h : iinGrid.Valid raw.toNat) :
    decodeIinLimit raw = iinGrid.value raw.toNat := by
  obtain ⟨hfirst, hlast⟩ := h
  have hten : iinGrid.first = 10 := rfl
  have htop : iinGrid.last = 127 := rfl
  have hvalue : iinGrid.value raw.toNat = 0 + raw.toNat * 50000 := rfl
  have hmask : (raw &&& iinCodeMax).toNat = raw.toNat := by
    have hmax : iinCodeMax.toNat = 2 ^ 7 - 1 := rfl
    rw [BitVec.toNat_and, hmax, Nat.and_two_pow_sub_one_eq_mod]
    omega
  simp only [decodeIinLimit, hmask, hvalue, satMul, wordMax, Regs.iinStepUa, Regs.iinMinUa]
  split <;> omega

/-- A valid code is read back. -/
theorem encode_decodeIinLimit {raw : Byte} (h : IinCodeValid raw) :
    encodeIinLimit (decodeIinLimit raw) = .ok raw := by
  have hvalid := (iinCodeValid_iff raw).1 h
  have hmin : Regs.iinMinUa ≤ decodeIinLimit raw := iinMinUa_le_decodeIinLimit raw
  obtain ⟨code, hcode⟩ := (encodeIinLimit_isOk_iff _).2 hmin
  have hsame : code = raw := by
    apply BitVec.eq_of_toNat_eq
    rw [toNat_encodeIinLimit hcode, decodeIinLimit_eq hvalid, Grid.quantize_value hvalid]
  rw [hcode, hsame]

/-- The encoders of the pump round down. The float voltage takes every request and every code is
valid. The input current rejects what is below the minimum of the device. -/
theorem setpoints_roundDown :
    RoundsDown Regs.vbatFloatMinUv Regs.vbatFloatMaxUv Regs.vbatFloatStepUv
        (fun vbatUv code => encodeVbatFloat vbatUv = code) decodeVbatFloat (fun _ => True) ∧
      RoundsDown Regs.iinMinUa Regs.iinMaxUa Regs.iinStepUa
        (fun iinUa code => encodeIinLimit iinUa = .ok code) decodeIinLimit IinCodeValid ∧
      (∀ iinUa, (∃ code, encodeIinLimit iinUa = .ok code ∧ IinCodeValid code) ↔
        Regs.iinMinUa ≤ iinUa) ∧
      ∀ iinUa < Regs.iinMinUa,
        encodeIinLimit iinUa = .error (.outOfRange "iin_limit_ua" iinUa) := by
  have hiinValid : ∀ {iinUa code}, encodeIinLimit iinUa = .ok code → iinGrid.Valid code.toNat := by
    intro iinUa code hcode
    rw [toNat_encodeIinLimit hcode]
    exact iinGrid.quantize_valid iinUa
  -- both encoders are grids; the current has a code exactly from its minimum on
  refine ⟨?_, ?_, ?_, ?_⟩
  · refine floatGrid.roundsDown ?_ ?_
    · intro vbatUv code hcode
      rw [decodeVbatFloat_eq, ← hcode, toNat_encodeVbatFloat]
    · intro code _
      exact encode_decodeVbatFloat code
  · refine iinGrid.roundsDown ?_ encode_decodeIinLimit
    intro iinUa code hcode
    rw [decodeIinLimit_eq (hiinValid hcode), toNat_encodeIinLimit hcode]
  · intro iinUa
    rw [← encodeIinLimit_isOk_iff]
    constructor
    · intro ⟨code, hcode, _⟩
      exact ⟨code, hcode⟩
    · intro ⟨code, hcode⟩
      exact ⟨code, hcode, (iinCodeValid_iff code).2 (hiinValid hcode)⟩
  · intro iinUa hlow
    rw [encodeIinLimit, if_pos hlow]

end Ln8000

namespace ChargerCore

open Effectful

/-! ### Input current limit of an adapter -/

namespace IclEncoding

/-- The grid has a step, and its largest current does not saturate. -/
structure Fits (grid : IclEncoding) : Prop where
  step_pos : 0 < grid.stepUa
  max_le : grid.minUa + grid.stepUa * grid.rawMax.toNat ≤ wordMax 32

variable {grid : IclEncoding}

/-- The codes of the limit register. -/
def Fits.toGrid (h : grid.Fits) : Grid where
  origin := grid.minUa
  step := grid.stepUa
  first := 0
  last := grid.rawMax.toNat
  step_pos := h.step_pos
  first_le_last := Nat.zero_le _

/-- Within its codes, the decoder of a configured grid is the value of the grid. -/
theorem Fits.decode_eq (h : grid.Fits) {raw : Byte} (hraw : raw ≤ grid.rawMax) :
    grid.decode raw = h.toGrid.value raw.toNat := by
  have hmax := h.max_le
  have hcode : raw.toNat ≤ grid.rawMax.toNat := BitVec.le_def.1 hraw
  have hmul := Nat.mul_le_mul_left grid.stepUa hcode
  have hvalue : h.toGrid.value raw.toNat = grid.minUa + raw.toNat * grid.stepUa := rfl
  rw [hvalue, Nat.mul_comm raw.toNat]
  simp only [decode, satAdd, satMul]
  omega

/-- Rounding a current down to the grid is the value of its rounded code. -/
theorem Fits.quantizeDown_eq (h : grid.Fits) (iclUa : Nat) :
    grid.quantizeDown iclUa = h.toGrid.value (h.toGrid.quantize iclUa) := by
  have hstep := h.step_pos
  have hquantize : h.toGrid.quantize iclUa =
      max 0 (min grid.rawMax.toNat ((iclUa - grid.minUa) / grid.stepUa)) := rfl
  rw [hquantize, Nat.zero_max]
  simp only [quantizeDown]
  -- below the grid, above its field, and between: each is the clamped index
  split
  · next hlow =>
      have hzero : iclUa - grid.minUa = 0 := by omega
      rw [hzero, Nat.zero_div, Nat.min_zero, Grid.value, Nat.zero_mul]
      rfl
  · next hlow =>
      split
      · next hcap =>
          rw [Nat.min_eq_left (Nat.le_of_lt hcap)]
          exact h.decode_eq (BitVec.le_refl _)
      · next hfield =>
          have hcode := toNat_ofNat_steps hfield
          rw [Nat.min_eq_right (Nat.le_of_not_lt hfield)]
          have hraw : BitVec.ofNat 8 ((iclUa - grid.minUa) / grid.stepUa) ≤ grid.rawMax := by
            rw [BitVec.le_def, hcode]
            exact Nat.le_of_not_lt hfield
          rw [h.decode_eq hraw, hcode]

/-- The current of a code has that code. -/
theorem Fits.encode_value (h : grid.Fits) {raw : Byte} (hraw : raw ≤ grid.rawMax) :
    grid.encode (h.toGrid.value raw.toNat) = .ok raw := by
  have hstep := h.step_pos
  have hcode : raw.toNat ≤ grid.rawMax.toNat := BitVec.le_def.1 hraw
  have hvalue : h.toGrid.value raw.toNat = grid.minUa + raw.toNat * grid.stepUa := rfl
  have hsteps : (grid.minUa + raw.toNat * grid.stepUa - grid.minUa) / grid.stepUa = raw.toNat := by
    rw [Nat.add_sub_cancel_left, Nat.mul_div_cancel _ hstep]
  rw [hvalue, encode, if_neg (by omega)]
  simp only [hsteps]
  rw [if_neg (Nat.not_lt_of_le hcode), BitVec.ofNat_toNat, BitVec.setWidth_eq]

/-- The laws of the grid of an adapter's current limit. -/
theorem icl_grid_laws (grid : IclEncoding) (h : grid.Fits) :
    (∀ raw ≤ grid.rawMax, grid.encode (grid.decode raw) = .ok raw) ∧
      (∀ iclUa, grid.quantizeDown iclUa ≤ max iclUa grid.minUa) ∧
      (∀ iclUa, ∃ raw, grid.encode (grid.quantizeDown iclUa) = .ok raw ∧
        grid.decode raw = grid.quantizeDown iclUa) ∧
      (∀ iclUa, grid.quantizeDown (grid.quantizeDown iclUa) = grid.quantizeDown iclUa) ∧
      Monotone grid.quantizeDown := by
  -- decode then encode, never above, encode then decode, idempotent, monotone
  refine ⟨?_, quantizeDown_le_max, ?_, ?_, ?_⟩
  · intro raw hraw
    rw [h.decode_eq hraw]
    exact h.encode_value hraw
  · intro iclUa
    obtain ⟨-, hlast⟩ := h.toGrid.quantize_valid iclUa
    have hlast : h.toGrid.quantize iclUa ≤ grid.rawMax.toNat := hlast
    have hcode := toNat_ofNat_steps (Nat.not_lt_of_le hlast)
    have hraw : BitVec.ofNat 8 (h.toGrid.quantize iclUa) ≤ grid.rawMax := by
      rw [BitVec.le_def, hcode]
      exact hlast
    refine ⟨BitVec.ofNat 8 (h.toGrid.quantize iclUa), ?_, ?_⟩
    · have hencode := h.encode_value hraw
      rwa [hcode, ← h.quantizeDown_eq] at hencode
    · rw [h.decode_eq hraw, hcode, h.quantizeDown_eq]
  · intro iclUa
    rw [h.quantizeDown_eq (grid.quantizeDown iclUa), h.quantizeDown_eq iclUa,
      Grid.quantize_value (h.toGrid.quantize_valid iclUa)]
  · intro a b hle
    rw [h.quantizeDown_eq a, h.quantizeDown_eq b]
    exact h.toGrid.value_strictMono.monotone (Grid.quantize_mono hle)

/-- The laws at the standard grid of the input limit. -/
theorem icl_grid_laws_standard :
    (∀ raw ≤ standard.rawMax, standard.encode (standard.decode raw) = .ok raw) ∧
      (∀ iclUa, standard.quantizeDown iclUa ≤ max iclUa standard.minUa) ∧
      (∀ iclUa, ∃ raw, standard.encode (standard.quantizeDown iclUa) = .ok raw ∧
        standard.decode raw = standard.quantizeDown iclUa) ∧
      (∀ iclUa, standard.quantizeDown (standard.quantizeDown iclUa) =
        standard.quantizeDown iclUa) ∧
      Monotone standard.quantizeDown :=
  icl_grid_laws standard ⟨by decide, by decide⟩

end IclEncoding

end ChargerCore
