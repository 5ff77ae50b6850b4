import NabuCharger.Kmdf.Parameters

/-!
# `Proofs.GuardCurrents`: the currents the guard orders

The guard computes in microamps. The chip stores a count of 50 mA steps between 0.5 A and
6.35 A. The first property is about the orders themselves, two more compare the two scales.

**The direction of an order.** A reduction lowers the setpoint of the chip. A restore raises it,
to no more than the maximum and the deliberate setpoint, and only on a valid sample that is in
no fold-back band. `guard_direction` collects this.

**One action is enough.** `Converges` says that once an ordered current stands in the chip,
the same sample orders no other one. A reduction always converges: the setpoint that comes
back from the register is not above the ceiling it was reduced to. A restore does not,
when the ceiling of the restore is between two steps or above the field. The register then
reads back below the ceiling and the same restore is ordered again, without end.
`converges_iff` is the exact condition.

**Every order can be written.** The registry accepts a floor from 0.1 A on, the encoder a
current from 0.5 A on. `setpointsProgrammable_iff` says that the floor in force decides:
the profile is encodable by construction, the target is not below the floor, and what the
guard restores to is above what a register can read.
-/

set_option autoImplicit false

namespace Kmdf

open Effectful Ln8000

/-! ### The direction of an order -/

/-- A reduction goes to the ceiling of the band the sample is in, and lowers the setpoint. -/
theorem evaluate_eq_reduceCurrent {sample : TelemetrySample} {limits : GuardLimits}
    {applied deliberate : Option Nat} {toUa : Nat} {reason : String}
    (h : evaluate sample limits applied deliberate = .reduceCurrent toUa reason) :
    ∃ setpoint, applied = some setpoint ∧ foldCeiling sample limits = some (toUa, reason) ∧
      toUa < setpoint := by
  have hcurrent : (evaluate sample limits applied deliberate).current = some toUa := by
    rw [h]
    rfl
  obtain ⟨hdecided, setpoint, rfl, -⟩ := evaluate_current hcurrent
  refine ⟨setpoint, rfl, ?_⟩
  rw [evaluate_of_currentDecided hdecided, evaluateCurrent_eq] at h
  -- without a ceiling the ladder does not reduce
  cases hfold : foldCeiling sample limits with
  | none =>
      simp only [hfold] at h
      split at h <;> cases h
  | some ceiling =>
      simp only [hfold, cap] at h
      split at h
      · cases h
      next hlow =>
        cases h
        exact ⟨rfl, not_le.1 hlow⟩

/-- A restore goes to its ceiling, once the sample has left every band, and raises the
setpoint. -/
theorem evaluate_eq_restoreCurrent {sample : TelemetrySample} {limits : GuardLimits}
    {applied deliberate : Option Nat} {toUa : Nat} {reason : String}
    (h : evaluate sample limits applied deliberate = .restoreCurrent toUa reason) :
    currentDecided sample limits = true ∧ foldCeiling sample limits = none ∧
      toUa = restoreCeiling limits deliberate ∧
        ∃ setpoint, applied = some setpoint ∧ setpoint < toUa := by
  have hcurrent : (evaluate sample limits applied deliberate).current = some toUa := by
    rw [h]
    rfl
  obtain ⟨hdecided, setpoint, rfl, -⟩ := evaluate_current hcurrent
  rw [evaluate_of_currentDecided hdecided, evaluateCurrent_eq] at h
  -- with a ceiling the ladder does not restore
  cases hfold : foldCeiling sample limits with
  | some ceiling =>
      simp only [hfold, cap] at h
      split at h <;> cases h
  | none =>
      simp only [hfold] at h
      split at h
      next hrestore =>
        cases h
        exact ⟨hdecided, rfl, rfl, setpoint, rfl, hrestore.1⟩
      · cases h

/-- The ceiling of a restore is within the maximum and the deliberate setpoint. -/
theorem restoreCeiling_le {limits : GuardLimits} (h : limits.isConsistent = true)
    (deliberate : Option Nat) : restoreCeiling limits deliberate ≤ limits.iinMaxUa ∧
      ∀ setpoint, deliberate = some setpoint → restoreCeiling limits deliberate ≤ setpoint := by
  have hrestore : limits.restoreIinUa ≤ limits.iinMaxUa :=
    calc limits.restoreIinUa
        ≤ max limits.iinMaxUa limits.iinFloorUa := limits.restoreIinUa_le
      _ = limits.iinMaxUa := Nat.max_eq_left ((GuardLimits.floor_le_target_of_isConsistent h).trans
          (GuardLimits.target_le_max_of_isConsistent h))
  cases deliberate with
  | none => exact ⟨hrestore, fun _ h => by cases h⟩
  | some setpoint =>
      refine ⟨(Nat.min_le_left _ _).trans hrestore, fun other h => ?_⟩
      cases h
      exact Nat.min_le_right _ _

/-- Outside the bands, the temperature and a credible voltage are below their thresholds. -/
theorem lt_of_foldCeiling_eq_none {sample : TelemetrySample} {limits : GuardLimits}
    (h : foldCeiling sample limits = none) : sample.dieTempDc < limits.tempReduceDc ∧
      (vbatTracksConverterRail sample.vbatUv sample.vbusUv = false →
        sample.vbatUv < limits.vbatReduceUv) := by
  -- each reason to fold is excluded in its order
  unfold foldCeiling at h
  split at h
  · cases h
  next htemp =>
    split at h
    · cases h
    · split at h
      · cases h
      next hvbat =>
        refine ⟨not_le.1 htemp, fun hcredible => ?_⟩
        simpa [hcredible] using hvbat

/-- The guard changes the current in one direction only, and does not raise it on a sample it
cannot trust or that is at a threshold. -/
theorem guard_direction (sample : TelemetrySample) {limits : GuardLimits}
    (applied deliberate : Option Nat) (h : limits.isConsistent = true) :
    (∀ toUa reason, evaluate sample limits applied deliberate = .reduceCurrent toUa reason →
      ∃ setpoint, applied = some setpoint ∧ toUa < setpoint) ∧
    (∀ toUa reason, evaluate sample limits applied deliberate = .restoreCurrent toUa reason →
      (∃ setpoint, applied = some setpoint ∧ setpoint < toUa) ∧ toUa ≤ limits.iinMaxUa ∧
        ∀ setpoint, deliberate = some setpoint → toUa ≤ setpoint) ∧
    (limits.tempReduceDc ≤ sample.dieTempDc ∨
        (vbatTracksConverterRail sample.vbatUv sample.vbusUv = false ∧
          limits.vbatReduceUv ≤ sample.vbatUv) ∨
        dieTempUsable sample = false ∨ sample.vbatValid = false ∨ applied = none →
      ∀ toUa reason, evaluate sample limits applied deliberate ≠ .restoreCurrent toUa reason) := by
  refine ⟨fun toUa reason hreduce => ?_, fun toUa reason hrestore => ?_,
    fun hbar toUa reason hrestore => ?_⟩
  · obtain ⟨setpoint, happlied, -, hlow⟩ := evaluate_eq_reduceCurrent hreduce
    exact ⟨setpoint, happlied, hlow⟩
  · obtain ⟨-, -, rfl, hraised⟩ := evaluate_eq_restoreCurrent hrestore
    exact ⟨hraised, restoreCeiling_le h deliberate⟩
  · obtain ⟨hdecided, hfold, -, setpoint, happlied, -⟩ := evaluate_eq_restoreCurrent hrestore
    obtain ⟨htemp, hvbat⟩ := lt_of_foldCeiling_eq_none hfold
    simp only [currentDecided, Bool.and_eq_true, decide_eq_true_eq] at hdecided
    obtain ⟨⟨⟨⟨-, husable⟩, hvalid⟩, -⟩, -⟩ := hdecided
    -- each obstacle to a restore contradicts what the restore was decided on
    rcases hbar with hhot | ⟨hcredible, hfull⟩ | hunusable | hinvalid | hunknown
    · exact not_le.2 htemp hhot
    · exact not_le.2 (hvbat hcredible) hfull
    · rw [husable] at hunusable
      cases hunusable
    · rw [hvalid] at hinvalid
      cases hinvalid
    · rw [happlied] at hunknown
      cases hunknown

/-! ### The fixed point of a write -/

/-- After the current ordered for the sample was written and read back, the same sample
orders no change of current. -/
def Converges (sample : TelemetrySample) (limits : GuardLimits)
    (applied deliberate : Option Nat) : Prop :=
  ∀ toUa code, (evaluate sample limits applied deliberate).current = some toUa →
    encodeIinLimit toUa = .ok code →
    (evaluate sample limits (some (decodeIinLimit code)) deliberate).current = none

/-- A restore is due: the sample decides currents, every band is left, and the setpoint is
below the ceiling of the restore. -/
def restoreDue (sample : TelemetrySample) (limits : GuardLimits)
    (applied deliberate : Option Nat) : Prop :=
  currentDecided sample limits = true ∧ bandsLeft sample limits = true ∧
    ∃ setpoint, applied = some setpoint ∧ setpoint < restoreCeiling limits deliberate

/-- The chip cannot hold this current: it is between two steps or above the field. -/
def offGrid (iinUa : Nat) : Prop := iinUa % 50000 ≠ 0 ∨ 6350000 < iinUa

/-- A current is on the grid exactly if it comes back from the chip unchanged. -/
theorem offGrid_iff_iinOnGrid_lt (iinUa : Nat) : offGrid iinUa ↔ iinOnGrid iinUa < iinUa := by
  have hmax : iinCodeMax.toNat = 127 := rfl
  simp only [offGrid, iinOnGrid, Regs.iinStepUa, hmax]
  omega

/-- The chip rounds down. -/
theorem iinOnGrid_le (iinUa : Nat) : iinOnGrid iinUa ≤ iinUa := by
  have hstep := Nat.div_mul_le_self iinUa Regs.iinStepUa
  calc iinOnGrid iinUa
      ≤ iinUa / Regs.iinStepUa * Regs.iinStepUa :=
        Nat.mul_le_mul_right _ (Nat.min_le_left _ _)
    _ ≤ iinUa := hstep

/-- Outside the bands a restore is ordered exactly below the ceiling. -/
theorem evaluate_of_bandsLeft {sample : TelemetrySample} {limits : GuardLimits}
    (hdecided : currentDecided sample limits = true) (hleft : bandsLeft sample limits = true)
    (applied : Nat) (deliberate : Option Nat) :
    (evaluate sample limits (some applied) deliberate).current =
      if applied < restoreCeiling limits deliberate then
        some (restoreCeiling limits deliberate)
      else none := by
  simp only [bandsLeft, Bool.and_eq_true, Option.isNone_iff_eq_none] at hleft
  obtain ⟨⟨hfold, htemp⟩, hvbat⟩ := hleft
  rw [evaluate_of_currentDecided hdecided, evaluateCurrent_eq]
  simp only [hfold, htemp, hvbat, and_true]
  split <;> rfl

/-- Inside a band the current is reduced exactly above its ceiling. -/
theorem evaluate_of_foldCeiling {sample : TelemetrySample} {limits : GuardLimits}
    {toUa : Nat} {reason : String} (hdecided : currentDecided sample limits = true)
    (hfold : foldCeiling sample limits = some (toUa, reason)) (applied : Nat)
    (deliberate : Option Nat) :
    (evaluate sample limits (some applied) deliberate).current =
      if applied ≤ toUa then none else some toUa := by
  rw [evaluate_of_currentDecided hdecided, evaluateCurrent_eq]
  simp only [hfold, cap]
  split <;> rfl

/-- The guard reaches its fixed point in one action exactly if no restore is due to a
current that the encoder accepts and the chip cannot hold. -/
theorem converges_iff (sample : TelemetrySample) (limits : GuardLimits)
    (applied deliberate : Option Nat) :
    Converges sample limits applied deliberate ↔
      ¬(restoreDue sample limits applied deliberate ∧
        Regs.iinMinUa ≤ restoreCeiling limits deliberate ∧
        offGrid (restoreCeiling limits deliberate)) := by
  constructor
  · -- the restore goes to a current off the grid, so the next step reads less and restores again
    rintro hconv ⟨⟨hdecided, hleft, setpoint, rfl, hlow⟩, hmin, hoff⟩
    obtain ⟨code, hcode⟩ := (encodeIinLimit_isOk_iff _).2 hmin
    have hfirst := evaluate_of_bandsLeft hdecided hleft setpoint deliberate
    rw [if_pos hlow] at hfirst
    have hsecond := hconv _ code hfirst hcode
    rw [evaluate_of_bandsLeft hdecided hleft, decode_encodeIinLimit hcode rfl,
      if_pos ((offGrid_iff_iinOnGrid_lt _).1 hoff)] at hsecond
    cases hsecond
  · -- what was set is read back rounded to the grid, and the rungs above do not change
    intro hnot toUa code hto hcode
    obtain ⟨hdecided, setpoint, happlied, hcurrent⟩ := evaluate_current hto
    have hread : decodeIinLimit code = iinOnGrid toUa := decode_encodeIinLimit hcode rfl
    rcases evaluateCurrent_current hcurrent with ⟨reason, hfold, -⟩ | ⟨hleft, hceiling, hlow⟩
    · rw [evaluate_of_foldCeiling hdecided hfold, hread, if_pos (iinOnGrid_le toUa)]
    · rw [evaluate_of_bandsLeft hdecided hleft, hread, ← hceiling]
      refine if_neg fun hbelow => hnot ⟨⟨hdecided, hleft, setpoint, happlied, ?_⟩, ?_, ?_⟩
      · rw [← hceiling]; exact hlow
      · rw [← hceiling]; exact (encodeIinLimit_isOk_iff toUa).1 ⟨code, hcode⟩
      · rw [← hceiling]; exact (offGrid_iff_iinOnGrid_lt toUa).2 hbelow

/-- A cool pack at 3.9 V on a 9 V bus: every band is left. -/
def coolSample : TelemetrySample where
  tsMs := 0
  vbatUv := 3900000
  vbusUv := 9000000
  iinUa := 400000
  dieTempDc := 300
  opMode := .switching
  inputPresent := true
  vbatValid := true
  dieTempValid := true

/-- The cool pack at 0.5 A, with a deliberate setpoint of 1.2 A: the restore goes to the
setpoint. -/
theorem guard_direction_coolSample :
    evaluate coolSample GuardLimits.standard (some 500000) (some 1200000)
        = .restoreCurrent 1200000 "reduce_band_exit" ∧
      1200000 ≤ GuardLimits.standard.iinMaxUa := by
  have hrestore : evaluate coolSample GuardLimits.standard (some 500000) (some 1200000)
      = .restoreCurrent 1200000 "reduce_band_exit" := by decide
  obtain ⟨-, hraised, -⟩ := guard_direction coolSample (some 500000) (some 1200000)
    (show GuardLimits.standard.isConsistent = true from rfl)
  exact ⟨hrestore, (hraised _ _ hrestore).2.1⟩

/-- A registry with one value. -/
def onlyValue (name : String) (value : Nat) : Registry :=
  fun asked => if asked = name then some value else none

/-- A profile current of 2.825 A is accepted from the registry, and a folded limit is then
restored to it on every tick: the chip holds 2.8 A. -/
theorem not_converges_offGrid_profile :
    ¬ Converges coolSample (readParameters (some (onlyValue "IinLimitUa" 2825000))).limits
      (some 500000) none := by
  intro hconv
  have hsecond := hconv 2825000 56 (by decide) (by decide)
  revert hsecond
  decide

/-! ### The range of the encoder -/

/-- Every current the guard orders is one `setIinLimit` accepts. The setpoint is what
`appliedIinUa` returns for some content of the register, or the absence of an answer. -/
def SetpointsProgrammable (limits : GuardLimits) : Prop :=
  (∀ (sample : TelemetrySample) (raw : Option Byte) (deliberate : Option Nat) (toUa : Nat),
    (evaluate sample limits (raw.map decodeIinLimit) deliberate).current = some toUa →
      ∃ code, encodeIinLimit toUa = .ok code) ∧
  ∀ (vinUv : Int) (vbatUv deniedStrikes toUa : Nat) (reason : String),
    resolveBypass vinUv vbatUv deniedStrikes limits = .reduceCurrent toUa reason →
      ∃ code, encodeIinLimit toUa = .ok code

/-- For every registry, the guard orders only currents the encoder accepts exactly if the
floor in force is one of them. -/
theorem setpointsProgrammable_iff (key : Option Registry) :
    SetpointsProgrammable (readParameters key).limits ↔
      Regs.iinMinUa ≤ (readParameters key).limits.iinFloorUa := by
  have hprofile := iinMinUa_le_readParameters_profile key
  have htarget := GuardLimits.floor_le_target_of_isConsistent (readParameters_isConsistent key)
  constructor
  · rintro ⟨-, hbypass⟩
    -- an input above the window, on the first strike
    have hfloor := hbypass 9000000 4000000 0 (readParameters key).limits.iinFloorUa
      "die_temp_bypass_no_vin_headroom" (by rfl)
    exact (encodeIinLimit_isOk_iff _).1 hfloor
  · intro hfloor
    refine ⟨?_, ?_⟩
    · intro sample raw deliberate toUa hto
      refine (encodeIinLimit_isOk_iff toUa).2 ?_
      obtain ⟨-, setpoint, happlied, hcurrent⟩ := evaluate_current hto
      rcases evaluateCurrent_current hcurrent with ⟨reason, hfold, -⟩ | ⟨-, -, hlow⟩
      · have hband := GuardLimits.bandIinUa_eq_min (readParameters key).limits
        rcases foldCeiling_eq_some hfold with h | h <;> omega
      · -- a restore goes above a setpoint that was read from the register
        obtain ⟨content, -, rfl⟩ := Option.map_eq_some_iff.1 happlied
        have hread := iinMinUa_le_decodeIinLimit content
        omega
    · intro vinUv vbatUv deniedStrikes toUa reason hto
      rw [resolveBypass] at hto
      split at hto
      · cases hto
      · split at hto
        · cases hto
        · cases hto
          exact (encodeIinLimit_isOk_iff _).2 hfloor

/-- A floor of 0.1 A is accepted from the registry. The reduction to it is then rejected by
the encoder, and the over-temperature action is lost. -/
theorem not_setpointsProgrammable_low_floor :
    ¬ SetpointsProgrammable
      (readParameters (some (onlyValue "IinFloorUa" 100000))).limits := by
  rintro ⟨-, hbypass⟩
  obtain ⟨code, hcode⟩ := hbypass 9000000 4000000 0 100000 "die_temp_bypass_no_vin_headroom"
    (by decide)
  revert hcode
  rw [show encodeIinLimit 100000 = .error (.outOfRange "iin_limit_ua" 100000) from rfl]
  simp

end Kmdf
