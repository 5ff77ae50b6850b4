import NabuCharger.Ln8000.Status

/-!
# `Ln8000.Guard`: temperature and current protection

`evaluate` turns one telemetry sample, the limits, the setpoint that stands in the chip and
the deliberate setpoint of the taper into one action. `resolveBypass` decides what to do
when the guard asks for 1:1 and the input does not allow it.

The properties use `evaluate` through the conditions under which it returns an action.
`evaluate_eq_stop_iff` is the stop. `evaluate_current` and `evaluateCurrent_current` are
the changes of current: a reduction to the ceiling of the band the sample is in
(`foldCeiling`, which reads the sample and the limits only), or a restore to
`restoreCeiling` once every band is left (`bandsLeft`).
-/

set_option autoImplicit false

namespace Ln8000

open Effectful

/-- Current restore hysteresis on battery voltage. -/
def vbatReduceHystUv : Nat := 50000

/-- Current restore hysteresis on die temperature, tenths of °C. -/
def tempReduceHystDc : Int := 30

/-- Upper bound of a plausible die temperature, tenths of °C. -/
def dieTempMaxPlausibleDc : Int := 1250

/-- Saturating difference of signed 32-bit words. -/
def satSubI32 (a b : Int) : Int := max (-2147483648) (min (a - b) 2147483647)

/-- Protection limits. -/
structure GuardLimits where
  tempReduceDc : Int
  tempBypassDc : Int
  tempStopDc : Int
  iinMaxUa : Nat
  iinTargetUa : Nat
  iinFloorUa : Nat
  /-- Profile input current limit, a snapshot taken at configuration time. -/
  iinProfileUa : Nat
  vbatReduceUv : Nat
  deriving DecidableEq, Repr

namespace GuardLimits

/-- Default profile. -/
def standard : GuardLimits where
  tempReduceDc := 550
  tempBypassDc := 600
  tempStopDc := 650
  iinMaxUa := 3500000
  iinTargetUa := 2000000
  iinFloorUa := 500000
  iinProfileUa := 2000000
  vbatReduceUv := 4470000

/-- The thresholds and the currents are in order. -/
def isConsistent (limits : GuardLimits) : Bool :=
  decide (limits.tempReduceDc < limits.tempBypassDc)
    && decide (limits.tempBypassDc < limits.tempStopDc)
    && decide (limits.iinFloorUa ≤ limits.iinTargetUa)
    && decide (limits.iinTargetUa ≤ limits.iinMaxUa)

/-- Fold-back band setpoint. -/
def bandIinUa (limits : GuardLimits) : Nat :=
  if limits.iinProfileUa < limits.iinTargetUa then limits.iinProfileUa
  else limits.iinTargetUa

/-- Profile limit within the protection bounds. -/
def restoreIinUa (limits : GuardLimits) : Nat :=
  if limits.iinProfileUa > limits.iinMaxUa then limits.iinMaxUa
  else if limits.iinProfileUa < limits.iinFloorUa then limits.iinFloorUa
  else limits.iinProfileUa

/-- Applies one value without the check of the threshold order. The flag says whether it
is known and in range. -/
def applyParameterLenient (limits : GuardLimits) (name : String) (value : Nat) :
    GuardLimits × Bool :=
  if name = "TempReduceDc" then
    if 200 ≤ value ∧ value ≤ 600 then ({ limits with tempReduceDc := value }, true)
    -- another name
    else (limits, false)
  else if name = "TempBypassDc" then
    if 200 ≤ value ∧ value ≤ 650 then ({ limits with tempBypassDc := value }, true)
    else (limits, false)
  else if name = "TempStopDc" then
    if 250 ≤ value ∧ value ≤ 700 then ({ limits with tempStopDc := value }, true)
    else (limits, false)
  else if name = "IinMaxUa" then
    if ¬(100000 ≤ value ∧ value ≤ 6850000) then (limits, false)
    else ({ limits with iinMaxUa := value }, true)
  else if name = "IinTargetUa" then
    if ¬(100000 ≤ value ∧ value ≤ 6850000) then (limits, false)
    else ({ limits with iinTargetUa := value }, true)
  else if name = "IinFloorUa" then
    if ¬(100000 ≤ value ∧ value ≤ 6850000) then (limits, false)
    else ({ limits with iinFloorUa := value }, true)
  else if name = "VbatReduceUv" then
    if ¬(3000000 ≤ value ∧ value ≤ 4500000) then (limits, false)
    else ({ limits with vbatReduceUv := value }, true)
  else (limits, false)

/-- The limits with one value in place, if the name is known and the value in range: the table
of the strict path. -/
def candidate (limits : GuardLimits) (name : String) (value : Nat) : Option GuardLimits :=
  -- a word above the signed range is above these bounds too
  if name = "TempReduceDc" then
    if 200 ≤ value ∧ value ≤ 600 then some { limits with tempReduceDc := value } else none
  else if name = "TempBypassDc" then
    if 200 ≤ value ∧ value ≤ 650 then some { limits with tempBypassDc := value } else none
  else if name = "TempStopDc" then
    if 250 ≤ value ∧ value ≤ 700 then some { limits with tempStopDc := value } else none
  else if name = "IinMaxUa" then
    if ¬(100000 ≤ value ∧ value ≤ 6850000) then none else some { limits with iinMaxUa := value }
  else if name = "IinTargetUa" then
    if ¬(100000 ≤ value ∧ value ≤ 6850000) then none
    else some { limits with iinTargetUa := value }
  else if name = "IinFloorUa" then
    if ¬(100000 ≤ value ∧ value ≤ 6850000) then none
    else some { limits with iinFloorUa := value }
  else if name = "VbatReduceUv" then
    if ¬(3000000 ≤ value ∧ value ≤ 4500000) then none
    else some { limits with vbatReduceUv := value }
  else none

/-- Applies one value and keeps it only if the thresholds stay in order. -/
def applyParameter (limits : GuardLimits) (name : String) (value : Nat) :
    GuardLimits × Bool :=
  match limits.candidate name value with
  | none => (limits, false)
  | some candidate => if candidate.isConsistent = false then (limits, false) else (candidate, true)

/-- The band setpoint is one of the two ceilings it is taken from. -/
theorem bandIinUa_eq_min (limits : GuardLimits) :
    limits.bandIinUa = min limits.iinProfileUa limits.iinTargetUa := by
  rw [bandIinUa]
  split <;> omega

/-- In a consistent set the current thresholds are in order. -/
theorem floor_le_target_of_isConsistent {limits : GuardLimits}
    (h : limits.isConsistent = true) : limits.iinFloorUa ≤ limits.iinTargetUa := by
  simp only [isConsistent, Bool.and_eq_true, decide_eq_true_eq] at h
  exact h.1.2

/-- Consistent limits have their target within their maximum. -/
theorem target_le_max_of_isConsistent {limits : GuardLimits}
    (h : limits.isConsistent = true) : limits.iinTargetUa ≤ limits.iinMaxUa := by
  simp only [isConsistent, Bool.and_eq_true, decide_eq_true_eq] at h
  exact h.2

/-- The current restored to is at most the maximum, unless the floor is above it. -/
theorem restoreIinUa_le (limits : GuardLimits) :
    limits.restoreIinUa ≤ max limits.iinMaxUa limits.iinFloorUa := by
  rw [restoreIinUa]
  split
  · exact Nat.le_max_left _ _
  · split <;> omega

end GuardLimits

/-- What to do with the charging mode. -/
inductive GuardAction
  | none
  | reduceCurrent (toUa : Nat) (reason : String)
  | restoreCurrent (toUa : Nat) (reason : String)
  | fallbackToBypass (reason : String)
  | stop (reason : String)
  deriving DecidableEq, Repr

namespace GuardAction

/-- Whether the action requires a write to the device. -/
def isChange (action : GuardAction) : Bool := decide (action ≠ .none)

/-- The current the action carries, if it is a change of current. -/
def current : GuardAction → Option Nat
  | .reduceCurrent toUa _ => some toUa
  | .restoreCurrent toUa _ => some toUa
  | .none | .fallbackToBypass _ | .stop _ => Option.none

end GuardAction

/-- Whether the die temperature is fit for a protection decision. -/
def dieTempUsable (sample : TelemetrySample) : Bool :=
  sample.dieTempValid && decide (sample.dieTempDc ≤ dieTempMaxPlausibleDc)

/-- Whether the overtemperature episode that resets the 1:1 denial counter has ended. -/
def bypassStrikesExpired (sample : TelemetrySample) (limits : GuardLimits) : Bool :=
  dieTempUsable sample
    && decide (sample.dieTempDc ≤ satSubI32 limits.tempBypassDc tempReduceHystDc)

/-- Fold-back setpoint: written only if the current limit is higher. -/
def cap (appliedIinUa toUa : Nat) (reason : String) : GuardAction :=
  if appliedIinUa ≤ toUa then .none else .reduceCurrent toUa reason

/-- The ceiling of a restore: the profile within its bounds, and the deliberate setpoint. -/
def restoreCeiling (limits : GuardLimits) : Option Nat → Nat
  | some deliberate => min limits.restoreIinUa deliberate
  | none => limits.restoreIinUa

/-- Die temperature below the fold-back band by the hysteresis. -/
def tempLow (sample : TelemetrySample) (limits : GuardLimits) : Bool :=
  decide (sample.dieTempDc ≤ satSubI32 limits.tempReduceDc tempReduceHystDc)

/-- Battery voltage below the fold-back band by the hysteresis, or not a battery voltage. -/
def vbatLow (sample : TelemetrySample) (limits : GuardLimits) : Bool :=
  vbatTracksConverterRail sample.vbatUv sample.vbusUv
    || decide (sample.vbatUv ≤ limits.vbatReduceUv - vbatReduceHystUv)

/-- The current decisions, once the sample is known to be valid. -/
def evaluateCurrent (sample : TelemetrySample) (limits : GuardLimits) (applied : Nat)
    (deliberateIinUa : Option Nat) : GuardAction :=
  if limits.tempReduceDc ≤ sample.dieTempDc then
    cap applied limits.bandIinUa "die_temp_reduce"
  else if sample.iinUa > limits.iinMaxUa then
    -- the current itself: down to the target, not to the band
    cap applied limits.iinTargetUa "iin_over_limit"
  -- a reading that follows the converter's rail is not the battery's
  else if !vbatTracksConverterRail sample.vbatUv sample.vbusUv
      && decide (limits.vbatReduceUv ≤ sample.vbatUv) then
    cap applied limits.bandIinUa "vbat_reduce"
  -- nothing to cut; a restore only while below its ceiling
  else if restoreCeiling limits deliberateIinUa ≤ applied then .none
  else if tempLow sample limits && vbatLow sample limits then
    .restoreCurrent (restoreCeiling limits deliberateIinUa) "reduce_band_exit"
  else .none

/-- Computes the guard action. -/
def evaluate (sample : TelemetrySample) (limits : GuardLimits)
    (appliedIinUa deliberateIinUa : Option Nat) : GuardAction :=
  -- without an input there is nothing to guard
  if !sample.inputPresent then .none
  else if dieTempUsable sample && decide (limits.tempStopDc ≤ sample.dieTempDc) then
    .stop "die_temp_stop"
  else if dieTempUsable sample && decide (limits.tempBypassDc ≤ sample.dieTempDc) then
    .fallbackToBypass "die_temp_bypass"
  else
    match appliedIinUa with
    -- the limit could not be read back
    | none => .none
    | some applied =>
        if !dieTempUsable sample || !sample.vbatValid then .none
        else evaluateCurrent sample limits applied deliberateIinUa

/-- Denials of the bypass that are put up with. -/
def bypassDeniedStrikesBeforeStop : Nat := 1

/-- What to do with a demand to go to 1:1. -/
inductive BypassResolution
  | allowed
  | reduceCurrent (toUa : Nat) (reason : String)
  | stop (reason : String)
  deriving DecidableEq, Repr

/-- Resolves the conflict "guard asks for 1:1, input outside the bypass window". -/
def resolveBypass (vinUv : Int) (vbatUv deniedStrikes : Nat) (limits : GuardLimits) :
    BypassResolution :=
  if bypassAllowedByVin vinUv vbatUv then .allowed
  else if bypassDeniedStrikesBeforeStop ≤ deniedStrikes then
    .stop "die_temp_bypass_no_vin_headroom"
  else .reduceCurrent limits.iinFloorUa "die_temp_bypass_no_vin_headroom"

/-- The current a resolution carries. -/
def BypassResolution.current : BypassResolution → Option Nat
  | .reduceCurrent toUa _ => some toUa
  | .allowed | .stop _ => none

/-- The current an action orders: the one it carries, or the one a denied demand for 1:1
resolves to. -/
def GuardAction.orderedUa (vinUv : Int) (vbatUv deniedStrikes : Nat) (limits : GuardLimits) :
    GuardAction → Option Nat
  | .fallbackToBypass _ => (resolveBypass vinUv vbatUv deniedStrikes limits).current
  | action => action.current

/-! ### When each action is returned -/

/-- The sample is present, valid and below the thresholds that need no setpoint: the
current decisions are taken. -/
def currentDecided (sample : TelemetrySample) (limits : GuardLimits) : Bool :=
  sample.inputPresent && dieTempUsable sample && sample.vbatValid
    && decide (sample.dieTempDc < limits.tempStopDc)
    && decide (sample.dieTempDc < limits.tempBypassDc)

/-- The ceiling of the fold-back band the sample is in, with the reason, if it is in
one. -/
def foldCeiling (sample : TelemetrySample) (limits : GuardLimits) : Option (Nat × String) :=
  if limits.tempReduceDc ≤ sample.dieTempDc then some (limits.bandIinUa, "die_temp_reduce")
  else if sample.iinUa > limits.iinMaxUa then some (limits.iinTargetUa, "iin_over_limit")
  else if !vbatTracksConverterRail sample.vbatUv sample.vbusUv
      && decide (limits.vbatReduceUv ≤ sample.vbatUv) then
    some (limits.bandIinUa, "vbat_reduce")
  else none

/-- The sample meets the exit condition of every fold-back band. -/
def bandsLeft (sample : TelemetrySample) (limits : GuardLimits) : Bool :=
  (foldCeiling sample limits).isNone && tempLow sample limits && vbatLow sample limits

/-- Inside a band the current is capped. Outside, it is restored once every band is left by
its hysteresis and the setpoint is below the ceiling. -/
theorem evaluateCurrent_eq (sample : TelemetrySample) (limits : GuardLimits) (applied : Nat)
    (deliberate : Option Nat) :
    evaluateCurrent sample limits applied deliberate =
      match foldCeiling sample limits with
      | some (toUa, reason) => cap applied toUa reason
      | none =>
          if applied < restoreCeiling limits deliberate ∧
              tempLow sample limits = true ∧ vbatLow sample limits = true then
            .restoreCurrent (restoreCeiling limits deliberate) "reduce_band_exit"
          else .none := by
  rw [evaluateCurrent, foldCeiling]
  split
  · rfl
  · split
    · rfl
    · split
      · rfl
      · -- nothing to fold: the limit is raised when it stands below the ceiling
        by_cases happlied : restoreCeiling limits deliberate ≤ applied
        · rw [if_pos happlied, if_neg (fun h => not_le.2 h.1 happlied)]
        · simp only [happlied, if_false, not_le.1 happlied, true_and, Bool.and_eq_true]

/-- Once the sample decides currents, the earlier thresholds are out of the way. -/
theorem evaluate_of_currentDecided {sample : TelemetrySample} {limits : GuardLimits}
    (h : currentDecided sample limits = true) (applied : Nat) (deliberate : Option Nat) :
    evaluate sample limits (some applied) deliberate =
      evaluateCurrent sample limits applied deliberate := by
  simp only [currentDecided, Bool.and_eq_true, decide_eq_true_eq] at h
  obtain ⟨⟨⟨⟨hpresent, husable⟩, hvalid⟩, hstop⟩, hbypass⟩ := h
  simp [evaluate, hpresent, husable, hvalid, not_le.2 hstop, not_le.2 hbypass]

/-- Until the sample decides currents, the setpoints have no part in the action. -/
theorem evaluate_of_not_currentDecided {sample : TelemetrySample} {limits : GuardLimits}
    (h : currentDecided sample limits = false)
    (applied deliberate applied' deliberate' : Option Nat) :
    evaluate sample limits applied deliberate = evaluate sample limits applied' deliberate' := by
  unfold evaluate
  -- down the ladder of `evaluate`: a rung that decides by anything but the current decides for both
  -- setpoints
  split
  · rfl
  next hpresent =>
    split
    · rfl
    next hstop =>
      split
      · rfl
      next hbypass =>
        have hinvalid : (!dieTempUsable sample || !sample.vbatValid) = true := by
          simp only [Bool.not_eq_true', Bool.not_eq_false, Bool.and_eq_true, decide_eq_true_eq,
            not_and, not_le] at hpresent hstop hbypass
          by_contra hvalid
          simp only [Bool.or_eq_true, Bool.not_eq_true', not_or, Bool.not_eq_false] at hvalid
          have hdecided : currentDecided sample limits = true := by
            simp [currentDecided, hpresent, hvalid.1, hvalid.2, hstop hvalid.1, hbypass hvalid.1]
          rw [hdecided] at h
          cases h
        rw [hinvalid]
        cases applied <;> cases applied' <;> rfl

/-- A sample whose temperature is no use decides nothing. -/
theorem evaluate_of_unusable {sample : TelemetrySample} (h : dieTempUsable sample = false)
    (limits : GuardLimits) (applied deliberate : Option Nat) :
    evaluate sample limits applied deliberate = .none := by
  unfold evaluate
  rw [h]
  cases applied <;> simp

/-- The current decisions do not ask for 1:1. -/
theorem evaluateCurrent_ne_fallback (sample : TelemetrySample) (limits : GuardLimits)
    (applied : Nat) (deliberate : Option Nat) (reason : String) :
    evaluateCurrent sample limits applied deliberate ≠ .fallbackToBypass reason := by
  unfold evaluateCurrent cap
  split_ifs <;> exact GuardAction.noConfusion

/-- 1:1 is asked for at its threshold or above. -/
theorem evaluate_eq_fallback {sample : TelemetrySample} {limits : GuardLimits}
    {applied deliberate : Option Nat} {reason : String}
    (h : evaluate sample limits applied deliberate = .fallbackToBypass reason) :
    dieTempUsable sample = true ∧ limits.tempBypassDc ≤ sample.dieTempDc := by
  unfold evaluate at h
  split at h
  · cases h
  · split at h
    · cases h
    · split at h
      next hhot => simpa using hhot
      · split at h
        · cases h
        · split at h
          · cases h
          · exact absurd h (evaluateCurrent_ne_fallback _ _ _ _ _)

/-- An action that carries a current comes from the current decisions. -/
theorem evaluate_current {sample : TelemetrySample} {limits : GuardLimits}
    {applied deliberate : Option Nat} {toUa : Nat}
    (h : (evaluate sample limits applied deliberate).current = some toUa) :
    currentDecided sample limits = true ∧ ∃ setpoint, applied = some setpoint ∧
      (evaluateCurrent sample limits setpoint deliberate).current = some toUa := by
  unfold evaluate at h
  -- down the ladder of `evaluate`: the rungs above the current order none
  split at h
  · cases h
  next hpresent =>
    split at h
    · cases h
    next hstop =>
      split at h
      · cases h
      next hbypass =>
        cases applied with
        | none => cases h
        | some setpoint =>
            simp only at h
            split at h
            · cases h
            next hvalid =>
              simp only [Bool.not_eq_true', Bool.not_eq_false, Bool.or_eq_true, not_or]
                at hpresent hvalid
              simp only [hvalid.1, Bool.true_and, decide_eq_true_eq, not_le] at hstop hbypass
              refine ⟨?_, setpoint, rfl, h⟩
              simp only [currentDecided, hpresent, hvalid.1, hvalid.2, hstop, hbypass,
                Bool.and_self, decide_true]

/-- The charge is stopped exactly on a usable temperature at the stop threshold, with the
input present. -/
theorem evaluate_eq_stop_iff (sample : TelemetrySample) (limits : GuardLimits)
    (applied deliberate : Option Nat) :
    evaluate sample limits applied deliberate = .stop "die_temp_stop" ↔
      sample.inputPresent = true ∧ dieTempUsable sample = true ∧
        limits.tempStopDc ≤ sample.dieTempDc := by
  constructor
  · intro h
    unfold evaluate at h
    -- only one rung stops, and the ones below it never do
    split at h
    · cases h
    next hpresent =>
      split at h
      next hstop =>
        simp only [Bool.not_eq_true', Bool.not_eq_false, Bool.and_eq_true,
          decide_eq_true_eq] at hpresent hstop
        exact ⟨hpresent, hstop⟩
      · split at h
        · cases h
        next hbypass =>
          exfalso
          revert h
          cases applied with
          | none => simp
          | some setpoint =>
              simp only
              split
              · simp
              · rw [evaluateCurrent_eq]
                cases foldCeiling sample limits with
                | none => simp only; split <;> simp
                | some ceiling => simp only [cap]; split <;> simp
  · rintro ⟨hpresent, husable, hstop⟩
    simp [evaluate, hpresent, husable, hstop]

/-- The two ways `evaluate` carries a current: it caps to the ceiling of the band the sample
is in, or it restores to the ceiling of the restore. -/
theorem evaluateCurrent_current {sample : TelemetrySample} {limits : GuardLimits}
    {applied toUa : Nat} {deliberate : Option Nat}
    (h : (evaluateCurrent sample limits applied deliberate).current = some toUa) :
    (∃ reason, foldCeiling sample limits = some (toUa, reason) ∧ toUa < applied) ∨
      (bandsLeft sample limits = true ∧ toUa = restoreCeiling limits deliberate ∧
        applied < toUa) := by
  rw [evaluateCurrent_eq] at h
  -- with a ceiling the current can only be cut, without one only be restored
  cases hfold : foldCeiling sample limits with
  | some ceiling =>
      obtain ⟨ceilingUa, reason⟩ := ceiling
      simp only [hfold, cap] at h
      split at h
      · cases h
      next hlow =>
        have hto : ceilingUa = toUa := Option.some.inj h
        exact Or.inl ⟨reason, by rw [hto], by omega⟩
  | none =>
      simp only [hfold] at h
      split at h
      next hrestore =>
        have hto : restoreCeiling limits deliberate = toUa := Option.some.inj h
        refine Or.inr ⟨?_, hto.symm, hto ▸ hrestore.1⟩
        simp [bandsLeft, hfold, hrestore.2.1, hrestore.2.2]
      · cases h

/-- The ceilings of the bands are the band setpoint and the target. -/
theorem foldCeiling_eq_some {sample : TelemetrySample} {limits : GuardLimits} {toUa : Nat}
    {reason : String} (h : foldCeiling sample limits = some (toUa, reason)) :
    toUa = limits.bandIinUa ∨ toUa = limits.iinTargetUa := by
  rw [foldCeiling] at h
  split at h
  · cases h; exact Or.inl rfl
  · split at h
    · cases h; exact Or.inr rfl
    · split at h
      · cases h; exact Or.inl rfl
      · cases h

end Ln8000
