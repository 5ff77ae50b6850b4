import NabuCharger.Ln8000.Guard
import NabuCharger.Ln8000.Pump

/-!
# `Kmdf.Parameters`: what the driver reads from its registry key

`readParameters` builds the pump profile, the protection limits and the driver's own
settings. Each value of the profile is checked by itself, the protection thresholds are
applied as a set and kept only if the whole set is in order.

`readParameters_isConsistent` and `iinMinUa_le_readParameters_profile` are what every set of
registry values guarantees: ordered thresholds, and a profile current the encoder accepts.
-/

set_option autoImplicit false

namespace Kmdf

open Ln8000

/-- The `Parameters` key of the device: the values that are there. -/
abbrev Registry : Type := String → Option Nat

/-- What `read_parameters` returns. -/
structure DriverParams where
  config : PumpConfig
  limits : GuardLimits
  telemetryMs : Nat
  fccRaw : Nat
  publishBattery : Bool
  deriving DecidableEq, Repr

/-- Applies the named values that are in the key, in order. A rejected one is skipped. -/
def applyAll {σ : Type} (apply : σ → String → Nat → σ × Bool) (key : Registry)
    (names : List String) (init : σ) : σ :=
  names.foldl
    (fun s name =>
      match key name with
      | some value => (apply s name value).1
      | none => s)
    init

/-- Values of the pump profile, the protection profile first. -/
def profileNames : List String :=
  ["ProtectionProfile", "IinLimitUa", "VbatFloatUv", "VacOvpUv", "NtcAlarmCfg",
    "WatchdogEnabled"]

/-- Values of the protection thresholds. -/
def thresholdNames : List String :=
  ["TempReduceDc", "TempBypassDc", "TempStopDc", "IinMaxUa", "IinTargetUa", "IinFloorUa",
    "VbatReduceUv"]

/-- The settings without a registry key. -/
def defaultParams : DriverParams where
  config := PumpConfig.forQc35ClassB
  limits := { GuardLimits.standard with iinProfileUa := PumpConfig.forQc35ClassB.iinLimitUa }
  telemetryMs := 250
  fccRaw := 0
  publishBattery := true

/-- Reads the settings. `none` is a key that did not open. -/
def readParameters : Option Registry → DriverParams
  | none => defaultParams
  | some key =>
      let config :=
        applyAll PumpConfig.applyParameter key profileNames PumpConfig.forQc35ClassB
      -- the profile's limit is the one the guard restores to
      let before := { GuardLimits.standard with iinProfileUa := config.iinLimitUa }
      let limits := applyAll GuardLimits.applyParameterLenient key thresholdNames before
      { config := config
        -- thresholds out of order are dropped as a whole
        limits := if limits.isConsistent then limits else before
        telemetryMs :=
          match key "TelemetryMs" with
          | some ms => if 100 ≤ ms ∧ ms ≤ 60000 then ms else 250
          | none => 250
        fccRaw := (key "FccRaw").getD 0
        publishBattery :=
          match key "PublishBattery" with
          | some value => decide (value ≠ 0)
          | none => true }

/-- What every applied value keeps, the whole set keeps. -/
theorem applyAll_induction {σ : Type} {apply : σ → String → Nat → σ × Bool}
    {key : Registry} {P : σ → Prop} (hstep : ∀ s name value, P s → P (apply s name value).1)
    (names : List String) {init : σ} (hinit : P init) : P (applyAll apply key names init) := by
  induction names generalizing init with
  | nil => exact hinit
  | cons name names ih =>
      refine ih ?_
      show P (match key name with | some value => (apply init name value).1 | none => init)
      cases key name with
      | none => exact hinit
      | some value => exact hstep init name value hinit

/-- No registry value makes the profile current one the encoder rejects. -/
theorem iinMinUa_le_applyParameter {cfg : PumpConfig} (h : Regs.iinMinUa ≤ cfg.iinLimitUa)
    (name : String) (value : Nat) :
    Regs.iinMinUa ≤ (cfg.applyParameter name value).1.iinLimitUa := by
  unfold PumpConfig.applyParameter
  split
  · cases hcode : encodeIinLimit value with
    | error err => exact h
    | ok code => exact (encodeIinLimit_isOk_iff value).1 ⟨code, hcode⟩
  · repeat' split
    all_goals exact h

/-- The thresholds do not touch the profile snapshot. -/
theorem applyParameterLenient_iinProfileUa (limits : GuardLimits) (name : String)
    (value : Nat) :
    (limits.applyParameterLenient name value).1.iinProfileUa = limits.iinProfileUa := by
  unfold GuardLimits.applyParameterLenient
  repeat' split
  all_goals rfl

/-- The thresholds are in order, whatever the registry holds. -/
theorem readParameters_isConsistent (key : Option Registry) :
    (readParameters key).limits.isConsistent = true := by
  cases key with
  | none => decide
  | some key =>
      simp only [readParameters]
      split
      next h => exact h
      · rfl

/-- The profile snapshot is the profile current. -/
theorem readParameters_iinProfileUa (key : Option Registry) :
    (readParameters key).limits.iinProfileUa = (readParameters key).config.iinLimitUa := by
  cases key with
  | none => rfl
  | some key =>
      simp only [readParameters]
      split
      · refine applyAll_induction (P := fun limits : GuardLimits => limits.iinProfileUa = _)
          ?_ _ rfl
        intro limits name value h
        rw [applyParameterLenient_iinProfileUa, h]
      · rfl

/-- The profile current is one the encoder accepts. -/
theorem iinMinUa_le_readParameters_profile (key : Option Registry) :
    Regs.iinMinUa ≤ (readParameters key).limits.iinProfileUa := by
  rw [readParameters_iinProfileUa]
  cases key with
  | none => decide
  | some key =>
      exact applyAll_induction (P := fun cfg : PumpConfig => Regs.iinMinUa ≤ cfg.iinLimitUa)
        (fun cfg name value h => iinMinUa_le_applyParameter h name value) _ (by decide)

end Kmdf
