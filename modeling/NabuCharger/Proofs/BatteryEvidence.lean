import NabuCharger.Ln8000.BatteryPolicy

/-!
# `Proofs.BatteryEvidence`: what counts as an adapter, and what as a rise

Without a cable the input node shows twice the cell voltage. The ladder of the raw decision knows
such a reflection from 4.6 V on. Below, it goes on to its last two tests, the floor at 4.2 V and the
headroom over the cell, and twice the cell is well above the cell. So the reflection of a cell
between 2.1 V and 2.3 V is taken for an adapter, and no other reflection is
(`reflection_without_verdict_iff`).

The trend of the fuel counter keeps the last sample and the time of the last rise. That is all of
the history it needs: it rises exactly when the last change of the samples was a rise, and not too
long ago (`rising_iff_lastChange`).
-/

set_option autoImplicit false

namespace Ln8000

open Effectful

/-! ### The reflection of the cell -/

/-- A reflection is well above the cell, whatever it is taken for. -/
theorem above_of_vinIsDoubledVbat {vbatUv vinUv : Nat} (h : vinIsDoubledVbat vbatUv vinUv = true)
    (hfloor : vbusChargingMinUv ≤ vinUv) : ¬ vinUv < satAdd 32 vbatUv vbusAboveVbatUv := by
  have hslack : vbatVinHalfSlackUv = 80000 := rfl
  have habove : vbusAboveVbatUv = 200000 := rfl
  have hmin : vbusChargingMinUv = 4200000 := rfl
  rw [vinIsDoubledVbat] at h
  split at h
  · cases h
  · obtain ⟨-, hhi⟩ := of_decide_eq_true h
    have hcap : satAdd 32 (vinUv / 2) vbatVinHalfSlackUv ≤ vinUv / 2 + vbatVinHalfSlackUv :=
      Nat.min_le_left _ _
    have hsum : satAdd 32 vbatUv vbusAboveVbatUv ≤ vbatUv + vbusAboveVbatUv := Nat.min_le_left _ _
    omega

/-- A tick that shows twice the cell, no current and no unplug bit does not report an adapter,
exactly when the node is below the floor or from the reflection gate on. -/
theorem reflection_without_verdict_iff {vbatUv vinUv iinUa : Nat}
    (hdoubled : vinIsDoubledVbat vbatUv vinUv = true) (hcurrent : iinUa < iinChargingUa) :
    onlineRawWithEvidence vinUv vbatUv iinUa false true ≠ some true ↔
      vinUv < vbusChargingMinUv ∨ vbusOnlineUv ≤ vinUv := by
  have hidle : ¬ (vbusChargingMinUv ≤ vinUv ∧ iinChargingUa ≤ iinUa) := by omega
  have hreflection : isReflectionTick vinUv vbatUv iinUa false = decide (vbusOnlineUv ≤ vinUv) := by
    rw [isReflectionTick, if_neg hidle, hdoubled, Bool.and_true]
    rfl
  have hgate : vbusOnlineUv = 4600000 := rfl
  have hfloor : vbusChargingMinUv = 4200000 := rfl
  have helevated : vbusElevatedUv = 6000000 := rfl
  by_cases hhigh : vbusOnlineUv ≤ vinUv
  · -- the tick carries no verdict
    rw [onlineRawWithEvidence, if_pos rfl, hreflection, if_pos (decide_eq_true hhigh)]
    exact iff_of_true (Option.some_ne_none true).symm (.inr hhigh)
  · have hplain : isReflectionTick vinUv vbatUv iinUa false ≠ true := by
      rw [hreflection, ne_eq, decide_eq_true_eq]
      exact hhigh
    rw [onlineRawWithEvidence, if_pos rfl, if_neg hplain, onlineRaw, if_neg hidle,
      if_neg Bool.false_ne_true, if_neg hplain, if_neg (by omega : ¬ vbusElevatedUv ≤ vinUv)]
    by_cases hlow : vinUv < vbusChargingMinUv
    · rw [if_pos hlow]
      exact iff_of_true (by decide) (.inl hlow)
    · -- the headroom over the cell lets a reflection through
      have habove := above_of_vinIsDoubledVbat hdoubled (Nat.le_of_not_lt hlow)
      rw [if_neg hlow, if_neg fun hcell => habove hcell.2]
      exact iff_of_false (fun hne => hne rfl) (by omega)

/-- A cell at 2.3 V is behind a reflection at 4.6 V. -/
theorem reflection_without_verdict_gate :
    vinIsDoubledVbat 2300000 4600000 = true ∧ 39120 < iinChargingUa ∧
      (onlineRawWithEvidence 4600000 2300000 39120 false true ≠ some true ↔
        4600000 < vbusChargingMinUv ∨ vbusOnlineUv ≤ 4600000) :=
  ⟨by decide, by decide, reflection_without_verdict_iff (by decide) (by decide)⟩

/-- A cell at 2.2 V without a cable is taken for an adapter at 4.4 V. -/
theorem reflection_counts_as_adapter :
    ¬ ∀ vbatUv vinUv iinUa : Nat, vinIsDoubledVbat vbatUv vinUv = true → iinUa < iinChargingUa →
      onlineRawWithEvidence vinUv vbatUv iinUa false true ≠ some true := by
  intro h
  exact h 2200000 4400000 39120 (by decide) (by decide) (by decide)

/-! ### The trend of the fuel counter -/

/-- A sample of the fuel counter. -/
structure SocSample where
  raw : Byte
  nowMs : Nat
  deriving DecidableEq, Repr

namespace SocTrend

/-- The trend after samples. -/
def run (trend : SocTrend) (samples : List SocSample) : SocTrend :=
  samples.foldl (fun trend sample => trend.update sample.raw.toNat sample.nowMs) trend

/-- The last change of the samples is from `a` to `b`. Behind it they stay. -/
structure LastChange (samples : List SocSample) (a b : SocSample) (plateau : List SocSample) :
    Prop where
  split : ∃ before, samples = before ++ a :: b :: plateau
  change : a.raw ≠ b.raw
  stays : ∀ sample ∈ plateau, sample.raw = b.raw

/-- The last change was a rise. It is the last sample, or less than the hold time before it. -/
def Rises (samples : List SocSample) : Prop :=
  ∃ a b plateau, LastChange samples a b plateau ∧ a.raw < b.raw ∧
    (plateau = [] ∨ ∃ last ∈ plateau.getLast?, last.nowMs - b.nowMs < socRiseHoldMs)

/-- The last sample is remembered. -/
theorem update_prevRaw (trend : SocTrend) (raw nowMs : Nat) :
    (trend.update raw nowMs).prevRaw = raw := by
  rw [update]
  split
  · rfl
  · split <;> rfl

/-- The last sample is remembered. -/
theorem run_prevRaw (trend : SocTrend) (before : List SocSample) (sample : SocSample) :
    (trend.run (before ++ [sample])).prevRaw = sample.raw.toNat := by
  rw [run, List.foldl_append]
  exact update_prevRaw _ _ _

/-- The samples of two runs, one after the other. -/
theorem run_append (trend : SocTrend) (before after : List SocSample) :
    trend.run (before ++ after) = (trend.run before).run after :=
  List.foldl_append

/-- On a plateau the trend rises until the last rise is too long ago. -/
theorem run_plateau {plateau : List SocSample} :
    ∀ {trend : SocTrend}, (∀ sample ∈ plateau, sample.raw.toNat = trend.prevRaw) →
      plateau.Pairwise (fun a b => a.nowMs ≤ b.nowMs) →
      ((trend.run plateau).rising = true ↔ trend.rising = true ∧
        (plateau = [] ∨ ∃ last ∈ plateau.getLast?,
          last.nowMs - trend.lastRiseMs < socRiseHoldMs)) := by
  -- induction on the plateau: samples of one charge leave the trend, and the clock moves on
  induction plateau with
  | nil => exact fun _ _ => ⟨fun h => ⟨h, .inl rfl⟩, And.left⟩
  | cons sample rest ih =>
      intro trend hraw hsorted
      have hsame : sample.raw.toNat = trend.prevRaw := hraw sample List.mem_cons_self
      obtain ⟨hlater, hrest⟩ := List.pairwise_cons.1 hsorted
      have hupdate : trend.update sample.raw.toNat sample.nowMs =
          { prevRaw := sample.raw.toNat
            rising := trend.rising && decide (sample.nowMs - trend.lastRiseMs < socRiseHoldMs)
            lastRiseMs := trend.lastRiseMs } := by
        rw [update, if_neg (by omega), if_neg (by omega)]
      have hstays : ∀ other ∈ rest, other.raw.toNat =
          (trend.update sample.raw.toNat sample.nowMs).prevRaw := by
        intro other hother
        rw [update_prevRaw, hsame]
        exact hraw other (List.mem_cons_of_mem _ hother)
      have hnext := ih hstays hrest
      rw [show trend.run (sample :: rest) =
        (trend.update sample.raw.toNat sample.nowMs).run rest from rfl, hnext, hupdate]
      simp only [Bool.and_eq_true, decide_eq_true_eq, List.cons_ne_nil, false_or]
      -- the time of the last sample decides, be it this one or a later one
      cases hlast : rest.getLast? with
      | none =>
          rw [List.getLast?_eq_none_iff] at hlast
          subst hlast
          simp
      | some last =>
          have hne : rest ≠ [] := by
            rintro rfl
            cases hlast
          have hmono : sample.nowMs ≤ last.nowMs := hlater last (List.mem_of_getLast? hlast)
          rw [List.getLast?_cons, hlast]
          simp [hne]
          omega

/-- Samples without a change, or with a last one. -/
theorem exists_lastChange (first : SocSample) (rest : List SocSample) :
    (∀ sample ∈ rest, sample.raw = first.raw) ∨
      ∃ a b plateau, LastChange (first :: rest) a b plateau := by
  induction rest generalizing first with
  | nil => exact .inl fun sample h => absurd h List.not_mem_nil
  | cons second rest ih =>
      obtain hflat | ⟨a, b, plateau, ⟨before, hsplit⟩, hchange, hstays⟩ := ih second
      · by_cases hsame : second.raw = first.raw
        · refine .inl fun sample h => ?_
          obtain rfl | h := List.mem_cons.1 h
          · exact hsame
          · exact (hflat sample h).trans hsame
        · exact .inr ⟨first, second, rest, ⟨[], rfl⟩, fun heq => hsame heq.symm, hflat⟩
      · exact .inr ⟨a, b, plateau, ⟨first :: before, by rw [hsplit]; rfl⟩, hchange, hstays⟩

/-- The first sample is never a rise. -/
theorem new_update_rising (sample : SocSample) :
    (new.update sample.raw.toNat sample.nowMs).rising = false := by
  have hmax : new.prevRaw = 255 := by decide
  have hraw := sample.raw.isLt
  rw [update, if_neg (by omega)]
  split <;> rfl

/-- Behind a last change, the trend rises if it was a rise and the plateau is short. -/
theorem run_lastChange {samples plateau : List SocSample} {a b : SocSample}
    (hsorted : samples.Pairwise fun a b => a.nowMs ≤ b.nowMs)
    (h : LastChange samples a b plateau) :
    (new.run samples).rising = true ↔ a.raw < b.raw ∧
      (plateau = [] ∨ ∃ last ∈ plateau.getLast?, last.nowMs - b.nowMs < socRiseHoldMs) := by
  obtain ⟨⟨before, rfl⟩, hchange, hstays⟩ := h
  have hrun : new.run (before ++ a :: b :: plateau) =
      ((new.run (before ++ [a])).update b.raw.toNat b.nowMs).run plateau := by
    rw [show before ++ a :: b :: plateau = (before ++ [a]) ++ b :: plateau by simp, run_append]
    rfl
  have hplateau : plateau.Pairwise fun a b => a.nowMs ≤ b.nowMs :=
    (List.pairwise_cons.1 (List.pairwise_cons.1 (List.pairwise_append.1 hsorted).2.1).2).2
  have hprev := run_prevRaw new before a
  rw [hrun, run_plateau (fun sample hsample => by rw [update_prevRaw, hstays sample hsample])
    hplateau]
  -- the last change was a rise, which raises the trend, or a fall, which lowers it
  by_cases hrise : a.raw < b.raw
  · have hupdate : (new.run (before ++ [a])).update b.raw.toNat b.nowMs =
        ⟨b.raw.toNat, true, b.nowMs⟩ := by
      rw [update, if_pos (hprev ▸ BitVec.lt_def.1 hrise)]
    rw [hupdate]
    simp [hrise]
  · have hne : a.raw.toNat ≠ b.raw.toNat := fun heq => hchange (BitVec.eq_of_toNat_eq heq)
    have hle : ¬ a.raw.toNat < b.raw.toNat := fun hlt => hrise (BitVec.lt_def.2 hlt)
    have hfall : ((new.run (before ++ [a])).update b.raw.toNat b.nowMs).rising = false := by
      rw [update, if_neg (by omega), if_pos (by omega)]
    rw [hfall]
    simp [hrise]

/-- Over samples in order of time, the trend rises exactly when their last change was a rise, and a
recent one. A single sample is never a rise. -/
theorem rising_iff_lastChange {samples : List SocSample}
    (hsorted : samples.Pairwise fun a b => a.nowMs ≤ b.nowMs) :
    ((new.run samples).rising = true ↔ Rises samples) ∧
      (samples.length ≤ 1 → (new.run samples).rising = false) := by
  have hiff : (new.run samples).rising = true ↔ Rises samples := by
    constructor
    · intro hrising
      cases samples with
      | nil => cases hrising
      | cons first rest =>
          obtain hflat | ⟨a, b, plateau, hlast⟩ := exists_lastChange first rest
          · -- without a change nothing has risen
            have hstays : ∀ sample ∈ rest, sample.raw.toNat =
                (new.update first.raw.toNat first.nowMs).prevRaw := by
              intro sample hsample
              rw [update_prevRaw, hflat sample hsample]
            have hrun := (run_plateau hstays (List.pairwise_cons.1 hsorted).2).1 hrising
            rw [new_update_rising] at hrun
            cases hrun.1
          · exact ⟨a, b, plateau, hlast, (run_lastChange hsorted hlast).1 hrising⟩
    · rintro ⟨a, b, plateau, hlast, hrises⟩
      exact (run_lastChange hsorted hlast).2 hrises
  refine ⟨hiff, fun hshort => Bool.eq_false_iff.2 fun hrising => ?_⟩
  obtain ⟨a, b, plateau, ⟨⟨before, rfl⟩, -, -⟩, -⟩ := hiff.1 hrising
  rw [List.length_append, List.length_cons, List.length_cons] at hshort
  omega

/-- A rise at the second sample, and a third one a minute later. -/
theorem rising_iff_lastChange_minute :
    ([⟨220, 1000⟩, ⟨221, 2000⟩, ⟨221, 62000⟩] : List SocSample).Pairwise
        (fun a b => a.nowMs ≤ b.nowMs) ∧
      ((new.run [⟨220, 1000⟩, ⟨221, 2000⟩, ⟨221, 62000⟩]).rising = true ↔
        Rises [⟨220, 1000⟩, ⟨221, 2000⟩, ⟨221, 62000⟩]) ∧
      (([⟨220, 1000⟩, ⟨221, 2000⟩, ⟨221, 62000⟩] : List SocSample).length ≤ 1 →
        (new.run [⟨220, 1000⟩, ⟨221, 2000⟩, ⟨221, 62000⟩]).rising = false) :=
  ⟨by decide, rising_iff_lastChange (by decide)⟩

end SocTrend

end Ln8000
