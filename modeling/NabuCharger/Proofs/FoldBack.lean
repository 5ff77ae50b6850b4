import NabuCharger.Kmdf.Bench
import NabuCharger.Kmdf.CellRules
import NabuCharger.Proofs.GuardCurrents

/-!
# `Proofs.FoldBack`: whether a fold-back is undone

The guard reduces the input current inside its bands and restores it outside. Near float it stops
the restore at the current the taper asks for, and the taper takes that from the profile. But an
order of the guard goes through `setIinLimit`, which overwrites the profile too.

`Foldback` is what the guard decides from and moves: its limits, and the two currents, the one in
the chip and the one of the profile. `Foldback.after` is one step of it, and `protect_stands` says
that the protection step takes exactly this step on a bus where `IIN_CTRL` works. The chip never
shows more than the profile (`Foldback.Low`), so a tick that leaves every band reaches its current
if and only if the profile still holds it (`Foldback.undone_iff`, and `fold_back_undone` for the
runs).
-/

set_option autoImplicit false

namespace Kmdf

open Effectful Ln8000

/-! ### The exit of the bands -/

/-- The sample is valid and meets the exit condition of every band. -/
structure ExitsEveryBand (sample : TelemetrySample) (limits : GuardLimits) : Prop where
  present : sample.inputPresent = true
  temp : dieTempUsable sample = true
  vbat : sample.vbatValid = true
  cool : sample.dieTempDc + tempReduceHystDc ≤ limits.tempReduceDc
  credible : vbatTracksConverterRail sample.vbatUv sample.vbusUv = false
  belowTop : sample.vbatUv + vbatReduceHystUv ≤ limits.vbatReduceUv
  current : sample.iinUa ≤ limits.iinMaxUa

/-- The thresholds rise, and the currents the guard restores to are on the grid of the chip. -/
structure LimitsOnGrid (limits : GuardLimits) : Prop where
  bypass : limits.tempReduceDc < limits.tempBypassDc
  stop : limits.tempBypassDc < limits.tempStopDc
  max : Regs.iinStepUa ∣ limits.iinMaxUa
  floor : Regs.iinStepUa ∣ limits.iinFloorUa
  profile : Regs.iinStepUa ∣ limits.iinProfileUa

/-- Such a sample decides currents, and no band holds it. -/
theorem ExitsEveryBand.left {sample : TelemetrySample} {limits : GuardLimits}
    (h : ExitsEveryBand sample limits) (hlimits : LimitsOnGrid limits) :
    currentDecided sample limits = true ∧ bandsLeft sample limits = true := by
  have hhyst : tempReduceHystDc = 30 := rfl
  have hbelow : sample.dieTempDc < limits.tempReduceDc := by
    have := h.cool
    omega
  have hbypass := hbelow.trans hlimits.bypass
  have hstop := hbypass.trans hlimits.stop
  constructor
  · rw [currentDecided, h.present, h.temp, h.vbat, decide_eq_true hstop, decide_eq_true hbypass]
    rfl
  · have hfold : foldCeiling sample limits = none := by
      have hvbat : ¬limits.vbatReduceUv ≤ sample.vbatUv := by
        have hlow := h.belowTop
        have hmargin : vbatReduceHystUv = 50000 := rfl
        omega
      rw [foldCeiling, if_neg (not_le.2 hbelow), if_neg (not_lt.2 h.current), h.credible,
        decide_eq_false hvbat]
      rfl
    have htemp : tempLow sample limits = true := by
      -- a usable temperature is far below the top of the word
      have husable : sample.dieTempDc ≤ dieTempMaxPlausibleDc := by
        have h := h.temp
        rw [dieTempUsable, Bool.and_eq_true, decide_eq_true_eq] at h
        exact h.2
      have hplausible : dieTempMaxPlausibleDc = 1250 := rfl
      refine decide_eq_true (le_max_of_le_right (le_min ?_ ?_))
      · have := h.cool
        omega
      · omega
    have hvbat : vbatLow sample limits = true := by
      rw [vbatLow, decide_eq_true (Nat.le_sub_of_add_le h.belowTop), Bool.or_true]
    rw [bandsLeft, hfold, htemp, hvbat]
    rfl

/-- The taper asks for a current. -/
def Observation.inTaperBand (obs : Observation) (floatUv : Nat) : Bool :=
  vbatNearFloatWithVin obs.sample.vbatUv floatUv
    (decide (obs.status.fault1Sts &&& Regs.fault1VbatOv ≠ 0)) obs.sample.vbusUv

/-- What a fold-back that is fully undone comes back to. -/
def undoneUa (obs : Observation) (limits : GuardLimits) (floatUv : Nat) : Nat :=
  if obs.inTaperBand floatUv then min limits.restoreIinUa vbatTaperIinUa else limits.restoreIinUa

/-- With limits on the grid, the current one restore step undoes is a multiple of the grid step. -/
theorem LimitsOnGrid.dvd_undoneUa {limits : GuardLimits} (h : LimitsOnGrid limits)
    (obs : Observation) (floatUv : Nat) : Regs.iinStepUa ∣ undoneUa obs limits floatUv := by
  -- the ceiling is one of three limits, all on the grid
  have hrestore : Regs.iinStepUa ∣ limits.restoreIinUa := by
    unfold GuardLimits.restoreIinUa
    split
    · exact h.max
    · split
      · exact h.floor
      · exact h.profile
  unfold undoneUa
  split
  · rcases min_choice limits.restoreIinUa vbatTaperIinUa with hmin | hmin
    · rw [hmin]
      exact hrestore
    · rw [hmin]
      decide
  · exact hrestore

/-! ### The two currents -/

/-- What the guard decides from and moves. -/
structure Foldback where
  limits : GuardLimits
  floatUv : Nat
  /-- The current in the chip. -/
  appliedUa : Nat
  /-- The current of the profile. -/
  profileUa : Nat

namespace Foldback

/-- What the protection step decides on. -/
def inputs (g : Foldback) (obs : Observation) (strikes : Nat) : GuardInputs where
  status := obs.status
  sample := obs.sample
  limits := g.limits
  appliedIinUa := some g.appliedUa
  deliberateIinUa :=
    if !obs.inTaperBand g.floatUv then none else some (min g.profileUa vbatTaperIinUa)
  deniedStrikes := strikes
  vbusUv := obs.vbusUv

/-- An order goes to the chip and to the profile, if the encoder takes it. -/
def order (g : Foldback) : Option Nat → Foldback
  | none => g
  | some toUa =>
      if toUa < Regs.iinMinUa then g else { g with appliedUa := iinOnGrid toUa, profileUa := toUa }

/-- One step of the guard. -/
def after (g : Foldback) (obs : Observation) (strikes : Nat) : Foldback :=
  g.order (g.inputs obs strikes).orderedUa

/-- The chip shows no more than the profile, and a value of the field. -/
structure Low (g : Foldback) : Prop where
  profile : g.appliedUa ≤ g.profileUa
  min : Regs.iinMinUa ≤ g.appliedUa
  top : g.appliedUa ≤ iinTopUa

/-- What a step leaves alone. -/
theorem order_limits (g : Foldback) (ordered : Option Nat) :
    (g.order ordered).limits = g.limits ∧ (g.order ordered).floatUv = g.floatUv := by
  cases ordered with
  | none => exact ⟨rfl, rfl⟩
  | some toUa =>
      unfold order
      dsimp only
      split
      · exact ⟨rfl, rfl⟩
      · exact ⟨rfl, rfl⟩

/-- Raising an order keeps a fold-back below the limits. -/
theorem Low.order {g : Foldback} (h : g.Low) (ordered : Option Nat) : (g.order ordered).Low := by
  cases ordered with
  | none => exact h
  | some toUa =>
      unfold Foldback.order
      dsimp only
      split
      · exact h
      next hmin =>
        refine ⟨iinOnGrid_le toUa, ?_, Nat.mul_le_mul_right _ (min_le_right _ _)⟩
        obtain ⟨code, hcode⟩ := (encodeIinLimit_isOk_iff toUa).2 (not_lt.1 hmin)
        show Regs.iinMinUa ≤ iinOnGrid toUa
        rw [← decode_encodeIinLimit hcode rfl]
        exact iinMinUa_le_decodeIinLimit code

/-- Where a restore goes: the taper stops it at the profile. -/
def ceilingUa (g : Foldback) (obs : Observation) : Nat :=
  if obs.inTaperBand g.floatUv then min (undoneUa obs g.limits g.floatUv) g.profileUa
  else undoneUa obs g.limits g.floatUv

/-- At a tick that leaves every band the guard orders this ceiling, if the chip is below it. -/
theorem orderedUa_of_exits {g : Foldback} {obs : Observation} (hlimits : LimitsOnGrid g.limits)
    (hexit : ExitsEveryBand obs.sample g.limits) (strikes : Nat) :
    (g.inputs obs strikes).orderedUa =
      if g.appliedUa < g.ceilingUa obs then some (g.ceilingUa obs) else none := by
  obtain ⟨hdecided, hleft⟩ := hexit.left hlimits
  have hceiling : restoreCeiling g.limits (g.inputs obs strikes).deliberateIinUa =
      g.ceilingUa obs := by
    unfold inputs ceilingUa undoneUa
    dsimp only
    cases obs.inTaperBand g.floatUv with
    | false => rfl
    | true =>
        show min g.limits.restoreIinUa (min g.profileUa vbatTaperIinUa) =
          min (min g.limits.restoreIinUa vbatTaperIinUa) g.profileUa
        rw [min_assoc, min_comm g.profileUa]
  have hcurrent : (g.inputs obs strikes).action.current =
      if g.appliedUa < g.ceilingUa obs then some (g.ceilingUa obs) else none := by
    rw [← hceiling]
    exact evaluate_of_bandsLeft hdecided hleft g.appliedUa _
  rw [← hcurrent]
  -- a sample that decides currents does not ask for 1:1
  have hnofallback : ∀ reason, (g.inputs obs strikes).action ≠ .fallbackToBypass reason := by
    intro reason
    have hdecides : (g.inputs obs strikes).action = _ :=
      evaluate_of_currentDecided hdecided g.appliedUa _
    rw [hdecides]
    exact evaluateCurrent_ne_fallback _ _ _ _ _
  unfold GuardInputs.orderedUa
  cases haction : (g.inputs obs strikes).action with
  | fallbackToBypass reason => exact absurd haction (hnofallback reason)
  | none => rfl
  | stop reason => rfl
  | reduceCurrent toUa reason => rfl
  | restoreCurrent toUa reason => rfl

/-- A current on the grid is what the chip makes of it, up to the top of the field. -/
theorem le_iinOnGrid_iff {iinUa : Nat} (h : Regs.iinStepUa ∣ iinUa) :
    iinUa ≤ iinOnGrid iinUa ↔ iinUa ≤ iinTopUa := by
  obtain ⟨steps, rfl⟩ := h
  have hstep : Regs.iinStepUa = 50000 := rfl
  have hmax : iinCodeMax.toNat = 127 := rfl
  rw [iinOnGrid, iinTopUa, Nat.mul_div_cancel_left _ (by decide), hstep, hmax]
  omega

/-- After a tick that leaves every band, the fold-back is undone exactly if the field reaches
that far and, in the taper band, the profile still holds the current. -/
theorem undone_iff {g : Foldback} {obs : Observation} (hlow : g.Low)
    (hlimits : LimitsOnGrid g.limits) (hexit : ExitsEveryBand obs.sample g.limits)
    (strikes : Nat) :
    undoneUa obs g.limits g.floatUv ≤ (g.after obs strikes).appliedUa ↔
      undoneUa obs g.limits g.floatUv ≤ iinTopUa ∧
        (obs.inTaperBand g.floatUv = true → undoneUa obs g.limits g.floatUv ≤ g.profileUa) := by
  have hgrid := le_iinOnGrid_iff (hlimits.dvd_undoneUa obs g.floatUv)
  have hprofile := hlow.profile
  have hmin := hlow.min
  have htop := hlow.top
  have hafter : (g.after obs strikes).appliedUa =
      if g.appliedUa < g.ceilingUa obs then iinOnGrid (g.ceilingUa obs) else g.appliedUa := by
    rw [after, orderedUa_of_exits hlimits hexit]
    by_cases hbelow : g.appliedUa < g.ceilingUa obs
    · rw [if_pos hbelow, if_pos hbelow, order, if_neg (by omega)]
    · rw [if_neg hbelow, if_neg hbelow, order]
  rw [hafter]
  unfold ceilingUa
  generalize undoneUa obs g.limits g.floatUv = goal at hgrid ⊢
  cases obs.inTaperBand g.floatUv with
  | false =>
      simp only [Bool.false_eq_true, if_false, false_implies, and_true]
      split
      · exact hgrid
      · omega
  | true =>
      simp only [if_true, true_implies]
      rcases le_or_gt goal g.profileUa with hholds | hlost
      · rw [min_eq_left hholds, and_iff_left hholds]
        split
        · exact hgrid
        · omega
      · -- the profile is below the current, and so is everything made of it
        have hgridded := iinOnGrid_le g.profileUa
        rw [min_eq_right hlost.le]
        constructor
        · intro h
          split at h <;> omega
        · intro h
          omega

end Foldback

/-! ### The protection step takes this step -/

/-- The driver and the bus show these currents. -/
structure Foldback.Shows (g : Foldback) (s : DriverState) (known : Option Byte) : Prop where
  limits : s.limits = g.limits
  applied : known.map decodeIinLimit = some g.appliedUa
  profile : ∀ p, s.pump = some p → p.config.iinLimitUa = g.profileUa ∧
    p.config.vbatFloatUv = g.floatUv ∧ p.state ≠ .closed

/-- They show currents of this kind. -/
def Stands (S : Foldback → Prop) (s : DriverState) (known : iinBus.State) : Prop :=
  ∃ g, S g ∧ g.Shows s known

/-- The bus of this module sees the current-limit register as its cell. -/
theorem cellView_iinBus : CellView iinBus.onLeft Regs.iinCtrl fun known => known where
  ne_bcOp2 := by decide
  answers _ _ _ hr := hr
  next _ _ _ := rfl
  require_read _ := trivial
  next_read _ _ := rfl

variable {S : Foldback → Prop}

/-- Everything but a write of the limit register leaves the standing limit as it was. -/
theorem rules_stands : CellRules iinBus (Stands S) where
  timeless := by
    rintro s s' known h ⟨g, hg, hshows⟩
    refine ⟨g, hg, h.limits.trans hshows.limits, hshows.applied, ?_⟩
    rw [h.pump]
    exact hshows.profile
  strikeless := by
    rintro s strikes known ⟨g, hg, hshows⟩
    exact ⟨g, hg, hshows.limits, hshows.applied, hshows.profile⟩
  windowless := by
    rintro s nudgeMs bestErrUv stallN known ⟨g, hg, hshows⟩
    exact ⟨g, hg, hshows.limits, hshows.applied, hshows.profile⟩
  session s p p' known h hs := by
    obtain ⟨g, hg, hshows⟩ := hs
    refine ⟨g, hg, hshows.limits, hshows.applied, fun q hq => ?_⟩
    obtain rfl := Option.some.inj hq
    obtain ⟨hprofile, hfloat, hopen⟩ := hshows.profile p rfl
    rw [h.1]
    exact ⟨hprofile, hfloat, fun hclosed => hopen (h.2 hclosed)⟩
  host o ho s known hs := ⟨trivial, fun _ _ => hs⟩
  quiet s o ho p known hs := by
    refine ⟨trivial, fun r _ => ?_⟩
    obtain ⟨g, hg, hshows⟩ := hs
    have hsame : nextCell Regs.iinCtrl known o = known :=
      nextCell_of_spares (spares_of_quietOp ho).1 _
    refine ⟨g, hg, hshows.limits, ?_, hshows.profile⟩
    show (nextCell Regs.iinCtrl known o).map decodeIinLimit = _
    rw [hsame]
    exact hshows.applied

section
variable [LoopFuel]

/-- The setpoint that is read is the one that stands in the chip. -/
theorem guardInputs_stands {g : Foldback} (obs : Observation) (s : Held) (known : iinBus.State)
    (hs : heldOf (Stands (g = ·)) s known) :
    (guardInputs obs).wp iinBus (fun outcome s' known' => ∃ applied,
      outcome = .ok (.of obs s' applied) ∧ applied = some g.appliedUa ∧
        heldOf (Stands (g = ·)) s' known') s known := by
  obtain ⟨_, rfl, hshows⟩ := hs
  obtain ⟨value, hknown, hvalue⟩ := Option.map_eq_some_iff.1 hshows.applied
  obtain ⟨-, -, hopen⟩ := hshows.profile s.pump rfl
  -- the limit is read back from the chip, and decodes to the current that stands
  have happlied : appliedIinUa.wp iinBus.onLeft (fun outcome p' known' =>
      outcome = .ok (some (decodeIinLimit value)) ∧ s.pump.Transfers p' ∧ known' = known)
      s.pump known := by
    refine (Proc.wp_attempt_bind _ _ _ _ _).2 ((Proc.wp_bind _ _ _ _ _).2 ?_)
    refine ensureOpen_wp hopen ((Proc.thenWp_ok _ _ _ _ _).2 ?_)
    refine Proc.wp_mono (cellView_iinBus.read_wp (p := s.pump) (m := known)
      (R := fun read p' known' => read = value ∧ s.pump.Transfers p' ∧ known' = known)
      fun read hread => ⟨?_, ⟨rfl, rfl, rfl, rfl, Or.inl rfl⟩, rfl⟩) ?_
    · exact cellView_iinBus.eq_of_read hknown hread
    · rintro _ p' known' ⟨read, rfl, rfl, htransfers, rfl⟩
      exact (Proc.wp_pure _ _ _ _).2 ⟨rfl, htransfers, rfl⟩
  refine (Proc.wp_bind s known _ _ _).2 ((Proc.wp_onPart _ _ _ _ _ _).2 ?_)
  refine (Proc.wp_inl _ _ _ _ _).2 (Proc.wp_mono happlied ?_)
  rintro _ p' _ ⟨rfl, htransfers, rfl⟩
  refine (Proc.thenWp_ok _ _ _ _ _).2 ((Proc.wp_bind _ _ _ _ _).2 ((Proc.wp_get _ _ _).2 ?_))
  refine (Proc.wp_pure _ _ _ _).2 ⟨some (decodeIinLimit value), rfl, congrArg some hvalue, ?_⟩
  exact rules_stands.session s s.pump p' _ htransfers.continues ⟨_, rfl, hshows⟩

/-- An order of the guard is this order. -/
theorem setIinLimit_stands {g : Foldback} (toUa : Nat) (s : Held) (known : iinBus.State)
    (hs : heldOf (Stands (g = ·)) s known) :
    (onPump (setIinLimit toUa)).wp iinBus
      (fun _ s' known' => heldOf (Stands (· = g.order (some toUa))) s' known') s known := by
  obtain ⟨_, rfl, hshows⟩ := hs
  obtain ⟨-, hfloat, hopen⟩ := hshows.profile s.pump rfl
  refine (Proc.wp_onPart _ _ _ _ _ _).2 ((Proc.wp_inl _ _ _ _ _).2 ?_)
  -- below the grid nothing is written and the old limit stands, else the new code does
  cases hcode : encodeIinLimit toUa with
  | error err =>
      have hlow : toUa < Regs.iinMinUa := by
        by_contra hmin
        obtain ⟨code, hok⟩ := (encodeIinLimit_isOk_iff toUa).2 (not_lt.1 hmin)
        rw [hcode] at hok
        cases hok
      refine setIinLimit_wp_error hcode ⟨_, rfl, ?_⟩
      rw [Foldback.order, if_pos hlow]
      exact hshows
  | ok code =>
      have hmin : ¬toUa < Regs.iinMinUa := not_lt.2 ((encodeIinLimit_isOk_iff toUa).1 ⟨code, hcode⟩)
      refine Proc.wp_mono (cellView_iinBus.setIinLimit_wp hcode (p := s.pump) (m := known)
        (R := fun p' known' => p'.config.vbatFloatUv = g.floatUv ∧ p'.state ≠ .closed ∧
          ∃ current, known' = some (mergeBits current 0x7F code)) ?_ (fun _ => trivial)
        fun current => ⟨hfloat, hopen, current, rfl⟩) ?_
      · rintro p p' known' htransfers ⟨hfloat, hopen, hcell⟩
        refine ⟨htransfers.config ▸ hfloat, fun hclosed => ?_, hcell⟩
        exact hopen (htransfers.continues.2 hclosed)
      · rintro _ _ _ ⟨-, p', ⟨hfloat, hopen, current, rfl⟩, rfl⟩
        refine ⟨_, rfl, ?_⟩
        rw [Foldback.order, if_neg hmin]
        refine ⟨hshows.limits, ?_, fun q hq => ?_⟩
        · exact congrArg some (decode_mergeBits hcode current)
        · obtain rfl := Option.some.inj hq
          exact ⟨rfl, hfloat, hopen⟩

/-- The protection step takes one step of the guard. -/
theorem protect_stands {g : Foldback} (obs : Observation) (s : Held) (known : iinBus.State)
    (hs : heldOf (Stands (g = ·)) s known) :
    (protect obs).wp iinBus (fun _ s' known' =>
      heldOf (Stands fun g' => ∃ strikes, g' = g.after obs strikes) s' known') s known := by
  have hsteps : (protect obs).wp iinBus (fun outcome s' known' => ∃ changed,
      outcome = .ok changed ∧
        heldOf (Stands fun g' => ∃ strikes, g' = g.after obs strikes) s' known') s known := by
    refine protect_wp_inputs rules_stands.strikeless (guardInputs_stands obs)
      (A := fun inputs s known => inputs = g.inputs obs inputs.deniedStrikes ∧
        heldOf (Stands (g = ·)) s known)
      (K := fun _ => heldOf (Stands fun g' => ∃ strikes, g' = g.after obs strikes)) ?_ ?_ ?_
      rules_stands.driver.held s known hs
    · rintro s known applied ⟨rfl, hs⟩
      refine ⟨trivial, fun _ _ => ⟨?_, hs⟩⟩
      obtain ⟨_, rfl, hshows⟩ := hs
      obtain ⟨hprofile, hfloat, -⟩ := hshows.profile s.pump rfl
      unfold GuardInputs.of Foldback.inputs Observation.inTaperBand Pump.taperSetpointUa
      rw [hprofile, hfloat, show s.limits = g.limits from hshows.limits]
    · rintro inputs s known - - hstrikes - ⟨hinputs, hs⟩
      cases hordered : inputs.orderedUa with
      | none =>
          have hkept := applyGuard_wp rules_stands.strikeless
            (fun toUa hto => absurd (hordered.symm.trans hto) (by simp))
            rules_stands.enableBypass (fun s => rules_stands.setOpMode s .standby) s known
            hstrikes hs
          refine Proc.wp_mono hkept ?_
          rintro _ s' known' ⟨_, rfl, hshows⟩
          refine ⟨g, ⟨inputs.deniedStrikes, ?_⟩, hshows⟩
          rw [Foldback.after, ← hinputs, hordered, Foldback.order]
      | some toUa =>
          have hmoved := applyGuard_wp_ordered rules_stands.strikeless hordered
            (setIinLimit_stands toUa) s known hstrikes hs
          refine Proc.wp_mono hmoved ?_
          rintro _ s' known' ⟨_, rfl, hshows⟩
          refine ⟨_, ⟨inputs.deniedStrikes, ?_⟩, hshows⟩
          rw [Foldback.after, ← hinputs, hordered]
    · rintro inputs s known - - hsame ⟨hinputs, _, rfl, hshows⟩
      refine ⟨g, ⟨inputs.deniedStrikes, ?_⟩, hshows⟩
      -- a decision that changes nothing orders nothing
      have hnone : inputs.action = .none := by simpa [GuardAction.isChange] using hsame
      have hordered : inputs.orderedUa = none := by
        rw [GuardInputs.orderedUa, hnone]
        rfl
      rw [Foldback.after, ← hinputs, hordered, Foldback.order]
  refine Proc.wp_mono hsteps ?_
  rintro _ s' known' ⟨_, -, h⟩
  exact h

/-! ### Runs -/

/-- The pump is open, and `IIN_CTRL` has this content: no more than the profile, as `configure`
and the taper leave it. -/
structure GuardReady (s : Held) (content : Byte) : Prop where
  limits : LimitsOnGrid s.limits
  opened : s.pump.state ≠ .closed
  applied : decodeIinLimit content ≤ s.pump.config.iinLimitUa

/-- From this content on, transfers of `IIN_CTRL` succeed, and a read returns what was written. -/
def IinWorksFrom (content : Byte) (t : List (Event DevEffect)) : Prop :=
  iinBus.Allowed (some content) t

/-- The current that stands in `IIN_CTRL` after such a trace. -/
def programmedUa (content : Byte) (t : List (Event DevEffect)) : Option Nat :=
  (iinBus.after (some content) t).map decodeIinLimit

/-- Every run of the protection step keeps the chip within the profile, under the limits it
started with. -/
theorem run_stands {s s' : Held} {content : Byte} {log : List (Entry DevEffect Held Observation)}
    (h : Run protect s log s') (hs : GuardReady s content)
    (hbus : IinWorksFrom content (exchanges log)) :
    heldOf (Stands fun g => g.limits = s.limits ∧ g.Low) s'
      (iinBus.after (some content) (exchanges log)) := by
  -- one protection step moves the predicted guard like the real one
  have hstep : ∀ obs, Proc.Keeps iinBus
      (heldOf (Stands fun g => g.limits = s.limits ∧ g.Low)) (protect obs) := by
    refine fun obs => ⟨fun held known hheld => ?_⟩
    obtain ⟨g, ⟨hlimits, hlow⟩, hshows⟩ := hheld
    refine Proc.wp_mono (protect_stands obs held known ⟨g, rfl, hshows⟩) ?_
    rintro _ s' known' ⟨_, ⟨strikes, rfl⟩, hshows'⟩
    exact ⟨_, ⟨(g.order_limits _).1.trans hlimits, hlow.order _⟩, hshows'⟩
  refine h.keeps hstep (some content) ?_ hbus
  refine ⟨⟨s.limits, s.pump.config.vbatFloatUv, decodeIinLimit content,
    s.pump.config.iinLimitUa⟩, ⟨rfl, hs.applied, iinMinUa_le_decodeIinLimit content,
      decodeIinLimit_le_iinTopUa content⟩, rfl, rfl, fun p hp => ?_⟩
  obtain rfl := Option.some.inj hp
  exact ⟨rfl, rfl, hs.opened⟩

/-- In every run of the protection step, on a bus where transfers of `IIN_CTRL` succeed: after a
tick whose sample leaves every band, the current in the chip is back exactly if the field reaches
that far and, in the taper band, the profile still held it when the tick began. -/
theorem fold_back_undone {s s' : Held} {content : Byte}
    {before : List (Entry DevEffect Held Observation)} {entry : Entry DevEffect Held Observation}
    (h : Run protect s (before ++ [entry]) s') (hs : GuardReady s content)
    (hbus : IinWorksFrom content (exchanges (before ++ [entry])))
    (hexit : ExitsEveryBand entry.op.sample entry.start.limits) :
    ∃ currentUa, programmedUa content (exchanges (before ++ [entry])) = some currentUa ∧
      (undoneUa entry.op entry.start.limits entry.start.pump.config.vbatFloatUv ≤ currentUa ↔
        undoneUa entry.op entry.start.limits entry.start.pump.config.vbatFloatUv ≤ iinTopUa ∧
          (entry.op.inTaperBand entry.start.pump.config.vbatFloatUv = true →
            undoneUa entry.op entry.start.limits entry.start.pump.config.vbatFloatUv ≤
              entry.start.pump.config.iinLimitUa)) := by
  obtain ⟨out, hrun, hlast, -⟩ := h.last
  unfold IinWorksFrom at hbus
  unfold programmedUa
  rw [exchanges_concat] at hbus ⊢
  obtain ⟨hbefore, htick⟩ := (Machine.allowed_append _).1 hbus
  -- what the tick starts from
  obtain ⟨g, ⟨hlimits, hlow⟩, hshows⟩ := run_stands hrun hs hbefore
  have hsame : entry.start.limits = g.limits := hshows.limits
  obtain ⟨hprofile, hfloat, -⟩ := hshows.profile entry.start.pump rfl
  rw [hsame] at hexit ⊢
  rw [hprofile, hfloat]
  -- and what it ends with
  obtain ⟨_, ⟨strikes, rfl⟩, hend⟩ := Prog.Yields.post hlast
    (protect_stands entry.op entry.start _ ⟨g, rfl, hshows⟩).prog htick
  refine ⟨(g.after entry.op strikes).appliedUa, ?_, ?_⟩
  · exact (congrArg (Option.map decodeIinLimit) (Machine.after_append _ _ _ _)).trans hend.applied
  · exact Foldback.undone_iff hlow (hlimits ▸ hs.limits) hexit strikes

end

instance (content : Byte) (t : List (Event DevEffect)) : Decidable (IinWorksFrom content t) :=
  @Machine.decidableAllowed _ iinBus decideIinBus (some content) t

-- a statement about a concrete log is not to be evaluated while it is read
attribute [irreducible] IinWorksFrom programmedUa

/-- A pack near float on a 9.8 V input, at this temperature of the die. -/
def nearFloatAt (dieTempDc : Int) : Observation where
  status :=
    { sysSts := Regs.sysStsSwitchingEnabled
      opMode := .switching
      safetySts := 0
      fault1Sts := 0
      fault2Sts := 0
      ldoSts := 0 }
  tsMs := 0
  vbat := .ok 4400000
  vbus := .ok 9800000
  iin := .ok 400000
  temp := .ok dieTempDc

/-- The default limits, and a pump of the default profile. -/
def guardedDefault : Held := { Context.new with pump := Pump.configuredDefault }

/-- A chip that `configure` set to the profile. -/
def chipAtProfile : Chip := Chip.nineVolt.setReg Regs.iinCtrl 0x38

/-- The default guarded driver holds the limit code of the configured setpoint. -/
theorem guardedDefault_ready : GuardReady guardedDefault 0x38 :=
  ⟨⟨by decide, by decide, by decide, by decide, by decide⟩, by decide, by decide⟩

/-- A tick at this temperature, and one at 30 °C. -/
def cooledFrom (dieTempDc : Int) : List Observation := [nearFloatAt dieTempDc, nearFloatAt 300]

/-- The run of a guard that folds back at `dieTempDc` and then cools. -/
def cooledLog (dieTempDc : Int) : List (Entry DevEffect Held Observation) :=
  Session.execute Bench.answer (@protect ⟨0⟩) (.around chipAtProfile) guardedDefault
    (cooledFrom dieTempDc)

/-- The computed log of a cooled guard is a run of `protect`. -/
theorem run_cooledLog (dieTempDc : Int)
    (h : (Run.leaves Bench.answer (@protect ⟨0⟩) (.around chipAtProfile) guardedDefault
      (cooledFrom dieTempDc)).isSome = true) :
    ∃ s, Run (@protect ⟨0⟩) guardedDefault (cooledLog dieTempDc) s := by
  obtain ⟨s, hleaves⟩ := Option.isSome_iff_exists.1 h
  exact ⟨s, Run.of_leaves (E := DevEffect) Bench.answer (@protect ⟨0⟩) _ (.around chipAtProfile) _
    s hleaves⟩

instance (sample : TelemetrySample) (limits : GuardLimits) :
    Decidable (ExitsEveryBand sample limits) :=
  decidable_of_iff
    (sample.inputPresent = true ∧ dieTempUsable sample = true ∧ sample.vbatValid = true ∧
      sample.dieTempDc + tempReduceHystDc ≤ limits.tempReduceDc ∧
      vbatTracksConverterRail sample.vbatUv sample.vbusUv = false ∧
      sample.vbatUv + vbatReduceHystUv ≤ limits.vbatReduceUv ∧ sample.iinUa ≤ limits.iinMaxUa)
    ⟨fun ⟨present, temp, vbat, cool, credible, belowTop, current⟩ =>
      { present, temp, vbat, cool, credible, belowTop, current },
      fun h => ⟨h.present, h.temp, h.vbat, h.cool, h.credible, h.belowTop, h.current⟩⟩

/-- The last tick leaves every band, in the taper band, with this current in the profile. -/
def endsNearFloat (profileUa : Nat) (entry : Entry DevEffect Held Observation) : Prop :=
  ExitsEveryBand entry.op.sample entry.start.limits ∧
    undoneUa entry.op entry.start.limits entry.start.pump.config.vbatFloatUv = 1200000 ∧
    entry.start.pump.config.iinLimitUa = profileUa

instance (profileUa : Nat) (entry : Entry DevEffect Held Observation) :
    Decidable (endsNearFloat profileUa entry) :=
  inferInstanceAs (Decidable (_ ∧ _ ∧ _))

/-- A fold-back to 2 A leaves the profile above the current of the taper. -/
theorem fold_back_undone_two_amps :
    ∃ currentUa, programmedUa 0x38 (exchanges (cooledLog 560)) = some currentUa ∧
      1200000 ≤ currentUa := by
  obtain ⟨s, hrun⟩ := run_cooledLog 560 (by decide +kernel)
  have hbus : IinWorksFrom 0x38 (exchanges (cooledLog 560)) := by decide +kernel
  -- the run ends near the float voltage, with the profile of 2 A
  have hends : ((cooledLog 560).getLast?.map fun entry => decide (endsNearFloat 2000000 entry)) =
      some true := by decide +kernel
  obtain ⟨entry, hlast, hentry⟩ := Option.map_eq_some_iff.1 hends
  obtain ⟨before, hlog⟩ := List.getLast?_eq_some_iff.1 hlast
  obtain ⟨hexit, hgoal, hprofile⟩ := of_decide_eq_true hentry
  rw [hlog] at hrun hbus ⊢
  obtain ⟨currentUa, hprogrammed, hundone⟩ :=
    @fold_back_undone ⟨0⟩ _ _ _ _ _ hrun guardedDefault_ready hbus hexit
  rw [hgoal, hprofile] at hundone
  exact ⟨currentUa, hprogrammed, hundone.2 ⟨by decide, fun _ => by decide⟩⟩

/-- A fold-back to 0.5 A overwrites the profile, and the restore stops there. -/
theorem not_fold_back_undone : ¬∀ (s s' : Held) (content : Byte)
    (before : List (Entry DevEffect Held Observation)) (entry : Entry DevEffect Held Observation),
    Run (@protect ⟨0⟩) s (before ++ [entry]) s' → GuardReady s content →
      IinWorksFrom content (exchanges (before ++ [entry])) →
      ExitsEveryBand entry.op.sample entry.start.limits →
      ∃ currentUa, programmedUa content (exchanges (before ++ [entry])) = some currentUa ∧
        undoneUa entry.op entry.start.limits entry.start.pump.config.vbatFloatUv ≤ currentUa := by
  intro hall
  obtain ⟨s, hrun⟩ := run_cooledLog 620 (by decide +kernel)
  have hbus : IinWorksFrom 0x38 (exchanges (cooledLog 620)) := by decide +kernel
  have hends : ((cooledLog 620).getLast?.map fun entry => decide (endsNearFloat 500000 entry)) =
      some true := by decide +kernel
  -- at 62.0 C the current is folded to 500 mA, and the exit near the float leaves it there
  have hstays : programmedUa 0x38 (exchanges (cooledLog 620)) = some 500000 := by decide +kernel
  obtain ⟨entry, hlast, hentry⟩ := Option.map_eq_some_iff.1 hends
  obtain ⟨before, hlog⟩ := List.getLast?_eq_some_iff.1 hlast
  obtain ⟨hexit, hgoal, -⟩ := of_decide_eq_true hentry
  rw [hlog] at hrun hbus hstays
  obtain ⟨currentUa, hprogrammed, hundone⟩ :=
    hall _ _ _ _ _ hrun guardedDefault_ready hbus hexit
  obtain rfl := Option.some.inj (hstays.symm.trans hprogrammed)
  rw [hgoal] at hundone
  exact absurd hundone (by decide)

end Kmdf
