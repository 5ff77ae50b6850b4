import NabuCharger.Kmdf.FccRegister
import NabuCharger.Kmdf.Bench

/-!
# `Proofs.FccRestore`: what the buck limit is left at

The policy raises the buck limit while the pump carries current and returns it afterwards, and a
one-shot probe writes the same register. A write counts when its read-back shows the value. One
without it may have landed all the same.

The limit comes back to the factory value, with two exceptions the driver makes on purpose. It
never writes above 3 A, not even to return a factory value from there. And when the return write
of the probe does not take, the register stays at the value of the probe, below the factory one.
`AtHome` is these three cases. `fcc_settled` says that a policy that is not raised leaves the
register in one of them. Nothing is said of a value that a missed write has put there
(`FccView.stray`).
-/

set_option autoImplicit false

namespace Kmdf

open Effectful Ln8000

/-- An operation on the buck limit: a raise or a restore is a step of the policy. -/
inductive FccCall
  | probe (obs : Observation)
  | policy (obs : Observation)

/-- The program of an operation. -/
def FccCall.run : FccCall → HeldM Unit
  | .probe obs => probeFcc obs
  | .policy obs => runFccPolicy obs

/-- What a restore writes. -/
def restoredFcc (boot : Byte) : Byte := rawFor (satMul 32 boot.toNat fccStepUa)

/-- The factory value, up to the ceiling of 3 A. -/
theorem restoredFcc_toNat (boot : Byte) : (restoredFcc boot).toNat = min boot.toNat 60 := by
  have hboot : boot.toNat < 256 := boot.isLt
  have hmul : satMul 32 boot.toNat fccStepUa = boot.toNat * 50000 := by
    unfold satMul wordMax fccStepUa
    omega
  have hcap : min (boot.toNat * 50000 / fccStepUa) (fccWriteMaxUa / fccStepUa) =
      min boot.toNat 60 := by
    unfold fccStepUa fccWriteMaxUa
    omega
  rw [restoredFcc, rawFor, hmul, hcap, BitVec.toNat_ofNat]
  omega

/-- What the register may hold when the policy is not raised. -/
inductive AtHome (boot : Byte) (probeDone : Bool) (v : FccView) : Prop
  | factory (h : v.holds = boot)
  /-- A confirmed restore. -/
  | capped (h : v.holds.toNat = min boot.toNat 60)
  /-- The value of the probe was confirmed, and the session after it, which wrote the factory value
  back, was not. -/
  | probed (hdone : probeDone = true) (hbelow : 20 < boot) (h : v.holds = 20)
      (hreturn : v.unconfirmed.head? = some boot)

section
variable {after : Nat → Byte} {boot want : Byte} {probeDone : Bool} {v v' : FccView}

/-- A session that was missed and left the register as it was. -/
theorem AtHome.missed (h : AtHome boot probeDone v) (hv : v.Missed want v')
    (hsame : v'.holds = v.holds) : AtHome boot probeDone v' := by
  rcases h with hold | hold | ⟨hdone, hbelow, hold, hreturn⟩
  · exact .factory (hsame.trans hold)
  · exact .capped (hsame ▸ hold)
  · refine .probed hdone hbelow (hsame.trans hold) ?_
    rw [hv.unconfirmed, List.head?_append, hreturn]
    rfl

/-- The end of the probe. -/
theorem AtHome.done (h : AtHome boot probeDone v) : AtHome boot true v := by
  rcases h with hold | hold | ⟨_, hbelow, hold, hreturn⟩
  · exact .factory hold
  · exact .capped hold
  · exact .probed rfl hbelow hold hreturn

/-- The invariant of the policy and the probe. -/
structure FccSettled (boot : Byte) (s : Held) (v : FccView) : Prop where
  factory : s.fccBootRaw = boot
  home : v.stray = false → s.fccRaised = false → AtHome boot s.fccProbeDone v

/-- A raise or a restore that is not confirmed. -/
theorem FccSettled.missed {s : Held} (h : FccSettled boot s v) (hv : v.Missed want v') :
    FccSettled boot s v' := by
  refine ⟨h.factory, fun hstray hraised => ?_⟩
  obtain ⟨hsame, hbefore⟩ := hv.holds hstray
  exact (h.home hbefore hraised).missed hv hsame

/-- The deadline of the return is not part of it. -/
theorem FccSettled.restoreAt {s : Held} (h : FccSettled boot s v) (ms : Nat) :
    FccSettled boot { s with fccRestoreAtMs := ms } v :=
  ⟨h.factory, h.home⟩

/-- A raise leaves nothing to say once it counts, and nothing new before. -/
theorem raise_keeps (want : Byte) :
    Proc.Keeps (fccRegister after) (FccSettled boot)
      (do
        let ok ← writeFcc want
        Proc.when ok (Proc.modify fun s => { s with fccRaised := true }) : HeldM Unit) := by
  refine ⟨fun s v h => (Proc.wp_bind s v _ _ _).2 (writeFcc_wp (fun v' _ => ?_) fun v' hv => ?_)⟩
  · refine (Proc.wp_modify s v' _ _).2 ⟨h.factory, fun _ hraised => ?_⟩
    have hraised : true = false := hraised
    exact nomatch hraised
  · exact (Proc.wp_pure _ s v' _).2 (h.missed hv)

/-- A restore that counts leaves the capped factory value. -/
theorem restore_keeps :
    Proc.Keeps (fccRegister after) (FccSettled boot)
      (do
        let ok ← writeFcc (restoredFcc boot)
        Proc.when ok
          (Proc.modify fun s => { s with fccRaised := false, fccRestoreAtMs := 0 }) :
        HeldM Unit) := by
  refine ⟨fun s v h => (Proc.wp_bind s v _ _ _).2 (writeFcc_wp (fun v' hv => ?_) fun v' hv => ?_)⟩
  · have hcapped : v'.holds.toNat = min boot.toNat 60 := by
      rw [hv.holds]
      exact restoredFcc_toNat boot
    exact (Proc.wp_modify s v' _ _).2 ⟨h.factory, fun _ _ => .capped hcapped⟩
  · exact (Proc.wp_pure _ s v' _).2 (h.missed hv)

/-- A step of the policy is a raise, a restore, or a change of the deadline. -/
theorem runFccPolicy_keeps (obs : Observation) :
    Proc.Keeps (fccRegister after) (FccSettled boot) (runFccPolicy obs) := by
  refine .get_bind fun s v h => .ite (fun _ => ?_) fun _ => .when fun _ => ?_
  · refine .bind (.modify fun _ _ h => h.restoreAt 0) fun _ => .when fun _ => ?_
    exact raise_keeps _
  · refine .ite (fun _ => .modify fun _ _ h => h.restoreAt _) fun _ => .when fun _ => ?_
    rw [h.factory]
    exact restore_keeps

/-- The register after the probe, from its two writes. -/
theorem FccSettled.probed {s : Held} {v₁ v₂ : FccView} (h : FccSettled boot s v)
    (hbelow : 20 < boot) (hfirst : v₁.Took 20 ∨ v.Missed 20 v₁)
    (hsecond : v₂.Took boot ∨ v₁.Missed boot v₂) :
    FccSettled boot { s with fccProbeDone := true } v₂ := by
  refine ⟨h.factory, fun hstray hraised => ?_⟩
  rcases hsecond with hboot | hreturn
  · exact .factory hboot.holds
  · obtain ⟨hsame, hstray₁⟩ := hreturn.holds hstray
    rcases hfirst with hprobe | hmissed
    · -- the probe took and the return write did not
      refine .probed rfl hbelow (hsame.trans hprobe.holds) ?_
      rw [hreturn.unconfirmed, hprobe.unconfirmed]
      rfl
    · -- neither did, so the register is where it was
      obtain ⟨hsame₁, hbefore⟩ := hmissed.holds hstray₁
      exact (((h.home hbefore hraised).missed hmissed hsame₁).missed hreturn hsame).done

/-- The return write of the probe, and the flag after it. -/
theorem probeReturn_wp {s : Held} {v v₁ : (fccRegister after).State} (h : FccSettled boot s v)
    (hbelow : 20 < boot) (hfirst : v₁.Took 20 ∨ v.Missed 20 v₁) :
    (do
      let _ ← writeFcc s.fccBootRaw
      pure () : HeldM Unit).wp (fccRegister after)
      (Proc.thenWp (fccRegister after)
        (fun _ => (Proc.modify fun s => { s with fccProbeDone := true } : HeldM Unit))
        fun _ s' v' => FccSettled boot s' v') s v₁ := by
  rw [h.factory]
  refine (Proc.wp_bind s v₁ _ _ _).2 (writeFcc_wp (fun v₂ hboot => ?_) fun v₂ hmissed => ?_)
  · refine (Proc.wp_pure _ s v₂ _).2 ((Proc.wp_modify s v₂ _ _).2 ?_)
    exact h.probed hbelow hfirst (.inl hboot)
  · refine (Proc.wp_pure _ s v₂ _).2 ((Proc.wp_modify s v₂ _ _).2 ?_)
    exact h.probed hbelow hfirst (.inr hmissed)

/-- The probe writes its own value and then the factory value. -/
theorem probeFcc_keeps (obs : Observation) :
    Proc.Keeps (fccRegister after) (FccSettled boot) (probeFcc obs) := by
  refine ⟨fun s v h => (Proc.wp_get_bind s v _ _).2 ?_⟩
  refine Proc.wp_ite (fun _ => (Proc.wp_bind s v _ _ _).2 (Proc.wp_ite (fun hfree => ?_)
    fun _ => ?_)) fun _ => (Proc.wp_pure _ s v _).2 h
  · have hbelow : 20 < boot := by
      rw [← h.factory]
      exact of_decide_eq_true (Bool.and_elim_right hfree)
    -- whatever became of the first write, the second one follows
    refine (Proc.wp_bind s v _ _ _).2 (writeFcc_wp (fun v₁ hprobe => ?_) fun v₁ hmissed => ?_)
    · exact probeReturn_wp h hbelow (.inl hprobe)
    · exact probeReturn_wp h hbelow (.inr hmissed)
  · refine (Proc.wp_pure _ s v _).2 ((Proc.wp_modify s v _ _).2 ?_)
    exact ⟨h.factory, fun hstray hraised => (h.home hstray hraised).done⟩

/-- Both operations. -/
theorem fccCall_keeps (call : FccCall) :
    Proc.Keeps (fccRegister after) (FccSettled boot) call.run := by
  cases call with
  | probe obs => exact probeFcc_keeps obs
  | policy obs => exact runFccPolicy_keeps obs

/-- Whatever the register holds after each session: a policy that a run leaves not raised has it at
the factory value, at the factory value up to the ceiling of 3 A, or at the 1 A of a probe whose
return write was not confirmed. A value that an unconfirmed session has put there is left out. -/
theorem fcc_settled {s s' : Held} {log : List (Entry DevEffect Held FccCall)}
    (h : Run FccCall.run s log s')
    (hread : (fccRegister after).Allowed (FccView.captured s.fccBootRaw) (exchanges log))
    (hraised' : s'.fccRaised = false)
    (hconfirmed : ((fccRegister after).after (FccView.captured s.fccBootRaw)
      (exchanges log)).stray = false) :
    AtHome s.fccBootRaw s'.fccProbeDone
      ((fccRegister after).after (FccView.captured s.fccBootRaw) (exchanges log)) := by
  have hstart : FccSettled s.fccBootRaw s (FccView.captured s.fccBootRaw) :=
    ⟨rfl, fun _ _ => .factory rfl⟩
  have hend := h.keeps fccCall_keeps (FccView.captured s.fccBootRaw) hstart hread
  exact hend.home hconfirmed hraised'

end

/-! ### A factory value above the ceiling -/

/-- A tick in 2:1 at this time, with this input current. -/
def fccObs (tsMs : Nat) (iinUa : Int) : Observation where
  status := ⟨0, .switching, 0, 0, 0, 0⟩
  tsMs := tsMs
  vbat := .ok 3800000
  vbus := .ok 8000000
  iin := .ok iinUa
  temp := .ok 300

/-- A driver that has captured the factory value, with this raise configured. -/
def fccStart (boot : Byte) (cfgRaw : Nat) : Held :=
  { Context.new with fccBootRaw := boot, fccCfgRaw := cfgRaw, pump := Pump.configuredDefault }

/-- The pump carries current, stops, and the grace runs out. -/
def fccCalls : List FccCall :=
  [.policy (fccObs 1000 1000000), .policy (fccObs 2000 0), .policy (fccObs 200000 0)]

instance fccRegister.decidableAllow {after : Nat → Byte} :
    ∀ (v : (fccRegister after).State) (o : DevEffect.Op) (r : DevEffect.Resp o),
      Decidable ((fccRegister after).allow v o r)
  | _, .inr (.writeFccRaw _), none => isTrue fun _ h => nomatch h
  | v, .inr (.writeFccRaw _), some b =>
      match inferInstanceAs (Decidable (b = after v.sessions)) with
      | isTrue h => isTrue fun _ hb => Option.some.inj hb ▸ h
      | isFalse h => isFalse fun hall => h (hall b rfl)
  | _, .inl _, _ => isTrue trivial
  | _, .inr (.spmi _), _ => isTrue trivial
  | _, .inr .now, _ => isTrue trivial
  | _, .inr .pollGauge, _ => isTrue trivial
  | _, .inr .readChargeRegs, _ => isTrue trivial
  | _, .inr .initializeBattery, _ => isTrue trivial
  | _, .inr (.point _), _ => isTrue trivial

instance {after : Nat → Byte} (v : FccView) (t : List (Event DevEffect)) :
    Decidable ((fccRegister after).Allowed v t) :=
  @Machine.decidableAllowed _ (fccRegister after) fccRegister.decidableAllow v t

instance : DecidableEq DevEffect.Op := inferInstanceAs (DecidableEq (BusOp ⊕ HostOp))

/-- The log of these calls against a buck that takes every write. -/
def fccLog (boot : Byte) (cfgRaw : Nat) : List (Entry DevEffect Held FccCall) :=
  Session.execute Bench.answer FccCall.run (Bench.around Chip.refusing) (fccStart boot cfgRaw)
    fccCalls

/-- The calls return, and leave the policy not raised. -/
theorem run_fccLog {boot : Byte} {cfgRaw : Nat}
    (h : ((Run.leaves Bench.answer FccCall.run (Bench.around Chip.refusing)
      (fccStart boot cfgRaw) fccCalls).map fun s' => s'.fccRaised) = some false) :
    ∃ s', Run FccCall.run (fccStart boot cfgRaw) (fccLog boot cfgRaw) s' ∧
      s'.fccRaised = false := by
  obtain ⟨s', hleaves, hraised⟩ := Option.map_eq_some_iff.1 h
  exact ⟨s', Run.of_leaves Bench.answer FccCall.run fccCalls _ _ _ hleaves, hraised⟩

/-- A factory value of 1.5 A, raised to 2 A and returned. -/
theorem fcc_settled_returned :
    ∃ s', Run FccCall.run (fccStart 30 40) (fccLog 30 40) s' ∧
      AtHome 30 s'.fccProbeDone
        ((fccRegister fun n => [40, 30].getD n 0).after (FccView.captured 30)
          (exchanges (fccLog 30 40))) := by
  obtain ⟨s', hrun, hraised⟩ := @run_fccLog 30 40 (by decide +kernel)
  have hread : (fccRegister fun n => [40, 30].getD n 0).Allowed (FccView.captured 30)
      (exchanges (fccLog 30 40)) := by
    decide +kernel
  exact ⟨s', hrun, fcc_settled hrun hread hraised (by decide +kernel)⟩

/-- A factory value of 4 A, lowered to 2 A by the policy and returned. Both writes are confirmed,
and the register is left at 3 A. -/
theorem not_fcc_restored :
    ∃ s', Run FccCall.run (fccStart 80 40) (fccLog 80 40) s' ∧ s'.fccRaised = false ∧
      (exchanges (fccLog 80 40)).map Event.op =
        [.inr (.writeFccRaw 40), .inr (.writeFccRaw 60)] ∧
      (fccRegister fun n => [40, 60].getD n 0).Allowed (FccView.captured 80)
        (exchanges (fccLog 80 40)) ∧
      ((fccRegister fun n => [40, 60].getD n 0).after (FccView.captured 80)
        (exchanges (fccLog 80 40))).holds ≠ 80 := by
  obtain ⟨s', hrun, hraised⟩ := @run_fccLog 80 40 (by decide +kernel)
  exact ⟨s', hrun, hraised, by decide +kernel, by decide +kernel, by decide +kernel⟩

end Kmdf
