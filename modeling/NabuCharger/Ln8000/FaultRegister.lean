import NabuCharger.Ln8000.Reliable

/-!
# `Ln8000.FaultRegister`: the fault masks as a memory

`FAULT_CTRL` holds the masks of the fault detectors. `faultBus` is the bus on which this one
register can be read and written and returns what was written last, until a reset of the
chip. The other transfers answer as `A` admits. Beside the register the monitor keeps a
history `G`, which `g` moves along with the exchanges.

A read-modify-write of the register succeeds there, and moves the history by its one write
(`update_fault_wp`).
-/

set_option autoImplicit false

namespace Ln8000

open Effectful

/-- What is known of `FAULT_CTRL`, and the history beside it. -/
structure FaultWatch (G : Type) where
  fault : Option Byte
  history : G

/-- `FAULT_CTRL` after an exchange. -/
def nextFault (fault : Option Byte) : (o : BusOp) → BusEffect.Resp o → Option Byte
  | .read addr, .ok value => if addr = Regs.faultCtrl then some value else fault
  | .write addr value, .ok _ =>
      if isSoftReset addr value then none
      else if addr = Regs.faultCtrl then some value
      else fault
  | _, _ => fault

/-- Transfers of `FAULT_CTRL` succeed, and a read returns what is known of it. -/
def FaultAnswers (fault : Option Byte) : (o : BusOp) → BusEffect.Resp o → Prop
  | .read addr, .ok value => addr = Regs.faultCtrl → fault = none ∨ fault = some value
  | .read addr, .error _ | .write addr _, .error _ => addr ≠ Regs.faultCtrl
  | _, _ => True

instance decidableFaultAnswers (fault : Option Byte) :
    ∀ (o : BusOp) (r : BusEffect.Resp o), Decidable (FaultAnswers fault o r)
  | .read addr, .ok value =>
      inferInstanceAs (Decidable (addr = Regs.faultCtrl → fault = none ∨ fault = some value))
  | .read addr, .error _ => inferInstanceAs (Decidable (addr ≠ Regs.faultCtrl))
  | .write addr _, .error _ => inferInstanceAs (Decidable (addr ≠ Regs.faultCtrl))
  | .write _ _, .ok _ | .readPair _, .ok _ | .readPair _, .error _ | .reset, _
  | .postResetDelay, _ | .mark _, _ => isTrue trivial

section
variable {G : Type} (A : (o : BusOp) → BusEffect.Resp o → Prop)
  (g : Option Byte → G → (o : BusOp) → BusEffect.Resp o → G)

/-- The bus with `FAULT_CTRL` as a memory. -/
def faultBus : Machine BusEffect where
  State := FaultWatch G
  allow m o r := FaultAnswers m.fault o r ∧ A o r
  require _ _ := True
  next m o r := { fault := nextFault m.fault o r, history := g m.fault m.history o r }

instance [hA : ∀ o r, Decidable (A o r)] (m : FaultWatch G) (t : List (Event BusEffect)) :
    Decidable ((faultBus A g).Allowed m t) :=
  @Machine.decidableAllowed _ (faultBus A g)
    (fun m o r => @instDecidableAnd _ _ (decidableFaultAnswers (FaultWatch.fault m) o r) (hA o r))
    m t

variable {A g}

/-- A read of the register succeeds on every such bus. -/
theorem opSure_read_fault : OpSure (faultBus A g) (.read Regs.faultCtrl) := by
  rintro m r ⟨hr, -⟩
  cases r with
  | ok value => exact ⟨value, rfl⟩
  | error err => exact absurd rfl hr

/-- So does a write. -/
theorem opSure_write_fault (value : Byte) :
    OpSure (faultBus A g) (.write Regs.faultCtrl value) := by
  rintro m r ⟨hr, -⟩
  cases r with
  | ok _ => rfl
  | error err => exact absurd rfl hr

/-- What was written is what a read shows. -/
theorem readsBack_fault : ReadsBack (faultBus A g) Regs.faultCtrl := by
  rintro m value readBack - ⟨hread, -⟩
  rcases hread rfl with hnone | hsome
  · cases hnone
  · exact (Option.some.inj hsome).symm

/-- An operation that does not touch the register leaves what is known of it. -/
theorem nextFault_of_ne {fault : Option Byte} {o : BusOp} (hread : o ≠ .read Regs.faultCtrl)
    (hwrite : ∀ addr value, o = .write addr value → addr ≠ Regs.faultCtrl ∧ addr ≠ Regs.bcOp2)
    (r : BusEffect.Resp o) : nextFault fault o r = fault := by
  cases o with
  | read addr =>
      have haddr : addr ≠ Regs.faultCtrl := fun heq => hread (heq ▸ rfl)
      cases r with
      | ok value => exact if_neg haddr
      | error err => rfl
  | write addr value =>
      -- neither the register itself nor a soft reset
      obtain ⟨haddr, hop⟩ := hwrite addr value rfl
      cases r with
      | error err => rfl
      | ok _ =>
          simp only [nextFault, isSoftReset_of_ne hop, if_neg haddr, Bool.false_eq_true, if_false]
  | reset => cases r <;> rfl
  | readPair addr => cases r <;> rfl
  | postResetDelay => rfl
  | mark mk => rfl

variable [LoopFuel]

/-- A read-modify-write of the register: it succeeds, and the history sees one write, of the
merge into what the register held. -/
theorem update_fault_wp (hg : ∀ fault h value, g fault h (.read Regs.faultCtrl) (.ok value) = h)
    {R : Pump → FaultWatch G → Prop}
    (hframe : ∀ (p p' : Pump) m, p.Transfers p' → R p m → R p' m) {mask value : Byte}
    {field : String} {p : Pump} {m : FaultWatch G}
    (hR : ∀ p' current, p.Transfers p' → m.fault = none ∨ m.fault = some current →
      R p' { fault := some (mergeBits current mask value)
             history := g (some current) m.history
               (.write Regs.faultCtrl (mergeBits current mask value)) (.ok ()) }) :
    (update Regs.faultCtrl mask value field).wp (faultBus A g)
      (fun outcome p' m' => outcome = .ok () ∧ R p' m') p m := by
  have hread := read_wp_sure (M := faultBus A g) opSure_read_fault (p := p) (m := m)
    (R := fun current p' m' => p.Transfers p' ∧ (m.fault = none ∨ m.fault = some current) ∧
      m' = { fault := some current, history := m.history }) trivial ?_
  · refine (Proc.wp_bind _ _ _ _ _).2 (Proc.wp_mono hread ?_)
    rintro outcome p' m' ⟨current, rfl, htransfers, hcurrent, rfl⟩
    -- what the write has brought about, and that the register is known
    let S : Pump → FaultWatch G → Prop := fun p m => R p m ∧ ∃ v, m.fault = some v
    have hkeeps : OpKeeps (faultBus A g) S (.read Regs.faultCtrl) := by
      rintro p ⟨fault, history⟩ ⟨hR, v, hv⟩
      refine ⟨trivial, fun r hr => ?_⟩
      obtain rfl : fault = some v := hv
      cases r with
      | error err => exact absurd rfl hr.1
      | ok seen =>
          have hseen : v = seen := by
            rcases hr.1 rfl with hnone | hsome
            · cases hnone
            · exact Option.some.inj hsome
          subst hseen
          refine ⟨?_, v, rfl⟩
          change R p ⟨some v, g (some v) history (.read Regs.faultCtrl) (.ok v)⟩
          rw [hg]
          exact hR
    have hwrite : (writeVerified Regs.faultCtrl (mergeBits current mask value) field).wp
        (faultBus A g) (fun outcome p' m' => S p' m' ∧ outcome = .ok ()) p'
        { fault := some current, history := m.history } := writeVerified_wp_sure
      (fun p p' m ht h => ⟨hframe p p' m ht h.1, h.2⟩) opSure_read_fault
      (opSure_write_fault (mergeBits current mask value)) readsBack_fault hkeeps trivial
      fun _ => ⟨hR p' current htransfers hcurrent, _, rfl⟩
    exact Proc.wp_mono hwrite fun _ _ _ h => ⟨h.2, h.1.1⟩
  · rintro value ⟨hanswer, -⟩
    refine ⟨⟨rfl, rfl, rfl, rfl, Or.inl rfl⟩, hanswer rfl, ?_⟩
    show FaultWatch.mk (some value) (g m.fault m.history (.read Regs.faultCtrl) (.ok value)) = _
    rw [hg]

end

end Ln8000
