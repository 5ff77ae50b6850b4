import NabuCharger.Ln8000.Reliable

/-!
# `Ln8000.RegisterCell`: one register as a memory

What the driver wrote to a register last stands there until it writes again or resets the chip.
`cellBus reg` is the bus on which this one register works: its transfers succeed, and a read
returns what was written last. Nothing is assumed of the other transfers.

A monitor may watch more than the register. `CellView` says where it keeps the cell, and
`CellView.update_wp` is what a read-modify-write does to it: it succeeds, and the merge stands in
the register.
-/

set_option autoImplicit false

namespace Ln8000

open Effectful

/-- What is known of the register after an operation. A reset counts once it is issued. -/
def nextCell (reg : RegAddr) (known : Option Byte) : BusOp → Option Byte
  | .write addr value =>
      if isSoftReset addr value then none else if addr = reg then some value else known
  | _ => known

/-- Transfers of the register succeed, and a read returns what is known of it. -/
def CellAnswers (reg : RegAddr) (known : Option Byte) :
    (o : BusOp) → BusEffect.Resp o → Prop
  | .read addr, .ok value => addr = reg → ∀ v, known = some v → value = v
  | .read addr, .error _ | .write addr _, .error _ => addr ≠ reg
  | _, _ => True

/-- The bus with the register `reg` as a memory. -/
def cellBus (reg : RegAddr) : Machine BusEffect where
  State := Option Byte
  allow := CellAnswers reg
  require _ _ := True
  next known o _ := nextCell reg known o

instance decidableCellAnswers (reg : RegAddr) : ∀ (known : Option Byte) (o : BusOp)
    (r : BusEffect.Resp o), Decidable (CellAnswers reg known o r)
  | none, .read _, .ok _ => isTrue fun _ _ h => by cases h
  | some v, .read addr, .ok value =>
      decidable_of_iff (addr = reg → value = v)
        ⟨fun h haddr _ hv => Option.some.inj hv ▸ h haddr, fun h haddr => h haddr v rfl⟩
  | _, .read addr, .error _ => inferInstanceAs (Decidable (addr ≠ reg))
  | _, .write addr _, .error _ => inferInstanceAs (Decidable (addr ≠ reg))
  | _, .write _ _, .ok _ | _, .readPair _, _ | _, .reset, _ | _, .postResetDelay, _
  | _, .mark _, _ => isTrue trivial

/-- The operation neither writes the register nor resets the chip. -/
def BusOp.spares (reg : RegAddr) : BusOp → Bool
  | .write addr value => addr != reg && !isSoftReset addr value
  | _ => true

/-- An operation that spares the register leaves what is known of it. -/
theorem nextCell_of_spares {reg : RegAddr} {o : BusOp} (h : o.spares reg = true)
    (known : Option Byte) : nextCell reg known o = known := by
  cases o with
  | write addr value =>
      rw [BusOp.spares, Bool.and_eq_true, bne_iff_ne, Bool.not_eq_true'] at h
      simp only [nextCell, h.2, if_neg h.1, Bool.false_eq_true, if_false]
  | read addr => rfl
  | readPair addr => rfl
  | reset => rfl
  | postResetDelay => rfl
  | mark mk => rfl

/-- The monitor assumes such a bus, and `cell` is what it knows of the register. -/
structure CellView (M : Machine BusEffect) (reg : RegAddr) (cell : M.State → Option Byte) :
    Prop where
  ne_bcOp2 : reg ≠ Regs.bcOp2
  answers : ∀ m o r, M.allow m o r → CellAnswers reg (cell m) o r
  next : ∀ m o r, cell (M.next m o r) = nextCell reg (cell m) o
  /-- A read is free, and tells the monitor nothing. -/
  require_read : ∀ m, M.require m (.read reg)
  next_read : ∀ m r, M.next m (.read reg) r = m

namespace CellView

variable {M : Machine BusEffect} {reg : RegAddr} {cell : M.State → Option Byte}
  (c : CellView M reg cell)

include c

/-- A read of the register succeeds. -/
theorem opSure_read : OpSure M (.read reg) := by
  intro m r hr
  cases r with
  | ok value => exact ⟨value, rfl⟩
  | error err => exact absurd rfl (c.answers m _ _ hr)

/-- A write of the register succeeds. -/
theorem opSure_write (value : Byte) : OpSure M (.write reg value) := by
  intro m r hr
  cases r with
  | ok _ => rfl
  | error err => exact absurd rfl (c.answers m _ _ hr)

/-- After a write the value is known. -/
theorem cell_write (m : M.State) (value : Byte) (r : BusEffect.Resp (.write reg value)) :
    cell (M.next m (.write reg value) r) = some value := by
  refine (c.next m (.write reg value) r).trans ?_
  rw [nextCell, isSoftReset_of_ne c.ne_bcOp2, if_neg Bool.false_ne_true, if_pos rfl]

/-- What was written is what a read shows. -/
theorem readsBack : ReadsBack M reg := by
  intro m value readBack _ hread
  exact c.answers _ _ _ hread rfl value (c.cell_write m value _)

/-- What a read returns, if the register is known. -/
theorem eq_of_read {m : M.State} {v value : Byte} (hcell : cell m = some v)
    (hread : M.allow m (.read reg) (.ok value)) : value = v :=
  c.answers _ _ _ hread rfl v hcell

/-- A read changes nothing that the monitor keeps. -/
theorem opKeeps_read {R : Pump → M.State → Prop} : OpKeeps M R (.read reg) := by
  intro p m h
  refine ⟨c.require_read m, fun r _ => ?_⟩
  rw [c.next_read]
  exact h

variable [LoopFuel]

/-- A read succeeds and moves nothing. -/
theorem read_wp {R : Byte → Pump → M.State → Prop} {p : Pump} {m : M.State}
    (hR : ∀ value, M.allow m (.read reg) (.ok value) →
      R value { p with reads := satAdd 32 p.reads 1 } m) :
    (read reg).wp M (fun outcome p' m' => ∃ value, outcome = .ok value ∧ R value p' m') p m := by
  refine read_wp_sure c.opSure_read (c.require_read m) fun value hvalue => ?_
  have hsame := c.next_read m (.ok value)
  exact Eq.mpr (congrArg (R value _) hsame) (hR value hvalue)

/-- A read-modify-write succeeds, and the merge with what was read stands in the register. -/
theorem update_wp {R : Pump → M.State → Prop}
    (hframe : ∀ (p p' : Pump) m, p.Transfers p' → R p m → R p' m) {mask value : Byte}
    {field : String} {p : Pump} {m : M.State}
    (hreq : ∀ current, M.require m (.write reg (mergeBits current mask value)))
    (hR : ∀ current, R p (M.next m (.write reg (mergeBits current mask value)) (.ok ()))) :
    (update reg mask value field).wp M (fun outcome p' m' => outcome = .ok () ∧ R p' m') p m := by
  have hread := c.read_wp (p := p) (m := m)
    (R := fun _ p' m' => p.Transfers p' ∧ m' = m) fun _ _ => ⟨⟨rfl, rfl, rfl, rfl, Or.inl rfl⟩, rfl⟩
  refine (Proc.wp_bind _ _ _ _ _).2 (Proc.wp_mono hread ?_)
  rintro outcome p' m' ⟨current, rfl, htransfers, rfl⟩
  refine Proc.wp_mono (writeVerified_wp_sure hframe c.opSure_read
    (c.opSure_write (mergeBits current mask value)) c.readsBack c.opKeeps_read (hreq current)
    fun _ => hframe p p' _ htransfers (hR current)) ?_
  exact fun _ _ _ h => ⟨h.2, h.1⟩

end CellView

/-- A setpoint the encoder takes is written, and the profile names it. -/
theorem CellView.setIinLimit_wp [LoopFuel] {M : Machine BusEffect}
    {cell : M.State → Option Byte} (c : CellView M Regs.iinCtrl cell) {iinUa : Nat} {code : Byte}
    (hcode : encodeIinLimit iinUa = .ok code) {R : Pump → M.State → Prop}
    (hframe : ∀ (p p' : Pump) m, p.Transfers p' → R p m → R p' m) {p : Pump} {m : M.State}
    (hreq : ∀ current, M.require m (.write Regs.iinCtrl (mergeBits current 0x7F code)))
    (hR : ∀ current,
      R p (M.next m (.write Regs.iinCtrl (mergeBits current 0x7F code)) (.ok ()))) :
    (setIinLimit iinUa).wp M
      (fun outcome p' m' => outcome = .ok code ∧
        ∃ p₁, R p₁ m' ∧ p' = { p₁ with config := { p₁.config with iinLimitUa := iinUa } }) p m := by
  unfold setIinLimit writeIinLimit
  rw [Proc.wp_bind, Proc.wp_bind, Proc.wp_ofExcept, hcode, Proc.thenWp_ok, Proc.wp_bind]
  -- the code is good, so the write is reached
  refine Proc.wp_mono (c.update_wp hframe hreq hR) ?_
  rintro _ p₁ m₁ ⟨rfl, h⟩
  rw [Proc.thenWp_ok, Proc.wp_pure, Proc.thenWp_ok, Proc.wp_modify_bind, Proc.wp_pure]
  exact ⟨rfl, p₁, h, rfl⟩

/-- A setpoint the encoder does not take changes nothing. -/
theorem setIinLimit_wp_error [LoopFuel] {M : Machine BusEffect} {iinUa : Nat} {err : PumpError}
    (hcode : encodeIinLimit iinUa = .error err)
    {Q : Except PumpError Byte → Pump → M.State → Prop} {p : Pump} {m : M.State}
    (hQ : Q (.error err) p m) : (setIinLimit iinUa).wp M Q p m := by
  unfold setIinLimit writeIinLimit
  rw [Proc.wp_bind, Proc.wp_bind, Proc.wp_ofExcept, hcode, Proc.thenWp_error, Proc.thenWp_error]
  exact hQ

/-- What the setpoint register shows after such a write. -/
theorem decode_mergeBits {iinUa : Nat} {code : Byte} (hcode : encodeIinLimit iinUa = .ok code)
    (current : Byte) : decodeIinLimit (mergeBits current 0x7F code) = iinOnGrid iinUa :=
  decode_encodeIinLimit hcode (mergeBits_and_self current 0x7F code)

end Ln8000
