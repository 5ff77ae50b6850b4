import NabuCharger.Kmdf.Adapter
import NabuCharger.Logic.Returns

/-!
# `Proofs.BusCorrection`: the bus corrections on an adapter that follows

The band of a cell is 200 mV wide, and so is one step. A correction stops at the centre of the
band, so its last step can leave the band on the far side, by less than 100 mV.

For a single batch that is a fault: the comments promise that a boost never passes the top and
a trim never the floor. `batches_stay_iff` says exactly for which voltages they do.

The closed loop converges all the same (`nudge_converges`). A batch that crossed the band ends
within 100 mV of it, and from there the next batch is one step, which ends inside. `callsLeft`
counts the calls that are still needed, and every call outside the band lowers it
(`callsLeft_nudgedUv`).
-/

set_option autoImplicit false

namespace Kmdf

open Effectful Ln8000

/-! ### The band -/

/-- The cell voltages for which the band is not pinned at either end. -/
structure CellInRange (cellVbatUv : Nat) : Prop where
  low : 2900000 ≤ cellVbatUv
  high : cellVbatUv ≤ 4650000

/-- Target of a correction, as the signed word the code compares with. -/
def bandTargetUv (cellVbatUv : Nat) : Int := asI32 (targetVbusUv cellVbatUv)

/-- `Vin` is inside the band. -/
def InBand (cellVbatUv : Nat) (vin : Int) : Prop :=
  hvdcpWindowFloorUv cellVbatUv ≤ vin ∧ vin ≤ trimTargetUv cellVbatUv

namespace CellInRange

variable {cellVbatUv : Nat} (h : CellInRange cellVbatUv)
include h

/-- The floor of the band, without saturation. -/
theorem floor_eq : hvdcpWindowFloorUv cellVbatUv = 2 * cellVbatUv + 200000 := by
  have hlow := h.low
  have hhigh := h.high
  have hfloor : windowFloorUv cellVbatUv = 2 * cellVbatUv + 200000 := windowFloorUv_eq (by omega)
  rw [hvdcpWindowFloorUv, if_neg (by omega), hfloor, if_neg, asI32_of_lt (by omega)]
  · simp
  · simp only [pumpVinTargetAbsMinUv]
    omega

/-- Its target, without saturation. -/
theorem target_eq : bandTargetUv cellVbatUv = 2 * cellVbatUv + 300000 := by
  have hlow := h.low
  have hhigh := h.high
  have htarget : windowTargetUv cellVbatUv = 2 * cellVbatUv + 300000 :=
    windowTargetUv_eq (by omega)
  have hword : targetVbusUv cellVbatUv = 2 * cellVbatUv + 300000 := by
    have hne : ¬ cellVbatUv = 0 := by omega
    have hmin : ¬ 2 * cellVbatUv + 300000 < 6000000 := by omega
    have hceil : ¬ 2 * cellVbatUv + 300000 > 9600000 := by omega
    simp only [targetVbusUv, htarget, pumpVinTargetAbsMinUv, pumpVinTargetCeilUv]
    rw [if_neg hne, if_neg hmin, if_neg hceil]
  rw [bandTargetUv, hword, asI32_of_lt (by omega)]
  simp

/-- Its top, without saturation. -/
theorem top_eq : trimTargetUv cellVbatUv = 2 * cellVbatUv + 400000 := by
  have hlow := h.low
  have hhigh := h.high
  have htop : windowTopUv cellVbatUv = 2 * cellVbatUv + 400000 := windowTopUv_eq (by omega)
  rw [trimTargetUv, if_neg (by omega), htop, if_neg, asI32_of_lt (by omega)]
  · simp
  · simp only [pumpVinTrimUv]
    omega

end CellInRange

/-! ### One batch -/

section
variable {bus : Bus} {usbinId : Option Nat} {cellVbatUv : Nat} {vin : Int} {s : HvdcpState}

/-- Where a boost leaves the bus. -/
def boostedUv (cellVbatUv : Nat) (vin : Int) : Int :=
  vin + qc3StepUv * stepsTo maxBoostInc (bandTargetUv cellVbatUv - vin)

/-- Where a trim leaves the bus. -/
def trimmedUv (cellVbatUv : Nat) (vin : Int) : Int :=
  vin - qc3StepUv * stepsTo maxTrimDec (vin - bandTargetUv cellVbatUv)

/-- A correction upwards leaves the bus at `boostedUv`. -/
theorem boostVinForPump_adapter (hopen : bus = .usbin → usbinId.isSome = true)
    (hcell : CellInRange cellVbatUv) (hvin : -2147483648 ≤ vin)
    (hlatch : s.force9vLatched = false) :
    (boostVinForPump usbinId vin cellVbatUv).wp (idealAdapter bus)
      (fun result s' m' => (∃ n, result = .ok n) ∧ s'.force9vLatched = false ∧
        m' = boostedUv cellVbatUv vin) s vin := by
  have htarget := hcell.target_eq
  have hhigh := hcell.high
  show (if bandTargetUv cellVbatUv ≤ vin then pure 0 else _ : HvdcpM Nat).wp _ _ _ _
  -- at or above the target nothing is sent, below it the loop steps up
  refine Proc.wp_ite (fun hreached => ?_) fun hbelow => ?_
  · have hnone : stepsTo maxBoostInc (bandTargetUv cellVbatUv - vin) = 0 :=
      stepsTo_of_nonpos (by omega)
    refine (Proc.wp_pure _ s _ 0).2 ⟨⟨0, rfl⟩, hlatch, ?_⟩
    rw [boostedUv, hnone]
    simp
  · refine onFirstBus_adapter hopen fun s' hs' => ?_
    have htop : bandTargetUv cellVbatUv ≤ trimTargetUv cellVbatUv := by
      rw [htarget, hcell.top_eq]
      omega
    refine Proc.wp_mono (boostLoop_adapter bus htop (by omega) maxBoostInc vin 0 s' vin hvin
      (hs'.trans hlatch)) ?_
    rintro result s'' m' ⟨hresult, hlatch', hmoved⟩
    exact ⟨⟨_, hresult⟩, hlatch', hmoved⟩

/-- A correction downwards leaves the bus at `trimmedUv`. -/
theorem trimVinForPump_adapter (hopen : bus = .usbin → usbinId.isSome = true)
    (hcell : CellInRange cellVbatUv) (hvin : vin ≤ 2147483647)
    (hlatch : s.force9vLatched = false) :
    (trimVinForPump usbinId vin cellVbatUv).wp (idealAdapter bus)
      (fun result s' m' => (∃ n, result = .ok n) ∧ s'.force9vLatched = false ∧
        m' = trimmedUv cellVbatUv vin) s vin := by
  have htarget := hcell.target_eq
  have hhigh := hcell.high
  show (if vin ≤ bandTargetUv cellVbatUv then pure 0 else _ : HvdcpM Nat).wp _ _ _ _
  -- at or below the target nothing is sent, above it the loop steps down
  refine Proc.wp_ite (fun hreached => ?_) fun habove => ?_
  · have hnone : stepsTo maxTrimDec (vin - bandTargetUv cellVbatUv) = 0 :=
      stepsTo_of_nonpos (by omega)
    refine (Proc.wp_pure _ s _ 0).2 ⟨⟨0, rfl⟩, hlatch, ?_⟩
    rw [trimmedUv, hnone]
    simp
  · refine onFirstBus_adapter hopen fun s' hs' => ?_
    have hfloor : hvdcpWindowFloorUv cellVbatUv ≤ bandTargetUv cellVbatUv := by
      rw [htarget, hcell.floor_eq]
      omega
    refine Proc.wp_mono (trimLoop_adapter bus hfloor (by omega) maxTrimDec vin 0 s' vin hvin
      (hs'.trans hlatch)) ?_
    rintro result s'' m' ⟨hresult, hlatch', hmoved⟩
    exact ⟨⟨_, hresult⟩, hlatch', hmoved⟩

/-! ### A batch and the far side of the band -/

/-- The last step of a boost from `vin` is within the budget and ends more than half a band
above the centre. -/
def BoostPasses (cellVbatUv : Nat) (vin : Int) : Prop :=
  vin < bandTargetUv cellVbatUv ∧
    bandTargetUv cellVbatUv - vin ≤ qc3StepUv * maxBoostInc ∧
    100000 < (vin - bandTargetUv cellVbatUv) % qc3StepUv

/-- The last step of a trim from `vin` is within the budget and ends more than half a band
below the centre. -/
def TrimPasses (cellVbatUv : Nat) (vin : Int) : Prop :=
  bandTargetUv cellVbatUv < vin ∧
    vin - bandTargetUv cellVbatUv ≤ qc3StepUv * maxTrimDec ∧
    100000 < (bandTargetUv cellVbatUv - vin) % qc3StepUv

/-- The boost stays in the band unless its last step passes the top. -/
theorem boostedUv_le_top_iff (hcell : CellInRange cellVbatUv)
    (hvin : vin ≤ trimTargetUv cellVbatUv) :
    boostedUv cellVbatUv vin ≤ trimTargetUv cellVbatUv ↔ ¬ BoostPasses cellVbatUv vin := by
  rw [BoostPasses, boostedUv, hcell.top_eq]
  rw [hcell.top_eq] at hvin
  have htarget := hcell.target_eq
  generalize bandTargetUv cellVbatUv = target at *
  simp only [stepsTo, qc3StepUv, maxBoostInc]
  omega

/-- The trim stays in the band unless its last step passes the floor. -/
theorem floor_le_trimmedUv_iff (hcell : CellInRange cellVbatUv)
    (hvin : hvdcpWindowFloorUv cellVbatUv ≤ vin) :
    hvdcpWindowFloorUv cellVbatUv ≤ trimmedUv cellVbatUv vin ↔ ¬ TrimPasses cellVbatUv vin := by
  rw [TrimPasses, trimmedUv, hcell.floor_eq]
  rw [hcell.floor_eq] at hvin
  have htarget := hcell.target_eq
  generalize bandTargetUv cellVbatUv = target at *
  simp only [stepsTo, qc3StepUv, maxTrimDec]
  omega

/-- An executable adapter that follows: reads of the PMIC return zero. -/
def adapterAnswer (bus : Bus) (vin : Int) : (o : HvdcpOp) → HvdcpEffect.Resp o × Int
  | .readVin => (vin, vin)
  | .spmi (.sleep ms) => ((), vin + SpmiOp.moveUv (.sleep ms))
  | .spmi .superuserOpen => (decide (bus = .superuser), vin + SpmiOp.moveUv .superuserOpen)
  | .spmi (.superuserGrant peri) => (true, vin + SpmiOp.moveUv (.superuserGrant peri))
  | .spmi (.superuserRead addr) => (some 0, vin + SpmiOp.moveUv (.superuserRead addr))
  | .spmi (.superuserWrite addr value) => (true, vin + SpmiOp.moveUv (.superuserWrite addr value))
  | .spmi (.usbinOpen id) => (true, vin + SpmiOp.moveUv (.usbinOpen id))
  | .spmi (.usbinTransact addr value endian) =>
      (some 0, vin + SpmiOp.moveUv (.usbinTransact addr value endian))

/-- It is one of the adapters that `idealAdapter` describes. -/
theorem adapterAnswer_allowed (bus : Bus) (vin : Int) (m : (idealAdapter bus).State)
    (o : HvdcpOp) (h : vin = m) :
    (idealAdapter bus).allow m o (adapterAnswer bus vin o).1 ∧
      (adapterAnswer bus vin o).2 = (idealAdapter bus).next m o (adapterAnswer bus vin o).1 := by
  subst h
  cases o with
  | readVin => exact ⟨rfl, rfl⟩
  | spmi o =>
      cases o with
      | sleep ms => exact ⟨trivial, rfl⟩
      | superuserOpen => exact ⟨rfl, rfl⟩
      | superuserGrant peri => exact ⟨trivial, rfl⟩
      | superuserRead addr => exact ⟨trivial, rfl⟩
      | superuserWrite addr value => exact ⟨rfl, rfl⟩
      | usbinOpen id => exact ⟨rfl, rfl⟩
      | usbinTransact addr value endian =>
          cases value with
          | none => exact ⟨trivial, rfl⟩
          | some value => exact ⟨rfl, rfl⟩

/-- A batch of the program `x` from `vin` leaves the bus where `stays` holds. -/
def BatchLeaves (bus : Bus) (x : HvdcpM Nat) (s : HvdcpState) (vin : Int) (stays : Int → Prop) :
    Prop :=
  ∀ t out, Prog.Yields (x s) t out → (idealAdapter bus).Allowed vin t →
    stays ((idealAdapter bus).after vin t)

/-- What is known of the end of a batch decides it, as a batch does end. -/
theorem batchLeaves_iff {x : HvdcpM Nat} {stays : Int → Prop} {ends : Int}
    (hwp : x.wp (idealAdapter bus) (fun _ _ m' => m' = ends) s vin) (hreturns : Proc.Returns x) :
    BatchLeaves bus x s vin stays ↔ stays ends := by
  constructor
  · intro h
    obtain ⟨t, out, hyields, hallow⟩ :=
      (hreturns.run s).exists_yields (adapterAnswer_allowed bus) (rfl : vin = vin)
    have hend := Prog.Yields.post hyields hwp.prog hallow
    rw [← hend]
    exact h t out hyields hallow
  · intro h t out hyields hallow
    have hend := Prog.Yields.post hyields hwp.prog hallow
    rw [hend]
    exact h

/-- A read returns. -/
theorem readReg_returns (b : Bus) (addr : PmicAddr) : Proc.Returns (readReg b addr) := by
  cases b with
  | superuser =>
      refine (Proc.Returns.perform (E := HvdcpEffect) _).bind fun (answer : Option Byte) => ?_
      cases answer with
      | some read => exact Proc.Returns.pure read
      | none => exact Proc.Returns.fail _
  | usbin =>
      refine Proc.Returns.get.bind fun st => ?_
      refine (Proc.Returns.perform (E := HvdcpEffect) _).bind fun (answer : Option Byte) => ?_
      cases answer with
      | some read => exact Proc.Returns.pure read
      | none => exact Proc.Returns.fail _

/-- A write returns. -/
theorem writeReg_returns (b : Bus) (addr : PmicAddr) (value : Byte) :
    Proc.Returns (writeReg b addr value) := by
  cases b with
  | superuser =>
      refine (Proc.Returns.perform (E := HvdcpEffect) _).bind fun (ok : Bool) => ?_
      exact Proc.Returns.ite (Proc.Returns.pure ()) (Proc.Returns.fail _)
  | usbin =>
      refine Proc.Returns.get.bind fun st => Proc.Returns.bind ?_ fun _ => Proc.Returns.pure ()
      refine (Proc.Returns.perform (E := HvdcpEffect) _).bind fun (answer : Option Byte) => ?_
      cases answer with
      | some read => exact Proc.Returns.pure read
      | none => exact Proc.Returns.fail _

/-- A step returns. -/
theorem pulseCmdBit_returns (b : Bus) (stepBit : Byte) :
    Proc.Returns (pulseCmdBit b stepBit) := by
  refine Proc.Returns.get.bind fun st => Proc.Returns.ite (Proc.Returns.pure false) ?_
  refine ((readReg_returns b _).unwrapOr 0).bind fun current => ?_
  exact (writeReg_returns b _ _).bind fun _ => Proc.Returns.pure true

/-- A step up returns. -/
theorem pulseInc_returns (b : Bus) : Proc.Returns (pulseInc b) := by
  refine (pulseCmdBit_returns b _).bind fun sent => Proc.Returns.bind ?_ fun _ => ?_
  · exact Proc.Returns.when sent (Proc.Returns.modify _)
  · exact Proc.Returns.perform (E := HvdcpEffect) _

/-- A step down returns. -/
theorem pulseDec_returns (b : Bus) : Proc.Returns (pulseDec b) := by
  refine (pulseCmdBit_returns b _).bind fun sent => Proc.Returns.bind ?_ fun _ => ?_
  · exact Proc.Returns.when sent (Proc.Returns.modify _)
  · exact Proc.Returns.perform (E := HvdcpEffect) _

/-- The loop upwards returns. The induction is on its budget. -/
theorem boostLoop_returns (b : Bus) (stop top : Int) (budget : Nat) :
    ∀ vin inc, Proc.Returns (boostLoop b stop top budget vin inc) := by
  induction budget with
  | zero => exact fun vin inc => Proc.Returns.pure inc
  | succ budget ih =>
      intro vin inc
      refine Proc.Returns.ite ?_ (Proc.Returns.pure inc)
      refine (pulseInc_returns b).attempt.bind fun result => ?_
      cases result with
      | error _ => exact Proc.Returns.pure inc
      | ok _ => exact Proc.Returns.ite (Proc.Returns.pure _) (ih _ _)

/-- The loop downwards returns. The induction is on its budget. -/
theorem trimLoop_returns (b : Bus) (stop floor : Int) (budget : Nat) :
    ∀ vin dec, Proc.Returns (trimLoop b stop floor budget vin dec) := by
  induction budget with
  | zero => exact fun vin dec => Proc.Returns.pure dec
  | succ budget ih =>
      intro vin dec
      refine Proc.Returns.ite ?_ (Proc.Returns.pure dec)
      refine (pulseDec_returns b).attempt.bind fun result => ?_
      cases result with
      | error _ => exact Proc.Returns.pure dec
      | ok _ => exact ih _ _

/-- What runs on the first bus returns if its body does. -/
theorem onFirstBus_returns {α : Type} (usbinId : Option Nat) {body : Bus → HvdcpM α}
    (fallback : α) (hbody : ∀ b, Proc.Returns (body b)) :
    Proc.Returns (onFirstBus usbinId body fallback) := by
  refine (Proc.Returns.perform (E := HvdcpEffect) _).bind fun (ok : Bool) => ?_
  refine Proc.Returns.ite ((Proc.Returns.modify _).bind fun _ => hbody _) ?_
  cases usbinId with
  | none => exact Proc.Returns.pure fallback
  | some id =>
      refine (Proc.Returns.perform (E := HvdcpEffect) _).bind fun (ok : Bool) => ?_
      exact Proc.Returns.ite (hbody _) (Proc.Returns.pure fallback)

/-- A correction upwards returns. -/
theorem boostVinForPump_returns (usbinId : Option Nat) (vin : Int) (cellVbatUv : Nat) :
    Proc.Returns (boostVinForPump usbinId vin cellVbatUv) :=
  Proc.Returns.ite (Proc.Returns.pure 0)
    (onFirstBus_returns usbinId 0 fun b => boostLoop_returns b _ _ _ _ _)

/-- A correction downwards returns. -/
theorem trimVinForPump_returns (usbinId : Option Nat) (vin : Int) (cellVbatUv : Nat) :
    Proc.Returns (trimVinForPump usbinId vin cellVbatUv) :=
  Proc.Returns.ite (Proc.Returns.pure 0)
    (onFirstBus_returns usbinId 0 fun b => trimLoop_returns b _ _ _ _ _)

/-- A boost from below the top does not leave the bus above it, and a trim from above the floor
does not leave it below. -/
structure BatchesStay (bus : Bus) (usbinId : Option Nat) (cellVbatUv : Nat) (s : HvdcpState)
    (vin : Int) : Prop where
  boost : vin ≤ trimTargetUv cellVbatUv →
    BatchLeaves bus (boostVinForPump usbinId vin cellVbatUv) s vin (· ≤ trimTargetUv cellVbatUv)
  trim : hvdcpWindowFloorUv cellVbatUv ≤ vin →
    BatchLeaves bus (trimVinForPump usbinId vin cellVbatUv) s vin
      (hvdcpWindowFloorUv cellVbatUv ≤ ·)

/-- A batch stays on its side of the band exactly if its last step does not end in the far half
of the next one. -/
theorem batches_stay_iff (hopen : bus = .usbin → usbinId.isSome = true)
    (hcell : CellInRange cellVbatUv) (hlow : -2147483648 ≤ vin) (hhigh : vin ≤ 2147483647)
    (hlatch : s.force9vLatched = false) :
    BatchesStay bus usbinId cellVbatUv s vin ↔
      ¬ BoostPasses cellVbatUv vin ∧ ¬ TrimPasses cellVbatUv vin := by
  have hboost : BatchLeaves bus (boostVinForPump usbinId vin cellVbatUv) s vin
      (· ≤ trimTargetUv cellVbatUv) ↔ boostedUv cellVbatUv vin ≤ trimTargetUv cellVbatUv :=
    batchLeaves_iff (Proc.wp_mono (boostVinForPump_adapter hopen hcell hlow hlatch)
      fun _ _ _ h => h.2.2) (boostVinForPump_returns usbinId vin cellVbatUv)
  have htrim : BatchLeaves bus (trimVinForPump usbinId vin cellVbatUv) s vin
      (hvdcpWindowFloorUv cellVbatUv ≤ ·) ↔
        hvdcpWindowFloorUv cellVbatUv ≤ trimmedUv cellVbatUv vin :=
    batchLeaves_iff (Proc.wp_mono (trimVinForPump_adapter hopen hcell hhigh hlatch)
      fun _ _ _ h => h.2.2) (trimVinForPump_returns usbinId vin cellVbatUv)
  have htarget := hcell.target_eq
  have htop := hcell.top_eq
  have hfloor := hcell.floor_eq
  constructor
  · intro hstay
    constructor
    · -- a boost that passes the top started below the centre
      intro hpasses
      have hbelow : vin ≤ trimTargetUv cellVbatUv := by
        have hlt := hpasses.1
        omega
      exact (boostedUv_le_top_iff hcell hbelow).1 (hboost.1 (hstay.boost hbelow)) hpasses
    · intro hpasses
      have habove : hvdcpWindowFloorUv cellVbatUv ≤ vin := by
        have hlt := hpasses.1
        omega
      exact (floor_le_trimmedUv_iff hcell habove).1 (htrim.1 (hstay.trim habove)) hpasses
  · rintro ⟨hnoboost, hnotrim⟩
    exact
      { boost := fun hbelow => hboost.2 ((boostedUv_le_top_iff hcell hbelow).2 hnoboost)
        trim := fun habove => htrim.2 ((floor_le_trimmedUv_iff hcell habove).2 hnotrim) }

/-- From 7.9 V a boost for a cell of 3.9 V ends on the centre of its band. -/
theorem batches_stay_iff_centre : BatchesStay .superuser none 3900000 HvdcpState.new 7900000 :=
  (batches_stay_iff (by simp) ⟨by decide, by decide⟩ (by decide) (by decide) rfl).2
    ⟨by unfold BoostPasses; decide, by unfold TrimPasses; decide⟩

/-- From 7.85 V it passes the top by 50 mV. -/
theorem not_batches_stay : ¬ BatchesStay .superuser none 3900000 HvdcpState.new 7850000 := by
  intro hstay
  have hboost := hstay.boost (by decide)
  have hwp := @boostVinForPump_adapter .superuser none 3900000 7850000 HvdcpState.new (by simp)
    ⟨by decide, by decide⟩ (by decide) rfl
  have hend := (batchLeaves_iff (Proc.wp_mono hwp fun _ _ _ h => h.2.2)
    (boostVinForPump_returns none 7850000 3900000)).1 hboost
  exact absurd hend (by decide)

/-! ### The closed loop -/

/-- Where one correction leaves the bus. -/
def nudgedUv (cellVbatUv : Nat) (vin : Int) : Int :=
  if vin > trimTargetUv cellVbatUv then trimmedUv cellVbatUv vin
  else if vin < hvdcpWindowFloorUv cellVbatUv then boostedUv cellVbatUv vin
  else vin

/-- One round of the loop: a sample of `Vin`, and the correction it asks for. -/
def nudgeOnce (usbinId : Option Nat) (cellVbatUv : Nat) : HvdcpM Nat := do
  let vin ← readVin
  nudgeVinIntoWindow usbinId vin cellVbatUv false

/-- The voltages of a bus that is there, as far as the code can hold them. -/
def Live (vin : Int) : Prop := 0 < vin ∧ vin ≤ 2147483647

/-- A correction leaves the bus at `nudgedUv`. -/
theorem nudgeVinIntoWindow_adapter (hopen : bus = .usbin → usbinId.isSome = true)
    (hcell : CellInRange cellVbatUv) (hvin : Live vin) (hlatch : s.force9vLatched = false) :
    (nudgeVinIntoWindow usbinId vin cellVbatUv false).wp (idealAdapter bus)
      (fun _ s' m' => s'.force9vLatched = false ∧ m' = nudgedUv cellVbatUv vin) s vin := by
  have hlow := hcell.low
  have hfloor := hcell.floor_eq
  have htarget := hcell.target_eq
  have hne : ¬ (vin ≤ 0 ∨ cellVbatUv = 0) := by
    have hpos := hvin.1
    omega
  rw [nudgeVinIntoWindow, Proc.wp_get_bind, if_neg hne, hlatch, if_neg (by simp), nudgedUv]
  refine Proc.wp_ite (fun habove => ?_) fun hbelow => ?_
  · rw [if_pos habove]
    exact Proc.wp_mono (trimVinForPump_adapter hopen hcell hvin.2 hlatch) fun _ _ _ h => h.2
  · rw [if_neg hbelow]
    show (if vin < bandTargetUv cellVbatUv ∧ (false = true ∨ vin < hvdcpWindowFloorUv cellVbatUv)
      then _ else _ : HvdcpM Nat).wp _ _ _ _
    refine Proc.wp_ite (fun hlow => ?_) fun hhigh => ?_
    · have hunder : vin < hvdcpWindowFloorUv cellVbatUv := hlow.2.resolve_left (by simp)
      rw [if_pos hunder]
      have hmin : -2147483648 ≤ vin := by
        have hpos := hvin.1
        omega
      exact Proc.wp_mono (boostVinForPump_adapter hopen hcell hmin hlatch) fun _ _ _ h => h.2
    · -- below the floor means below the centre
      have hinside : ¬ vin < hvdcpWindowFloorUv cellVbatUv := by
        intro hunder
        exact hhigh ⟨by omega, Or.inr hunder⟩
      rw [if_neg (by simp), if_neg hinside]
      exact (Proc.wp_pure _ s _ 0).2 ⟨hlatch, rfl⟩

/-- So does a call, which samples the bus first. -/
theorem nudgeOnce_adapter (hopen : bus = .usbin → usbinId.isSome = true)
    (hcell : CellInRange cellVbatUv) (hvin : Live vin) (hlatch : s.force9vLatched = false) :
    (nudgeOnce usbinId cellVbatUv).wp (idealAdapter bus)
      (fun _ s' m' => s'.force9vLatched = false ∧ m' = nudgedUv cellVbatUv vin) s vin := by
  refine (Proc.wp_perform_bind (M := idealAdapter bus) s vin HvdcpOp.readVin _ _).2 ⟨trivial, ?_⟩
  intro sample hsample
  have hsample : sample = vin := hsample
  subst hsample
  exact nudgeVinIntoWindow_adapter hopen hcell hvin hlatch

/-- The calls that are still needed: none inside the band, one within half a band of it, and
beside that one for every full batch and two for the rest. -/
def callsLeft (cellVbatUv : Nat) (vin : Int) : Nat :=
  if hvdcpWindowFloorUv cellVbatUv ≤ vin ∧ vin ≤ trimTargetUv cellVbatUv then 0
  else if hvdcpWindowFloorUv cellVbatUv - 100000 < vin ∧ vin < trimTargetUv cellVbatUv + 100000 then
    1
  else if vin > trimTargetUv cellVbatUv then
    2 + ((vin - trimTargetUv cellVbatUv) / (qc3StepUv * maxTrimDec)).toNat
  else 2 + ((hvdcpWindowFloorUv cellVbatUv - vin) / (qc3StepUv * maxBoostInc)).toNat

/-- In the band no call is left, and only there. -/
theorem inBand_iff_callsLeft : InBand cellVbatUv vin ↔ callsLeft cellVbatUv vin = 0 := by
  rw [InBand, callsLeft]
  split
  · next hin => simp [hin]
  · next hout =>
      simp only [hout, false_iff]
      split
      · simp
      · split <;> omega

/-- A trim ends at the centre, less than one step below it, unless its budget ran out. -/
theorem trimmedUv_cases (h : bandTargetUv cellVbatUv < vin) :
    (trimmedUv cellVbatUv vin = vin - 4000000 ∧
        bandTargetUv cellVbatUv < trimmedUv cellVbatUv vin) ∨
      (bandTargetUv cellVbatUv - 200000 < trimmedUv cellVbatUv vin ∧
        trimmedUv cellVbatUv vin ≤ bandTargetUv cellVbatUv) := by
  rw [trimmedUv]
  generalize bandTargetUv cellVbatUv = target at *
  simp only [stepsTo, qc3StepUv, maxTrimDec]
  omega

/-- A boost ends at the centre, less than one step above it, unless its budget ran out. -/
theorem boostedUv_cases (h : vin < bandTargetUv cellVbatUv) :
    (boostedUv cellVbatUv vin = vin + 4600000 ∧
        boostedUv cellVbatUv vin < bandTargetUv cellVbatUv) ∨
      (bandTargetUv cellVbatUv ≤ boostedUv cellVbatUv vin ∧
        boostedUv cellVbatUv vin < bandTargetUv cellVbatUv + 200000) := by
  rw [boostedUv]
  generalize bandTargetUv cellVbatUv = target at *
  simp only [stepsTo, qc3StepUv, maxBoostInc]
  omega

/-- Within half a band of the band, one step ends inside. -/
theorem nudgedUv_of_near (hcell : CellInRange cellVbatUv)
    (hlow : hvdcpWindowFloorUv cellVbatUv - 100000 < vin)
    (hhigh : vin < trimTargetUv cellVbatUv + 100000) :
    InBand cellVbatUv (nudgedUv cellVbatUv vin) := by
  have hfloor := hcell.floor_eq
  have htarget := hcell.target_eq
  have htop := hcell.top_eq
  rw [InBand, nudgedUv]
  split
  · next habove =>
      -- one step down reaches the band
      have hone : trimmedUv cellVbatUv vin = vin - 200000 := by
        simp only [trimmedUv, stepsTo, qc3StepUv, maxTrimDec]
        omega
      omega
  · split
    · next hbelow =>
        -- one step up reaches the band
        have hone : boostedUv cellVbatUv vin = vin + 200000 := by
          simp only [boostedUv, stepsTo, qc3StepUv, maxBoostInc]
          omega
        omega
    · omega

/-- Near the band one call is left at most. -/
theorem callsLeft_of_near (hlow : hvdcpWindowFloorUv cellVbatUv - 100000 < vin)
    (hhigh : vin < trimTargetUv cellVbatUv + 100000) : callsLeft cellVbatUv vin ≤ 1 := by
  rw [callsLeft]
  split
  · omega
  · rw [if_pos ⟨hlow, hhigh⟩]

/-- Far above it, every call takes twenty steps off the way. -/
theorem callsLeft_of_above (hcell : CellInRange cellVbatUv)
    (h : trimTargetUv cellVbatUv + 100000 ≤ vin) :
    callsLeft cellVbatUv vin = 2 + ((vin - trimTargetUv cellVbatUv) / 4000000).toNat := by
  have hfloor := hcell.floor_eq
  have htop := hcell.top_eq
  rw [callsLeft, if_neg (by omega), if_neg (by omega), if_pos (by omega)]
  rfl

/-- Far below it, every call takes twenty-three steps off the way. -/
theorem callsLeft_of_below (hcell : CellInRange cellVbatUv)
    (h : vin ≤ hvdcpWindowFloorUv cellVbatUv - 100000) :
    callsLeft cellVbatUv vin = 2 + ((hvdcpWindowFloorUv cellVbatUv - vin) / 4600000).toNat := by
  have hfloor := hcell.floor_eq
  have htop := hcell.top_eq
  rw [callsLeft, if_neg (by omega), if_neg (by omega), if_neg (by omega)]
  rfl

/-- Every call outside the band needs one call less afterwards. -/
theorem callsLeft_nudgedUv (hcell : CellInRange cellVbatUv) :
    callsLeft cellVbatUv (nudgedUv cellVbatUv vin) ≤ callsLeft cellVbatUv vin - 1 := by
  have hfloor := hcell.floor_eq
  have htarget := hcell.target_eq
  have htop := hcell.top_eq
  rcases Int.lt_or_le (hvdcpWindowFloorUv cellVbatUv - 100000) vin with hlow | hbelow
  · rcases Int.lt_or_le vin (trimTargetUv cellVbatUv + 100000) with hhigh | habove
    · have hin := inBand_iff_callsLeft.1 (nudgedUv_of_near hcell hlow hhigh)
      omega
    · have hends := trimmedUv_cases (show bandTargetUv cellVbatUv < vin by omega)
      rw [callsLeft_of_above hcell habove, nudgedUv, if_pos (by omega)]
      generalize trimmedUv cellVbatUv vin = ends at *
      -- either the batch has come near the band, or it was a full one
      rcases Int.lt_or_le ends (trimTargetUv cellVbatUv + 100000) with hnear | hfar
      · have hone := @callsLeft_of_near cellVbatUv ends (by omega) hnear
        omega
      · rw [callsLeft_of_above hcell hfar]
        omega
  · have hends := boostedUv_cases (show vin < bandTargetUv cellVbatUv by omega)
    rw [callsLeft_of_below hcell hbelow, nudgedUv, if_neg (by omega), if_pos (by omega)]
    generalize boostedUv cellVbatUv vin = ends at *
    rcases Int.lt_or_le (hvdcpWindowFloorUv cellVbatUv - 100000) ends with hnear | hfar
    · have hone := @callsLeft_of_near cellVbatUv ends hnear (by omega)
      omega
    · rw [callsLeft_of_below hcell hfar]
      omega

/-- A call leaves a bus that is there. -/
theorem live_nudgedUv (hcell : CellInRange cellVbatUv) (hvin : Live vin) :
    Live (nudgedUv cellVbatUv vin) := by
  have hlow := hcell.low
  have hhigh := hcell.high
  have hfloor := hcell.floor_eq
  have htarget := hcell.target_eq
  have htop := hcell.top_eq
  obtain ⟨hpos, hmax⟩ := hvin
  rw [Live, nudgedUv]
  split
  · -- the trim ends between the target and where it started
    have hends := trimmedUv_cases (show bandTargetUv cellVbatUv < vin by omega)
    omega
  · split
    · have hends := boostedUv_cases (show vin < bandTargetUv cellVbatUv by omega)
      omega
    · exact ⟨hpos, hmax⟩

/-- A run of `log.length` calls has that many calls less to go. The induction is on the run. -/
theorem callsLeft_run (hopen : bus = .usbin → usbinId.isSome = true)
    (hcell : CellInRange cellVbatUv) {log : List (Entry HvdcpEffect HvdcpState Unit)}
    {s s' : HvdcpState} (h : Run (fun _ : Unit => nudgeOnce usbinId cellVbatUv) s log s') :
    ∀ vin : Int, Live vin → s.force9vLatched = false →
      (idealAdapter bus).Allowed vin (exchanges log) →
      Live ((idealAdapter bus).after vin (exchanges log)) ∧ s'.force9vLatched = false ∧
        callsLeft cellVbatUv ((idealAdapter bus).after vin (exchanges log)) ≤
          callsLeft cellVbatUv vin - log.length := by
  -- induction on the run: each call moves the bus as `nudgedUv` does, which leaves one call less
  induction h with
  | done s => exact fun vin hvin hlatch _ => ⟨hvin, hlatch, Nat.le_refl _⟩
  | step hstep _ ih =>
      intro vin hvin hlatch hallow
      rw [exchanges, List.flatMap_cons] at hallow ⊢
      obtain ⟨hfirst, hrest⟩ := (Machine.allowed_append _).1 hallow
      obtain ⟨hlatch', hmoved⟩ :=
        Prog.Yields.post hstep (nudgeOnce_adapter hopen hcell hvin hlatch).prog hfirst
      rw [Machine.after_append]
      rw [hmoved] at hrest ⊢
      have hcalls := @callsLeft_nudgedUv cellVbatUv vin hcell
      obtain ⟨hlive, hend, hleft⟩ := ih _ (live_nudgedUv hcell hvin) hlatch' hrest
      refine ⟨hlive, hend, ?_⟩
      rw [List.length_cons]
      exact le_trans hleft (by omega)

/-- The operation writes no register. -/
def HvdcpOp.Reads : HvdcpOp → Prop
  | .spmi o => o.write? = none
  | .readVin => True

/-- Inside the band there is nothing to correct, latched or not. -/
theorem nudgeVinIntoWindow_inBand (hcell : CellInRange cellVbatUv) (hband : InBand cellVbatUv vin)
    (s : HvdcpState) :
    nudgeVinIntoWindow usbinId vin cellVbatUv false s = .ret (.ok 0, s) := by
  have hlow := hcell.low
  have hfloor := hcell.floor_eq
  obtain ⟨habove, hbelow⟩ := hband
  -- in the band the bus is live, so the first guard is passed
  have hne : ¬ (vin ≤ 0 ∨ cellVbatUv = 0) := by omega
  show (if vin ≤ 0 ∨ cellVbatUv = 0 then pure 0 else _ : HvdcpM Nat) s = _
  rw [if_neg hne]
  cases hlatch : s.force9vLatched with
  | true => rw [if_pos rfl]; rfl
  | false =>
      rw [if_neg (by simp), if_neg (by omega), if_neg, if_neg (by simp)]
      · rfl
      · rintro ⟨_, hdead | hunder⟩
        · cases hdead
        · omega

/-- Inside the band a call only samples the bus. -/
theorem nudgeOnce_inBand (hcell : CellInRange cellVbatUv) (hband : InBand cellVbatUv vin)
    {t : List (Event HvdcpEffect)} {q : Prog HvdcpEffect (Except HvdcpError Nat × HvdcpState)}
    (h : Prog.Steps (nudgeOnce usbinId cellVbatUv s) t q)
    (hallow : (idealAdapter bus).Allowed vin t) : ∀ e ∈ t, e.op.Reads := by
  cases h with
  | refl => exact fun e he => nomatch he
  | @op _ _ sample t _ hrest =>
      -- the sample is the voltage the adapter has
      have hsample : sample = vin := hallow.1
      have hrest : Prog.Steps (nudgeVinIntoWindow usbinId sample cellVbatUv false s) t q := hrest
      rw [hsample, nudgeVinIntoWindow_inBand hcell hband s] at hrest
      cases hrest
      intro e he
      rw [List.mem_singleton] at he
      subst he
      trivial

/-- Every call returns. -/
theorem nudgeOnce_returns (usbinId : Option Nat) (cellVbatUv : Nat) :
    Proc.Returns (nudgeOnce usbinId cellVbatUv) := by
  refine (Proc.Returns.perform (E := HvdcpEffect) HvdcpOp.readVin).bind fun (vin : Int) => ?_
  refine Proc.Returns.get.bind fun st => Proc.Returns.ite (Proc.Returns.pure 0) ?_
  refine Proc.Returns.ite (Proc.Returns.pure 0) ?_
  refine Proc.Returns.ite (trimVinForPump_returns usbinId vin cellVbatUv) ?_
  refine Proc.Returns.ite (boostVinForPump_returns usbinId vin cellVbatUv) ?_
  refine Proc.Returns.ite (onFirstBus_returns usbinId 0 fun b => ?_) (Proc.Returns.pure 0)
  refine (pulseDec_returns b).attempt.bind fun result => ?_
  cases result with
  | ok _ => exact Proc.Returns.pure 1
  | error _ => exact Proc.Returns.pure 0

/-- On an adapter that follows, the calls make a run of any length. -/
theorem exists_nudges (bus : Bus) (usbinId : Option Nat) (cellVbatUv : Nat) (s : HvdcpState)
    (vin : Int) (k : Nat) :
    ∃ log s', Run (fun _ : Unit => nudgeOnce usbinId cellVbatUv) s log s' ∧
      (idealAdapter bus).Allowed vin (exchanges log) ∧ log.length = k := by
  obtain ⟨⟨s', hrun⟩, hops⟩ := Run.of_returns (fun _ : Unit => nudgeOnce_returns usbinId cellVbatUv)
    (adapterAnswer bus) (List.replicate k ()) vin s
  have hallow := Session.allowed_execute (adapterAnswer_allowed bus)
    (fun _ : Unit => nudgeOnce usbinId cellVbatUv) (List.replicate k ()) vin s vin rfl
  refine ⟨_, s', hrun, hallow, ?_⟩
  have hlength := congrArg List.length hops
  rwa [List.length_map, List.length_replicate] at hlength

/-- Every call returns, so there are runs of as many calls as one likes. From every bus that is
there, `callsLeft` of them lead into the band, whatever the adapter answers to a read, and every
later call leaves the bus alone. -/
theorem nudge_converges (hopen : bus = .usbin → usbinId.isSome = true)
    (hcell : CellInRange cellVbatUv) (hvin : Live vin) (hlatch : s.force9vLatched = false) :
    Proc.Returns (nudgeOnce usbinId cellVbatUv) ∧
      (∀ k, ∃ log s', Run (fun _ : Unit => nudgeOnce usbinId cellVbatUv) s log s' ∧
        (idealAdapter bus).Allowed vin (exchanges log) ∧ log.length = k) ∧
      ∀ log s', Run (fun _ : Unit => nudgeOnce usbinId cellVbatUv) s log s' →
        (idealAdapter bus).Allowed vin (exchanges log) → callsLeft cellVbatUv vin ≤ log.length →
          InBand cellVbatUv ((idealAdapter bus).after vin (exchanges log)) ∧
            ∀ t q, Prog.Steps (nudgeOnce usbinId cellVbatUv s') t q →
              (idealAdapter bus).Allowed ((idealAdapter bus).after vin (exchanges log)) t →
              ∀ e ∈ t, e.op.Reads := by
  refine ⟨nudgeOnce_returns usbinId cellVbatUv, exists_nudges bus usbinId cellVbatUv s vin, ?_⟩
  intro log s' hrun hallow henough
  -- every call lowers the number left, and none is left
  have hleft := (callsLeft_run hopen hcell hrun vin hvin hlatch hallow).2.2
  have hband : InBand cellVbatUv ((idealAdapter bus).after vin (exchanges log)) := by
    rw [inBand_iff_callsLeft]
    omega
  exact ⟨hband, fun t q hsteps hstep => nudgeOnce_inBand hcell hband hsteps hstep⟩

instance : ∀ o : HvdcpOp, Decidable o.Reads
  | .spmi o => inferInstanceAs (Decidable (o.write? = none))
  | .readVin => isTrue trivial

/-- Three calls at 7.85 V, with a cell at 3.9 V. -/
def crossingLog : List (Entry HvdcpEffect HvdcpState Unit) :=
  Session.execute (adapterAnswer .superuser) (fun _ => nudgeOnce none 3900000) 7850000
    HvdcpState.new [(), (), ()]

/-- The first call boosts the bus past the top, the second trims it into the band, and the third
sends nothing. -/
theorem nudge_converges_crossing :
    (∃ s', Run (fun _ : Unit => nudgeOnce none 3900000) HvdcpState.new crossingLog s') ∧
      (crossingLog.map fun entry => entry.trace.countP fun e => ¬HvdcpOp.Reads e.op) = [2, 1, 0] ∧
      InBand 3900000 ((idealAdapter .superuser).after (7850000 : Int) (exchanges crossingLog)) := by
  obtain ⟨⟨s', hrun⟩, hops⟩ := Run.of_returns (fun _ : Unit => nudgeOnce_returns none 3900000)
    (adapterAnswer .superuser) [(), (), ()] 7850000 HvdcpState.new
  have hallow := Session.allowed_execute (adapterAnswer_allowed .superuser)
    (fun _ : Unit => nudgeOnce none 3900000) [(), (), ()] 7850000 HvdcpState.new 7850000 rfl
  have hconverges := @nudge_converges .superuser none 3900000 7850000 HvdcpState.new (by simp)
    ⟨by decide, by decide⟩ ⟨by decide, by decide⟩ rfl
  exact ⟨⟨s', hrun⟩, by decide +kernel,
    (hconverges.2.2 crossingLog s' hrun hallow (by decide +kernel)).1⟩

/-- One boost of sixteen steps ends on the top of the band. -/
example : nudgedUv 3900000 5000000 = 8200000 ∧ trimTargetUv 3900000 = 8200000 := by decide

end

end Kmdf
