import NabuCharger.Kmdf.Hvdcp
import NabuCharger.Logic.Returns

/-!
# `Kmdf.Adapter`: what the steps of `CMD_HVDCP_2` do to an adapter

Every step of the Quick Charge machine is a write of one register, on one of two transports.
`SpmiOp.write?` is the write an operation makes, and `stepUv` what it asks of the bus.

`idealAdapter` is an adapter that follows: each step moves `Vin` by 200 mV, the transport opens,
writes succeed, and the samples of the caller are exact. What a read of the PMIC returns is left
open. The pulses of the machine move it by one step each (`pulseInc_adapter`,
`pulseDec_adapter`), and a batch by the number of steps to its target, as far as the budget goes
(`boostLoop_adapter`, `trimLoop_adapter`).
-/

set_option autoImplicit false

namespace Kmdf

open Effectful Ln8000

/-! ### Steps -/

/-- The bits of `CMD_HVDCP_2` that send a step. -/
def Pmic.stepBits : Byte := bitSingleInc ||| bitSingleDec

/-- The register write an operation makes. -/
def SpmiOp.write? : SpmiOp → Option (PmicAddr × Byte)
  | .superuserWrite addr value => some (addr, value)
  | .usbinTransact addr (some value) _ => some (addr, value)
  | _ => none

/-- What a byte in the step register asks of the bus. -/
def stepUv (value : Byte) : Int :=
  if value &&& Pmic.stepBits = Pmic.bitSingleInc then qc3StepUv
  else if value &&& Pmic.stepBits = Pmic.bitSingleDec then -qc3StepUv
  else 0

/-- What a register write asks of the bus. -/
def writeUv (addr : PmicAddr) (value : Byte) : Int :=
  if addr = Pmic.cmdHvdcp2 then stepUv value else 0

/-- What an operation asks of the bus. -/
def SpmiOp.moveUv (o : SpmiOp) : Int :=
  match o.write? with
  | some (addr, value) => writeUv addr value
  | none => 0

/-- The byte that `pulse_cmd_bit` writes for a step. -/
def stepByte (current stepBit : Byte) : Byte :=
  (current &&& ~~~(Pmic.bitSingleInc ||| Pmic.bitSingleDec)) ||| stepBit

/-- The step bit goes out alone, whatever else stands in the register. -/
theorem stepByte_and_stepBits {stepBit : Byte} (current : Byte)
    (h : stepBit &&& Pmic.stepBits = stepBit) :
    stepByte current stepBit &&& Pmic.stepBits = stepBit := by
  have hmerge := mergeBits_and_self current Pmic.stepBits stepBit
  rw [mergeBits, h] at hmerge
  exact hmerge

/-- The other bits of the command register do not count as steps. -/
theorem stepUv_stepByte {stepBit : Byte} (current : Byte)
    (h : stepBit &&& Pmic.stepBits = stepBit) :
    stepUv (stepByte current stepBit) = stepUv stepBit := by
  rw [stepUv, stepByte_and_stepBits current h, stepUv, h]

/-! ### The adapter -/

/-- What a working PMIC bus answers when `bus` is its first transport to open. -/
def SpmiOp.Served (bus : Bus) : (o : SpmiOp) → o.Resp → Prop
  | .superuserOpen, ok => ok = decide (bus = .superuser)
  | .usbinOpen _, ok => ok = true
  | .superuserWrite _ _, ok => ok = true
  | .usbinTransact _ (some _) _, read => read.isSome = true
  | _, _ => True

/-- An adapter at `Vin` that follows every step, behind a working PMIC bus. -/
abbrev idealAdapter (bus : Bus) : Machine HvdcpEffect where
  State := Int
  allow vin
    | .spmi o => o.Served bus
    | .readVin => fun sample => sample = vin
  require _ _ := True
  next vin
    | .spmi o => fun _ => vin + o.moveUv
    | .readVin => fun _ => vin

section
variable {bus : Bus} {s : HvdcpState}

/-- An operation of the bus moves the adapter by what it sends. -/
theorem spmi_adapter {ε : Type} {o : SpmiOp} {m : (idealAdapter bus).State}
    {Q : Except ε o.Resp → HvdcpState → (idealAdapter bus).State → Prop}
    (h : ∀ r, o.Served bus r → Q (.ok r) s (m + o.moveUv)) :
    (spmi o).wp (idealAdapter bus) Q s m :=
  (Proc.wp_perform s m (E := HvdcpEffect) (HvdcpOp.spmi o) Q).2 ⟨trivial, h⟩

/-- The same in front of a sequence. -/
theorem spmi_bind_adapter {ε α : Type} {o : SpmiOp} {m : (idealAdapter bus).State}
    {f : o.Resp → Proc HvdcpEffect ε HvdcpState α}
    {Q : Except ε α → HvdcpState → (idealAdapter bus).State → Prop}
    (h : ∀ r, o.Served bus r → (f r).wp (idealAdapter bus) Q s (m + o.moveUv)) :
    (spmi o >>= f).wp (idealAdapter bus) Q s m := by
  refine (Proc.wp_bind s m (spmi o) f Q).2 (spmi_adapter fun r hr => ?_)
  exact h r hr

/-- An operation that writes nothing leaves the bus alone. -/
theorem add_moveUv_of_none {o : SpmiOp} (ho : o.write? = none) (m : Int) : m + o.moveUv = m := by
  rw [SpmiOp.moveUv, ho]
  exact Int.add_zero m

/-- A read leaves the bus alone, whatever it returns. -/
theorem readReg_adapter {m : (idealAdapter bus).State}
    {Q : Except HvdcpError Byte → HvdcpState → (idealAdapter bus).State → Prop} (b : Bus)
    (addr : PmicAddr) (h : ∀ result, Q result s m) :
    (readReg b addr).wp (idealAdapter bus) Q s m := by
  -- either path may fail, and a read moves no voltage
  cases b with
  | superuser =>
      refine spmi_bind_adapter (o := .superuserRead addr) fun answer _ => ?_
      rw [add_moveUv_of_none rfl]
      cases answer with
      | some read => exact (Proc.wp_pure _ s m read).2 (h _)
      | none => exact (Proc.wp_fail _ s m _).2 (h _)
  | usbin =>
      rw [readReg, Proc.wp_get_bind]
      refine spmi_bind_adapter (o := .usbinTransact addr none s.bigEndian) fun answer _ => ?_
      rw [add_moveUv_of_none rfl]
      cases answer with
      | some read => exact (Proc.wp_pure _ s m read).2 (h _)
      | none => exact (Proc.wp_fail _ s m _).2 (h _)

/-- A write succeeds and moves the bus by what it asks for. -/
theorem writeReg_adapter {m : (idealAdapter bus).State}
    {Q : Except HvdcpError Unit → HvdcpState → (idealAdapter bus).State → Prop} (b : Bus)
    (addr : PmicAddr) (value : Byte) (h : Q (.ok ()) s (m + writeUv addr value)) :
    (writeReg b addr value).wp (idealAdapter bus) Q s m := by
  cases b with
  -- on this adapter a write is always delivered, on both paths
  | superuser =>
      refine spmi_bind_adapter (o := .superuserWrite addr value) fun (ok : Bool) hok => ?_
      have hok : ok = true := hok
      subst hok
      exact (Proc.wp_pure _ s _ ()).2 h
  | usbin =>
      rw [writeReg, Proc.wp_get_bind, Proc.wp_bind]
      refine spmi_bind_adapter (o := .usbinTransact addr (some value) s.bigEndian)
        fun answer hsome => ?_
      obtain ⟨read, rfl⟩ := Option.isSome_iff_exists.1 hsome
      refine (Proc.wp_pure _ s _ read).2 ?_
      rw [Proc.thenWp_ok]
      exact (Proc.wp_pure _ s _ ()).2 h

/-- A pulse without a latch is one step. -/
theorem pulseCmdBit_adapter {m : (idealAdapter bus).State}
    {Q : Except HvdcpError Bool → HvdcpState → (idealAdapter bus).State → Prop} (b : Bus)
    {stepBit : Byte} (hbit : stepBit &&& Pmic.stepBits = stepBit)
    (hlatch : s.force9vLatched = false) (h : Q (.ok true) s (m + stepUv stepBit)) :
    (pulseCmdBit b stepBit).wp (idealAdapter bus) Q s m := by
  rw [pulseCmdBit, Proc.wp_get_bind, hlatch, if_neg (by simp), Proc.wp_unwrapOr_bind]
  refine readReg_adapter b _ fun result => ?_
  rw [Proc.wp_bind]
  refine writeReg_adapter b _ _ ?_
  rw [Proc.thenWp_ok, Proc.wp_pure, writeUv, if_pos rfl]
  show Q (.ok true) s (m + stepUv (stepByte _ stepBit))
  rw [stepUv_stepByte _ hbit]
  exact h

/-- A pause does not move it. -/
theorem sleepMs_adapter {ε : Type} {m : (idealAdapter bus).State}
    {Q : Except ε Unit → HvdcpState → (idealAdapter bus).State → Prop} (ms : Nat)
    (h : Q (.ok ()) s m) : (sleepMs ms).wp (idealAdapter bus) Q s m := by
  refine spmi_adapter (o := .sleep ms) fun _ _ => ?_
  rw [add_moveUv_of_none rfl]
  exact h

/-- One INC raises the bus by a step, unless 9 V are latched. -/
theorem pulseInc_adapter {m : (idealAdapter bus).State}
    {Q : Except HvdcpError Unit → HvdcpState → (idealAdapter bus).State → Prop} (b : Bus)
    (hlatch : s.force9vLatched = false)
    (h : ∀ s', s'.force9vLatched = false → Q (.ok ()) s' (m + qc3StepUv)) :
    (pulseInc b).wp (idealAdapter bus) Q s m := by
  have hstep : stepUv Pmic.bitSingleInc = qc3StepUv := by decide
  rw [pulseInc, pulseIncGap, Proc.wp_bind]
  refine pulseCmdBit_adapter b (by decide) hlatch ?_
  rw [hstep, Proc.thenWp_ok, Proc.when, if_pos rfl, Proc.wp_modify_bind]
  exact sleepMs_adapter _ (h _ hlatch)

/-- One DEC lowers the bus by a step, unless 9 V are latched. -/
theorem pulseDec_adapter {m : (idealAdapter bus).State}
    {Q : Except HvdcpError Unit → HvdcpState → (idealAdapter bus).State → Prop} (b : Bus)
    (hlatch : s.force9vLatched = false)
    (h : ∀ s', s'.force9vLatched = false → Q (.ok ()) s' (m - qc3StepUv)) :
    (pulseDec b).wp (idealAdapter bus) Q s m := by
  have hstep : stepUv Pmic.bitSingleDec = -qc3StepUv := by decide
  rw [pulseDec, pulseDecGap, Proc.wp_bind]
  refine pulseCmdBit_adapter b (by decide) hlatch ?_
  rw [hstep, Proc.thenWp_ok, Proc.when, if_pos rfl, Proc.wp_modify_bind]
  exact sleepMs_adapter _ (h _ hlatch)

/-! ### Batches -/

/-- The steps that cover a distance, as far as the budget goes. -/
def stepsTo (budget : Nat) (gap : Int) : Nat :=
  min budget ((gap.toNat + (qc3StepUv - 1)) / qc3StepUv)

/-- A covered distance needs no step, and an open one needs one more than what one step leaves. -/
theorem stepsTo_succ {budget : Nat} {gap : Int} (h : 0 < gap) :
    stepsTo (budget + 1) gap = stepsTo budget (gap - qc3StepUv) + 1 := by
  simp only [stepsTo, qc3StepUv]
  omega

/-- Without a gap there is no step to make. -/
theorem stepsTo_of_nonpos {budget : Nat} {gap : Int} (h : gap ≤ 0) : stepsTo budget gap = 0 := by
  simp only [stepsTo, qc3StepUv]
  omega

/-- A boost moves the bus up by the steps to its stop. Above the top it stops as well, which
changes nothing as long as the stop is not above the top. The induction is on the budget. -/
theorem boostLoop_adapter (b : Bus) {stop top : Int} (htop : stop ≤ top)
    (hstop : stop ≤ 2147283647) (budget : Nat) :
    ∀ (vin : Int) (inc : Nat) (s : HvdcpState) (m : (idealAdapter bus).State), -2147483648 ≤ vin →
      s.force9vLatched = false →
      (boostLoop b stop top budget vin inc).wp (idealAdapter bus)
        (fun result s' m' => result = .ok (inc + stepsTo budget (stop - vin)) ∧
          s'.force9vLatched = false ∧ m' = m + qc3StepUv * stepsTo budget (stop - vin)) s m := by
  induction budget with
  | zero =>
      intro vin inc s m hvin hlatch
      have hnone : stepsTo 0 (stop - vin) = 0 := by simp [stepsTo]
      rw [boostLoop, Proc.wp_pure, hnone]
      exact ⟨rfl, hlatch, by simp⟩
  | succ budget ih =>
      intro vin inc s m hvin hlatch
      rw [boostLoop]
      refine Proc.wp_ite (fun hbelow => ?_) fun hreached => ?_
      · rw [Proc.wp_attempt_bind]
        refine pulseInc_adapter b hlatch fun s' hlatch' => ?_
        have hone : stepsTo (budget + 1) (stop - vin) =
            stepsTo budget (stop - (vin + qc3StepUv)) + 1 := by
          rw [stepsTo_succ (by omega)]
          congr 2
          omega
        have hsat : satI32 (vin + qc3StepUv) = vin + qc3StepUv := by
          simp only [satI32, qc3StepUv]
          omega
        rw [hone, hsat]
        refine Proc.wp_ite (fun hover => ?_) fun _ => ?_
        · -- past the top: there is nothing left to the stop either
          have hnone : stepsTo budget (stop - (vin + qc3StepUv)) = 0 :=
            stepsTo_of_nonpos (by omega)
          rw [Proc.wp_pure, hnone]
          exact ⟨rfl, hlatch', by simp⟩
        · refine Proc.wp_mono (ih _ (inc + 1) s' _ (by simp only [qc3StepUv]; omega) hlatch') ?_
          rintro result s'' m'' ⟨hresult, hlatch'', hmoved⟩
          refine ⟨?_, hlatch'', ?_⟩
          · rw [hresult]
            congr 1
            omega
          · rw [hmoved]
            simp only [qc3StepUv]
            omega
      · have hnone : stepsTo (budget + 1) (stop - vin) = 0 := stepsTo_of_nonpos (by omega)
        rw [Proc.wp_pure, hnone]
        exact ⟨rfl, hlatch, by simp⟩

/-- A trim moves the bus down by the steps to its stop, which is not below the floor. -/
theorem trimLoop_adapter (b : Bus) {stop floor : Int} (hfloor : floor ≤ stop)
    (hstop : -2147283648 ≤ stop) (budget : Nat) :
    ∀ (vin : Int) (dec : Nat) (s : HvdcpState) (m : (idealAdapter bus).State), vin ≤ 2147483647 →
      s.force9vLatched = false →
      (trimLoop b stop floor budget vin dec).wp (idealAdapter bus)
        (fun result s' m' => result = .ok (dec + stepsTo budget (vin - stop)) ∧
          s'.force9vLatched = false ∧ m' = m - qc3StepUv * stepsTo budget (vin - stop)) s m := by
  -- induction on the budget of pulses: each step down is one the adapter follows
  induction budget with
  | zero =>
      intro vin dec s m hvin hlatch
      have hnone : stepsTo 0 (vin - stop) = 0 := by simp [stepsTo]
      rw [trimLoop, Proc.wp_pure, hnone]
      exact ⟨rfl, hlatch, by simp⟩
  | succ budget ih =>
      intro vin dec s m hvin hlatch
      rw [trimLoop]
      refine Proc.wp_ite (fun habove => ?_) fun hreached => ?_
      · rw [Proc.wp_attempt_bind]
        refine pulseDec_adapter b hlatch fun s' hlatch' => ?_
        have hone : stepsTo (budget + 1) (vin - stop) =
            stepsTo budget (vin - qc3StepUv - stop) + 1 := by
          rw [stepsTo_succ (by omega)]
          congr 2
          omega
        -- the floor keeps the estimate away from the least word, so it does not saturate
        have hsat : satI32 (vin - qc3StepUv) = vin - qc3StepUv := by
          simp only [satI32, qc3StepUv]
          omega
        rw [hone, hsat]
        refine Proc.wp_mono (ih _ (dec + 1) s' _ (by simp only [qc3StepUv]; omega) hlatch') ?_
        rintro result s'' m'' ⟨hresult, hlatch'', hmoved⟩
        refine ⟨?_, hlatch'', ?_⟩
        · rw [hresult]
          congr 1
          omega
        · rw [hmoved]
          simp only [qc3StepUv]
          omega
      · have hnone : stepsTo (budget + 1) (vin - stop) = 0 := stepsTo_of_nonpos (by omega)
        rw [Proc.wp_pure, hnone]
        exact ⟨rfl, hlatch, by simp⟩

/-- The body of a correction runs on the transport that opens. -/
theorem onFirstBus_adapter {α : Type} {usbinId : Option Nat}
    (hopen : bus = .usbin → usbinId.isSome = true) {body : Bus → HvdcpM α} {fallback : α}
    {m : (idealAdapter bus).State}
    {Q : Except HvdcpError α → HvdcpState → (idealAdapter bus).State → Prop}
    (h : ∀ s', s'.force9vLatched = s.force9vLatched →
      (body bus).wp (idealAdapter bus) Q s' m) :
    (onFirstBus usbinId body fallback).wp (idealAdapter bus) Q s m := by
  refine spmi_bind_adapter (o := .superuserOpen) fun (ok : Bool) hok => ?_
  have hok : ok = decide (bus = .superuser) := hok
  rw [add_moveUv_of_none rfl, hok]
  -- the adapter's bench opens one of the two buses, and refuses the other
  cases bus with
  | superuser =>
      refine Proc.wp_ite (fun _ => ?_) fun hne => absurd rfl hne
      rw [Proc.wp_modify_bind]
      exact h _ rfl
  | usbin =>
      obtain ⟨id, rfl⟩ := Option.isSome_iff_exists.1 (hopen rfl)
      refine Proc.wp_ite (fun heq => absurd heq (by simp)) fun _ => ?_
      refine spmi_bind_adapter (o := .usbinOpen id) fun (opened : Bool) hopened => ?_
      have hopened : opened = true := hopened
      rw [add_moveUv_of_none rfl, hopened]
      exact h s rfl

end

end Kmdf
