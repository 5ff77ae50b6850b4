import NabuCharger.Kmdf.HvdcpRules
import NabuCharger.Logic.Session

/-!
# `Proofs.PulseCount`: the pulse counter of the Quick Charge machine

The level of a QC3 bus is not read back. The driver estimates it from `pulse_cnt`, its own
count of the INC and DEC pulses. The watch `PulseLog` counts the pulses that really went out,
from the last return to 5 V or the start of a negotiation, and `Counted` says that while no
`FORCE_9V` latch is up the driver has the same number.

It has so in every run in which no INC goes out past the 23 the counter can hold, none is
followed by a return to 5 V, and no `FORCE_9V` request carries a step (`pulses_counted`).
Without the first two it has not: the counter saturates, and two of the retreats to 5 V leave
it as it was. A plain DCP that answers neither `FORCE_9V` nor the pulses ends with 23 pulses
counted on a bus at 5 V (`not_pulses_counted`).
-/

set_option autoImplicit false

namespace Kmdf

open Effectful Ln8000

/-! ### The operations -/

/-- What moves the bus. -/
inductive PulseOp
  | negotiate (usbinId : Option Nat) (vbatUv : Nat)
  | authenticate (bus : Bus)
  | boost (usbinId : Option Nat) (vinUv : Int) (vbatUv : Nat)
  | trim (usbinId : Option Nat) (vinUv : Int) (vbatUv : Nat)
  | nudge (usbinId : Option Nat) (vinUv : Int) (vbatUv : Nat) (deadCurrent : Bool)
  deriving DecidableEq, Repr

/-- The program of an operation. -/
def PulseOp.run : PulseOp → HvdcpM Unit
  | .negotiate usbinId vbatUv => runNegotiate usbinId vbatUv
  | .authenticate bus => Proc.discard (attemptQc35Authenticate bus)
  | .boost usbinId vinUv vbatUv => Proc.discard (boostVinForPump usbinId vinUv vbatUv)
  | .trim usbinId vinUv vbatUv => Proc.discard (trimVinForPump usbinId vinUv vbatUv)
  | .nudge usbinId vinUv vbatUv deadCurrent =>
      Proc.discard (nudgeVinIntoWindow usbinId vinUv vbatUv deadCurrent)

/-! ### The watch -/

/-- What has gone out to `CMD_HVDCP_2`. -/
structure PulseLog where
  /-- What the last read of the register returned, zero for a failed one. -/
  last : Byte
  /-- INC minus DEC pulses since the last return to 5 V or the start of the negotiation. -/
  diff : Int
  deriving DecidableEq, Repr

namespace PulseLog

/-- Nothing has been read, and no pulse has gone out. -/
def start : PulseLog := { last := 0, diff := 0 }

/-- A byte went out to the register. -/
def sent (m : PulseLog) (value : Byte) : PulseLog :=
  if value = Pmic.bitForce5v then { m with diff := 0 }
  else if value &&& Pmic.stepBits = Pmic.bitSingleInc then { m with diff := m.diff + 1 }
  else if value &&& Pmic.stepBits = Pmic.bitSingleDec then { m with diff := m.diff - 1 }
  else m

/-- A register was written. Only a negotiation clears the latched interrupts, before anything
else. -/
def wrote (m : PulseLog) (addr : PmicAddr) (value : Byte) (ok : Bool) : PulseLog :=
  if addr = Pmic.intLatchedClr then { m with diff := 0 }
  else if addr = Pmic.cmdHvdcp2 ∧ ok = true then m.sent value
  else m

/-- A read of the register is remembered for the write that follows it. -/
def read (m : PulseLog) (addr : PmicAddr) (answer : Option Byte) : PulseLog :=
  if addr = Pmic.cmdHvdcp2 then { m with last := answer.getD 0 } else m

/-- The watch sees the same registers on both paths. -/
def spmi (m : PulseLog) : (o : SpmiOp) → o.Resp → PulseLog
  | .superuserRead addr => m.read addr
  | .superuserWrite addr value => m.wrote addr value
  | .usbinTransact addr none _ => m.read addr
  | .usbinTransact addr (some value) _ => fun answer => m.wrote addr value (Option.isSome answer)
  | _ => fun _ => m

/-- Only the register accesses count, not the samples of the supply. -/
def next (m : PulseLog) : (o : HvdcpOp) → HvdcpEffect.Resp o → PulseLog
  | .spmi o => m.spmi o
  | .readVin => fun _ => m

/-- The difference of the pulses stays non-negative. -/
def NonNegative (m : PulseLog) (value : Byte) : Prop :=
  value &&& Pmic.stepBits = Pmic.bitSingleDec → 0 < m.diff

/-- A byte that leaves the count as the driver has it. -/
structure Admits (m : PulseLog) (value : Byte) : Prop where
  nonNegative : m.NonNegative value
  /-- The counter can hold the pulse. -/
  room : value &&& Pmic.stepBits = Pmic.bitSingleInc → m.diff < maxPulseCnt
  /-- No pulse is on the bus that returns to 5 V. -/
  home : value = Pmic.bitForce5v → m.diff = 0
  /-- A request of 9 V carries no step. -/
  pure9v : value = m.last ||| Pmic.bitForce9v → value &&& Pmic.stepBits = 0

/-- The assumption `A` on the bytes that go out. -/
def allow (A : PulseLog → Byte → Prop) (m : PulseLog) : (o : HvdcpOp) → HvdcpEffect.Resp o → Prop
  | .spmi (.superuserWrite addr value) => fun (ok : Bool) =>
      addr = Pmic.cmdHvdcp2 → ok = true → A m value
  | .spmi (.usbinTransact addr (some value) _) => fun (answer : Option Byte) =>
      addr = Pmic.cmdHvdcp2 → answer.isSome = true → A m value
  | _ => fun _ => True

end PulseLog

/-- The watch over runs whose bytes satisfy `A`. -/
abbrev pulseWatch (A : PulseLog → Byte → Prop) : Machine HvdcpEffect where
  State := PulseLog
  allow := PulseLog.allow A
  require _ _ := True
  next := PulseLog.next

/-- While no latch is up, the driver has counted what went out. -/
def Counted (st : HvdcpState) (m : PulseLog) : Prop :=
  st.force9vLatched = false → (st.pulseCnt : Int) = m.diff

/-! ### Steps -/

/-- An invariant of the latch, the counter and the count. -/
abbrev Counting (R : Bool → Nat → Int → Prop) (st : HvdcpState) (m : PulseLog) : Prop :=
  R st.force9vLatched st.pulseCnt m.diff

/-- The counter is the count, with or without a latch. -/
def Even (_ : Bool) (cnt : Nat) (diff : Int) : Prop := (cnt : Int) = diff

/-- Nothing is counted, and nothing has gone out. -/
def Zeroed (_ : Bool) (cnt : Nat) (diff : Int) : Prop := cnt = 0 ∧ diff = 0

/-- The latch is up, and no pulse has gone out. -/
def Latched (latch : Bool) (_ : Nat) (diff : Int) : Prop := latch = true ∧ diff = 0

section
variable {A : PulseLog → Byte → Prop} {R : Bool → Nat → Int → Prop} {st : HvdcpState}
  {m : (pulseWatch A).State}

/-- A read leaves the count alone. -/
theorem PulseLog.read_diff (m : PulseLog) (addr : PmicAddr) (answer : Option Byte) :
    (m.read addr answer).diff = m.diff := by
  unfold PulseLog.read
  split <;> rfl

/-- A write to neither register leaves the record alone. -/
theorem PulseLog.wrote_of_quiet (m : PulseLog) {addr : PmicAddr} (value : Byte) (ok : Bool)
    (hstep : addr ≠ Pmic.cmdHvdcp2) (hclear : addr ≠ Pmic.intLatchedClr) :
    m.wrote addr value ok = m := by
  rw [PulseLog.wrote, if_neg hclear, if_neg fun h => hstep h.1]

/-- What writes neither register leaves the count alone. -/
theorem PulseLog.spmi_diff (m : PulseLog) {o : SpmiOp} (ho : o.quiet = true) (r : o.Resp) :
    (m.spmi o r).diff = m.diff := by
  cases o with
  | superuserRead addr => exact m.read_diff addr r
  -- a quiet write is no pulse command
  | superuserWrite addr value =>
      simp only [SpmiOp.quiet, SpmiOp.write?, Bool.and_eq_true, decide_eq_true_eq] at ho
      exact congrArg PulseLog.diff (m.wrote_of_quiet value r ho.1 ho.2)
  | usbinTransact addr value bigEndian =>
      cases value with
      | none => exact m.read_diff addr r
      | some value =>
          simp only [SpmiOp.quiet, SpmiOp.write?, Bool.and_eq_true, decide_eq_true_eq] at ho
          exact congrArg PulseLog.diff (m.wrote_of_quiet value _ ho.1 ho.2)
  | sleep ms => rfl
  | superuserOpen => rfl
  | superuserGrant peri => rfl
  | usbinOpen id => rfl

/-- An invariant of latch, counter and count survives everything that writes neither register. -/
theorem counting_rules (R : Bool → Nat → Int → Prop) :
    HvdcpRules (pulseWatch A) (Counting R) := by
  refine HvdcpRules.of ?_ ?_ fun _ _ h => ⟨trivial, fun _ _ => h⟩
  · intro st st' m hlatch hcount h
    show R st'.force9vLatched st'.pulseCnt _
    rw [hlatch, hcount]
    exact h
  · intro o ho st m h
    refine ⟨trivial, fun r _ => ?_⟩
    show R st.force9vLatched st.pulseCnt (PulseLog.spmi m o r).diff
    rw [PulseLog.spmi_diff m ho r]
    exact h

/-- A write succeeds or fails, and the watch sees which. -/
theorem writeReg_wp {Q : Except HvdcpError Unit → HvdcpState → (pulseWatch A).State → Prop}
    (bus : Bus) {addr : PmicAddr} {value : Byte}
    (hok : (addr = Pmic.cmdHvdcp2 → A m value) →
      Q (.ok ()) st (PulseLog.wrote m addr value true))
    (herr : Q (.error .spmiIo) st (PulseLog.wrote m addr value false)) :
    (writeReg bus addr value).wp (pulseWatch A) Q st m := by
  -- both paths write the register; the watch judges the byte when it went through
  cases bus with
  | superuser =>
      refine (Proc.wp_perform_bind (M := pulseWatch A) st m
        (.spmi (.superuserWrite addr value)) _ _).2 ⟨trivial, ?_⟩
      intro (ok : Bool) hallow
      cases ok with
      | true => exact (Proc.wp_pure _ st _ ()).2 (hok fun haddr => hallow haddr rfl)
      | false => exact (Proc.wp_fail _ st _ _).2 herr
  | usbin =>
      rw [writeReg, Proc.wp_get_bind, Proc.wp_bind]
      refine (Proc.wp_perform_bind (M := pulseWatch A) st m
        (.spmi (.usbinTransact addr (some value) st.bigEndian)) _ _).2 ⟨trivial, ?_⟩
      intro (answer : Option Byte) hallow
      cases answer with
      | some read =>
          refine (Proc.wp_pure _ st _ read).2 ((Proc.wp_pure _ st _ ()).2 ?_)
          exact hok fun haddr => hallow haddr rfl
      | none => exact (Proc.wp_fail _ st _ _).2 herr

/-- A write of the step register that succeeds was admitted, and one that fails was not
made. -/
theorem writeStep_wp {Q : Except HvdcpError Unit → HvdcpState → (pulseWatch A).State → Prop}
    (bus : Bus) {value : Byte} (hok : A m value → Q (.ok ()) st (PulseLog.sent m value))
    (herr : Q (.error .spmiIo) st m) :
    (writeReg bus Pmic.cmdHvdcp2 value).wp (pulseWatch A) Q st m := by
  have hsent : PulseLog.wrote m Pmic.cmdHvdcp2 value true = PulseLog.sent m value := by
    rw [PulseLog.wrote, if_neg (by decide), if_pos ⟨rfl, rfl⟩]
  have hkept : PulseLog.wrote m Pmic.cmdHvdcp2 value false = m := by
    rw [PulseLog.wrote, if_neg (by decide), if_neg fun h => Bool.false_ne_true h.2]
  refine writeReg_wp bus (fun hadmits => ?_) ?_
  · rw [hsent]
    exact hok (hadmits rfl)
  · rw [hkept]
    exact herr

/-- A read of the step register is remembered. -/
theorem readStep_wp {Q : Except HvdcpError Byte → HvdcpState → (pulseWatch A).State → Prop}
    (bus : Bus) (h : ∀ read, Q (.ok read) st { m with last := read }) :
    (Proc.unwrapOr (readReg bus Pmic.cmdHvdcp2) 0 : HvdcpM Byte).wp (pulseWatch A) Q st m := by
  -- a failed read counts as zero, and the watch remembers the same
  have hread : ∀ answer : Option Byte,
      PulseLog.read m Pmic.cmdHvdcp2 answer = { m with last := answer.getD 0 } :=
    fun answer => if_pos rfl
  rw [Proc.wp_unwrapOr]
  cases bus with
  | superuser =>
      refine (Proc.wp_perform_bind (M := pulseWatch A) st m
        (.spmi (.superuserRead Pmic.cmdHvdcp2)) _ _).2 ⟨trivial, ?_⟩
      intro (answer : Option Byte) _
      have hnext := hread answer
      cases answer with
      | some read =>
          refine (Proc.wp_pure _ st _ read).2 ?_
          show Q (.ok read) st (PulseLog.read m Pmic.cmdHvdcp2 (some read))
          rw [hnext]
          exact h read
      | none =>
          refine (Proc.wp_fail _ st _ _).2 ?_
          show Q (.ok 0) st (PulseLog.read m Pmic.cmdHvdcp2 none)
          rw [hnext]
          exact h 0
  | usbin =>
      rw [readReg, Proc.wp_get_bind]
      refine (Proc.wp_perform_bind (M := pulseWatch A) st m
        (.spmi (.usbinTransact Pmic.cmdHvdcp2 none st.bigEndian)) _ _).2 ⟨trivial, ?_⟩
      intro (answer : Option Byte) _
      have hnext := hread answer
      cases answer with
      | some read =>
          refine (Proc.wp_pure _ st _ read).2 ?_
          show Q (.ok read) st (PulseLog.read m Pmic.cmdHvdcp2 (some read))
          rw [hnext]
          exact h read
      | none =>
          refine (Proc.wp_fail _ st _ _).2 ?_
          show Q (.ok 0) st (PulseLog.read m Pmic.cmdHvdcp2 none)
          rw [hnext]
          exact h 0

/-- What a byte with one step in it does to the count. -/
theorem PulseLog.sent_step (m : PulseLog) {value stepBit : Byte}
    (hbits : value &&& Pmic.stepBits = stepBit) :
    (stepBit = Pmic.bitSingleInc → (m.sent value).diff = m.diff + 1) ∧
      (stepBit = Pmic.bitSingleDec → (m.sent value).diff = m.diff - 1) := by
  -- the 5 V command sets neither of the step bits alone
  have hinc : Pmic.bitSingleInc ≠ Pmic.bitForce5v &&& Pmic.stepBits := by decide
  have hdec : Pmic.bitSingleDec ≠ Pmic.bitForce5v &&& Pmic.stepBits := by decide
  have hne : Pmic.bitSingleDec ≠ Pmic.bitSingleInc := by decide
  constructor
  · rintro rfl
    have hforce : value ≠ Pmic.bitForce5v := by
      rintro rfl
      exact hinc hbits.symm
    rw [PulseLog.sent, if_neg hforce, if_pos hbits]
  · rintro rfl
    have hforce : value ≠ Pmic.bitForce5v := by
      rintro rfl
      exact hdec hbits.symm
    rw [PulseLog.sent, if_neg hforce, hbits, if_neg hne, if_pos rfl]

/-- A pulse: nothing goes out under the latch, and otherwise one step does, or the write
fails. -/
theorem pulseCmdBit_wp
    {Q : Except HvdcpError Bool → HvdcpState → (pulseWatch A).State → Prop}
    (bus : Bus) {stepBit : Byte} (hbit : stepBit &&& Pmic.stepBits = stepBit)
    (hlatched : st.force9vLatched = true → Q (.ok false) st m)
    (hsent : ∀ value m', st.force9vLatched = false → m'.diff = m.diff →
      value &&& Pmic.stepBits = stepBit → A m' value →
      Q (.ok true) st (PulseLog.sent m' value))
    (hfailed : ∀ m' e, m'.diff = m.diff → Q (.error e) st m') :
    (pulseCmdBit bus stepBit).wp (pulseWatch A) Q st m := by
  rw [pulseCmdBit, Proc.wp_get_bind]
  refine Proc.wp_ite (fun h => (Proc.wp_pure _ st m false).2 (hlatched h)) fun h => ?_
  -- under the latch nothing is sent, so from here on it is down
  have hlatch : st.force9vLatched = false := Bool.eq_false_of_not_eq_true h
  rw [Proc.wp_bind]
  refine readStep_wp bus fun current => ?_
  rw [Proc.thenWp_ok, Proc.wp_bind]
  refine writeStep_wp bus (fun hadmits => ?_) ?_
  · rw [Proc.thenWp_ok]
    refine (Proc.wp_pure _ st _ true).2 ?_
    exact hsent (stepByte current stepBit) _ hlatch rfl (stepByte_and_stepBits current hbit) hadmits
  · rw [Proc.thenWp_error]
    exact hfailed _ _ rfl

end

/-! ### Pulses -/

/-- Without a latch the invariant is that the driver has counted what went out. -/
def Tracks (R : Bool → Nat → Int → Prop) : Prop :=
  ∀ cnt diff, R false cnt diff ↔ (cnt : Int) = diff

/-- An even count follows each pulse. -/
theorem tracks_even : Tracks Even := fun _ _ => Iff.rfl

/-- `Counted`, of the latch, the counter and the count. -/
def Shown (latch : Bool) (cnt : Nat) (diff : Int) : Prop := latch = false → (cnt : Int) = diff

/-- A count shown while no latch is up follows each pulse. -/
theorem tracks_shown : Tracks Shown :=
  fun _ _ => ⟨fun h => h rfl, fun h _ => h⟩

section
variable {R : Bool → Nat → Int → Prop} {st : HvdcpState}
  {m : (pulseWatch PulseLog.Admits).State}

/-- An INC pulse moves the counter and the count together. -/
theorem pulseIncGap_keeps (hR : Tracks R) (bus : Bus) (gapMs : Nat) :
    Proc.Keeps (pulseWatch PulseLog.Admits) (Counting R) (pulseIncGap bus gapMs) := by
  have hrules := counting_rules (A := PulseLog.Admits) R
  refine ⟨fun st m hs => ?_⟩
  rw [pulseIncGap, Proc.wp_bind]
  refine pulseCmdBit_wp bus (by decide) (fun _ => ?_) ?_ fun m' e hdiff => ?_
  · exact (hrules.sleepMs gapMs).run st m hs
  · intro value m' hlatch hdiff hbits hadmits
    rw [Proc.thenWp_ok, Proc.when, if_pos rfl, Proc.wp_modify_bind]
    refine (hrules.sleepMs gapMs).run _ _ ?_
    show R st.force9vLatched (min (satAdd 32 st.pulseCnt 1) maxPulseCnt) (m'.sent value).diff
    have hcount : (st.pulseCnt : Int) = m.diff := by
      have hs : R st.force9vLatched st.pulseCnt m.diff := hs
      rw [hlatch] at hs
      exact (hR _ _).1 hs
    -- the byte was admitted, so there was room: the saturating counter follows the pulse
    have hroom : m'.diff < maxPulseCnt := hadmits.room hbits
    have hmax : maxPulseCnt = 23 := rfl
    have hword : wordMax 32 = 4294967295 := by decide
    rw [hlatch, (m'.sent_step hbits).1 rfl, hR, satAdd, hword]
    omega
  · rw [Proc.thenWp_error]
    show R st.force9vLatched st.pulseCnt m'.diff
    rw [hdiff]
    exact hs

/-- A DEC pulse moves the counter and the count together. -/
theorem pulseDecGap_keeps (hR : Tracks R) (bus : Bus) (gapMs : Nat) :
    Proc.Keeps (pulseWatch PulseLog.Admits) (Counting R) (pulseDecGap bus gapMs) := by
  have hrules := counting_rules (A := PulseLog.Admits) R
  refine ⟨fun st m hs => ?_⟩
  rw [pulseDecGap, Proc.wp_bind]
  refine pulseCmdBit_wp bus (by decide) (fun _ => ?_) ?_ fun m' e hdiff => ?_
  · exact (hrules.sleepMs gapMs).run st m hs
  · intro value m' hlatch hdiff hbits hadmits
    rw [Proc.thenWp_ok, Proc.when, if_pos rfl, Proc.wp_modify_bind]
    refine (hrules.sleepMs gapMs).run _ _ ?_
    show R st.force9vLatched (st.pulseCnt - 1) (m'.sent value).diff
    have hcount : (st.pulseCnt : Int) = m.diff := by
      have hs : R st.force9vLatched st.pulseCnt m.diff := hs
      rw [hlatch] at hs
      exact (hR _ _).1 hs
    -- the byte was admitted, so a pulse was out: the counter does not stop at zero
    have hpositive : 0 < m'.diff := hadmits.nonNegative hbits
    rw [hlatch, (m'.sent_step hbits).2 rfl, hR]
    omega
  · rw [Proc.thenWp_error]
    show R st.force9vLatched st.pulseCnt m'.diff
    rw [hdiff]
    exact hs

/-- Every pulse, with the sleep after it, keeps a tracked invariant. -/
theorem pulse_rules (hR : Tracks R) : PulseRules (pulseWatch PulseLog.Admits) (Counting R) where
  toHvdcpWaits := counting_rules R
  inc := pulseIncGap_keeps hR
  dec := pulseDecGap_keeps hR

/-! ### The return to 5 V and the request of 9 V -/

/-- The return to 5 V takes the latch away, whether or not it went out. It goes out only on a
bus without pulses. -/
theorem safeForce5v_wp (bus : Bus)
    {Q : Except HvdcpError Unit → HvdcpState → (pulseWatch PulseLog.Admits).State → Prop}
    (h : ∀ m', m'.diff = m.diff → Q (.ok ()) { st with force9vLatched := false } m') :
    (safeForce5v bus).wp (pulseWatch PulseLog.Admits) Q st m := by
  rw [safeForce5v, Proc.wp_discard_bind]
  refine writeStep_wp bus (fun hadmits => ?_) ?_
  · refine (Proc.wp_modify st _ _ _).2 (h _ ?_)
    have hhome : m.diff = 0 := hadmits.home rfl
    rw [PulseLog.sent, if_pos rfl, hhome]
  · exact (Proc.wp_modify st m _ _).2 (h m rfl)

/-- A return to 5 V is admitted only with no pulse out, so the counter and the count stay even. -/
theorem safeForce5v_even (bus : Bus) :
    Proc.Keeps (pulseWatch PulseLog.Admits) (Counting Even) (safeForce5v bus) := by
  refine ⟨fun st m hs => safeForce5v_wp bus fun m' hdiff => ?_⟩
  show (st.pulseCnt : Int) = m'.diff
  rw [hdiff]
  exact hs

/-- A request of 9 V on a bus without pulses: the latch is up, or nothing has changed. -/
theorem force9v_wp (bus : Bus)
    {Q : Except HvdcpError Unit → HvdcpState → (pulseWatch PulseLog.Admits).State → Prop}
    (hok : ∀ st' m', m'.diff = m.diff → st'.force9vLatched = true → Q (.ok ()) st' m')
    (herr : ∀ m' e, m'.diff = m.diff → Q (.error e) st m') :
    (force9v bus).wp (pulseWatch PulseLog.Admits) Q st m := by
  rw [force9v, Proc.wp_bind]
  refine readStep_wp bus fun existing => ?_
  rw [Proc.thenWp_ok, Proc.wp_bind]
  refine writeStep_wp bus (fun hadmits => ?_) ?_
  · rw [Proc.thenWp_ok, Proc.wp_modify_bind]
    have hpure : (existing ||| Pmic.bitForce9v) &&& Pmic.stepBits = 0 := hadmits.pure9v rfl
    have hsame : ∀ m : PulseLog, (m.sent (existing ||| Pmic.bitForce9v)).diff = m.diff := by
      intro m
      -- with the 9 V bit in it the byte is not the return to 5 V, and it carries no step
      have hforce : existing ||| Pmic.bitForce9v ≠ Pmic.bitForce5v := by
        intro h
        have hbit := or_and_self_right existing Pmic.bitForce9v
        rw [h] at hbit
        exact absurd hbit (by decide)
      rw [PulseLog.sent, if_neg hforce, hpure, if_neg (by decide), if_neg (by decide)]
    refine (Proc.wp_perform (M := pulseWatch PulseLog.Admits) _ _ (.spmi (.sleep 100)) _).2
      ⟨trivial, fun _ _ => ?_⟩
    exact hok _ _ (hsame _) rfl
  · rw [Proc.thenWp_error]
    exact herr _ _ rfl

/-! ### The operations keep the count -/

/-- With nothing counted and nothing out the count is even. -/
theorem Zeroed.even {latch : Bool} {cnt : Nat} {diff : Int} (h : Zeroed latch cnt diff) :
    Even latch cnt diff := by
  rw [Even, h.1, h.2]
  rfl

/-- An even count is shown in particular. -/
theorem Even.shown {latch : Bool} {cnt : Nat} {diff : Int} (h : Even latch cnt diff) :
    Shown latch cnt diff := fun _ => h

/-- Under the latch nothing has to be shown. -/
theorem Latched.shown {latch : Bool} {cnt : Nat} {diff : Int} (h : Latched latch cnt diff) :
    Shown latch cnt diff := by
  intro hdown
  rw [h.1] at hdown
  cases hdown

/-- The request leaves the latch up, or a bus at 5 V without pulses. -/
theorem requestForce9v_wp (bus : Bus) (hs : Counting Zeroed st m)
    {Q : Except HvdcpError Unit → HvdcpState → (pulseWatch PulseLog.Admits).State → Prop}
    (hok : ∀ st' m', Counting Latched st' m' → Q (.ok ()) st' m')
    (herr : ∀ e st' m', Counting Even st' m' → Q (.error e) st' m') :
    (requestForce9v bus).wp (pulseWatch PulseLog.Admits) Q st m := by
  -- once the latch is set no pulse is sent, so the counts stay
  have hlatched := counting_rules (A := PulseLog.Admits) Latched
  refine (Proc.wp_modify_bind st m _ _ _).2 ?_
  rw [Proc.wp_attempt_bind]
  refine force9v_wp bus (fun st' m' hdiff hlatch => ?_) fun m' e hdiff => ?_
  · have hs' : Counting Latched st' m' := ⟨hlatch, hdiff.trans hs.2⟩
    refine (Proc.wp_discard _ _ _ _).2 ?_
    exact Proc.wp_mono ((hlatched.ensureIclAtLeast bus _).run st' m' hs') fun _ => hok
  · refine (Proc.wp_modify_bind _ _ _ _ _).2 ((Proc.wp_bind _ _ _ _ _).2 ?_)
    refine safeForce5v_wp bus fun m'' hdiff'' => ?_
    refine (Proc.wp_fail _ _ _ _).2 (herr e _ m'' ?_)
    show (st.pulseCnt : Int) = m''.diff
    rw [hdiff'', hdiff, hs.1, hs.2]
    rfl

/-- A plain DCP: the counter starts anew when the request of 9 V is given up. -/
theorem elevateDcp_wp (bus : Bus) (vbatUv : Nat) (hs : Counting Zeroed st m) :
    (elevateDcp bus vbatUv).wp (pulseWatch PulseLog.Admits)
      (fun _ st' m' => Counting Shown st' m') st m := by
  have hlatched := counting_rules (A := PulseLog.Admits) Latched
  have heven := counting_rules (A := PulseLog.Admits) Even
  rw [elevateDcp, Proc.wp_bind]
  refine requestForce9v_wp bus hs (fun st m hs => ?_) fun e st m hs => Even.shown hs
  rw [Proc.thenWp_ok]
  have hshown : ∀ (_ : HvdcpError) st (m : (pulseWatch PulseLog.Admits).State),
      Counting Latched st m → Counting Shown st m := fun _ _ _ h => Latched.shown h
  refine hlatched.readVin.wp_bind hs (fun first st m hs => ?_) hshown
  refine (hlatched.waitForce9vRise _ _).wp_bind hs (fun _ st m hs => ?_) hshown
  refine hlatched.readVin.wp_bind hs (fun after st m hs => ?_) hshown
  refine (hlatched.confirmHold _ _ _).wp_bind hs (fun held st m hs => ?_) hshown
  obtain ⟨vin, hold⟩ := held
  refine Proc.wp_ite (fun _ => ?_) fun _ => (Proc.wp_pure _ st m ()).2 (Latched.shown hs)
  -- the level did not hold: 5 V again, and then pulses
  rw [Proc.wp_bind]
  refine safeForce5v_wp bus fun m' hdiff => ?_
  rw [Proc.thenWp_ok, Proc.wp_modify_bind]
  have hzero : Counting Even { st with force9vLatched := false, pulseCnt := 0 } m' := by
    show ((0 : Nat) : Int) = m'.diff
    rw [hdiff, hs.2]
    rfl
  have hrest : Proc.Keeps (pulseWatch PulseLog.Admits) (Counting Even) (do
      let vin ← dcpRaise bus (asI32 (targetVbusUv vbatUv)) maxPulseCnt vin
      if vin < force9vRiseUv then
        safeForce5v bus
        Proc.discard (ensureIclAtLeast bus iclRawDcp2a)
      else Proc.discard (ensureIclAtLeast bus iclRawHvdcp21p5a)) := by
    refine ((pulse_rules tracks_even).dcpRaise bus _ _ _).bind fun vin => ?_
    refine Proc.Keeps.ite (fun _ => ?_) fun _ => (heven.ensureIclAtLeast bus _).discard
    exact (safeForce5v_even bus).bind fun _ => (heven.ensureIclAtLeast bus _).discard
  exact Proc.wp_mono (hrest.run _ _ hzero) fun _ _ _ h => Even.shown h

/-- A negotiation starts the count anew. -/
theorem runNegotiate_shown (usbinId : Option Nat) (vbatUv : Nat) :
    Proc.Keeps (pulseWatch PulseLog.Admits) (Counting Shown) (runNegotiate usbinId vbatUv) := by
  have hzero := counting_rules (A := PulseLog.Admits) Zeroed
  have hshown := counting_rules (A := PulseLog.Admits) Shown
  refine ⟨fun st m hs => runNegotiate_wp hshown (fun _ _ h => h) ?_ hs⟩
  intro bus st m _
  refine negotiateOnBus_wp hzero hshown (fun _ _ h => Even.shown (Zeroed.even h)) ?_ ?_ ?_ ?_
  · intro st m hs
    have hraise := (pulse_rules tracks_even).elevateQc3 bus (safeForce5v_even bus) vbatUv
    exact Proc.wp_mono (hraise.run st m (Zeroed.even hs)) fun _ _ _ h => Even.shown h
  · intro st m hs
    exact requestForce9v_wp bus hs (fun _ _ h => Latched.shown h) fun _ _ _ h => Even.shown h
  · exact fun st m hs => elevateDcp_wp bus vbatUv hs
  · -- the latched interrupts are cleared, whether or not the bus takes it
    have hclear : ∀ ok, (PulseLog.wrote m Pmic.intLatchedClr 0xFF ok).diff = 0 := by
      intro ok
      rw [PulseLog.wrote, if_pos rfl]
    refine (Proc.wp_discard _ _ _ _).2 (writeReg_wp bus (fun _ => ?_) ?_)
    · exact ⟨rfl, hclear true⟩
    · exact ⟨rfl, hclear false⟩

/-- The step lemma: every operation keeps the count. -/
theorem pulseOp_shown (op : PulseOp) :
    Proc.Keeps (pulseWatch PulseLog.Admits) (Counting Shown) op.run := by
  have h := pulse_rules tracks_shown
  cases op with
  | negotiate usbinId vbatUv => exact runNegotiate_shown usbinId vbatUv
  | authenticate bus => exact (h.attemptQc35Authenticate bus).discard
  | boost usbinId vinUv vbatUv => exact (h.boostVinForPump usbinId vinUv vbatUv).discard
  | trim usbinId vinUv vbatUv => exact (h.trimVinForPump usbinId vinUv vbatUv).discard
  | nudge usbinId vinUv vbatUv deadCurrent =>
      exact (h.nudgeVinIntoWindow usbinId vinUv vbatUv deadCurrent).discard

end

/-! ### Every run -/

/-- A monitor that admits every byte allows every trace. -/
theorem allowed_of_true (t : List (Event HvdcpEffect)) :
    ∀ m, (pulseWatch fun _ _ => True).Allowed m t := by
  refine Machine.allowed_of_trusting _ (fun m o r => ?_) t
  cases o with
  | readVin => trivial
  | spmi o =>
      cases o with
      | superuserWrite addr value => exact fun _ _ => trivial
      | usbinTransact addr value bigEndian =>
          cases value with
          | some value => exact fun _ _ => trivial
          | none => trivial
      | sleep ms => trivial
      | superuserOpen => trivial
      | superuserGrant peri => trivial
      | superuserRead addr => trivial
      | usbinOpen id => trivial

/-- An INC that went out raises the counter by one, up to what the counter can hold. -/
theorem pulseIncGap_count {bus : Bus} {gapMs : Nat} {st st' : HvdcpState}
    {t : List (Event HvdcpEffect)} (h : Prog.Yields (pulseIncGap bus gapMs st) t (.ok (), st'))
    (hlatch : st.force9vLatched = false) :
    st'.pulseCnt = min (satAdd 32 st.pulseCnt 1) maxPulseCnt := by
  -- without the latch the pulse is sent, and counted up to the maximum
  have hwp : (pulseIncGap bus gapMs).wp (pulseWatch fun _ _ => True) (fun outcome st' _ =>
      outcome = .ok () → st'.pulseCnt = min (satAdd 32 st.pulseCnt 1) maxPulseCnt)
      st PulseLog.start := by
    rw [pulseIncGap, Proc.wp_bind]
    refine pulseCmdBit_wp bus (by decide) ?_ ?_ fun m' e _ => ?_
    · intro hup
      rw [hlatch] at hup
      cases hup
    · intro value m' _ _ _ _
      rw [Proc.thenWp_ok, Proc.when, if_pos rfl, Proc.wp_modify_bind]
      exact (Proc.wp_perform (M := pulseWatch fun _ _ => True) _ _ (.spmi (.sleep gapMs)) _).2
        ⟨trivial, fun _ _ _ => rfl⟩
    · rw [Proc.thenWp_error]
      exact fun hok => by cases hok
  exact Prog.Yields.post h hwp.prog (allowed_of_true t _) rfl

/-- The return to 5 V leaves the counter as it was. -/
theorem safeForce5v_count {bus : Bus} {st st' : HvdcpState} {t : List (Event HvdcpEffect)}
    (h : Prog.Yields (safeForce5v bus st) t (.ok (), st')) : st'.pulseCnt = st.pulseCnt := by
  have hwp : (safeForce5v bus).wp (pulseWatch fun _ _ => True)
      (fun _ st' _ => st'.pulseCnt = st.pulseCnt) st PulseLog.start := by
    rw [safeForce5v, Proc.wp_discard_bind]
    exact writeReg_wp bus (fun _ => (Proc.wp_modify st _ _ _).2 rfl)
      ((Proc.wp_modify st _ _ _).2 rfl)
  exact Prog.Yields.post h hwp.prog (allowed_of_true t _)

/-- An INC raises the counter by one if and only if it is below 23, and a return to 5 V leaves
it at zero if and only if it was. In every run in which each byte is admitted, the counter is
the count whenever no latch is up. -/
theorem pulses_counted (st st' : HvdcpState) :
    (∀ bus gapMs t, Prog.Yields (pulseIncGap bus gapMs st) t (.ok (), st') →
      st.force9vLatched = false → (st'.pulseCnt = st.pulseCnt + 1 ↔ st.pulseCnt < 23)) ∧
    (∀ bus t, Prog.Yields (safeForce5v bus st) t (.ok (), st') →
      (st'.pulseCnt = 0 ↔ st.pulseCnt = 0)) ∧
    ∀ m (log : List (Entry HvdcpEffect HvdcpState PulseOp)),
      Run PulseOp.run st log st' → Counted st m →
      (pulseWatch PulseLog.Admits).Allowed m (exchanges log) →
      Counted st' ((pulseWatch PulseLog.Admits).after m (exchanges log)) := by
  refine ⟨fun bus gapMs t h hlatch => ?_, fun bus t h => ?_, ?_⟩
  · have hmax : maxPulseCnt = 23 := rfl
    -- the maximum is far from the word's end
    have hword : wordMax 32 = 4294967295 := by decide
    rw [pulseIncGap_count h hlatch, satAdd, hword]
    omega
  · rw [safeForce5v_count h]
  · exact fun m log h hst hallow => h.keeps pulseOp_shown m hst hallow

/-! ### An adapter that does not rise -/

/-- A PMIC whose detection has found an adapter, and the bus. -/
structure QcBench where
  result : Byte
  vinUv : Int
  /-- The adapter follows the steps. -/
  follows : Bool

namespace QcBench

/-- The bytes of the bench: detection done, its port, and zero elsewhere. -/
def readByte (bench : QcBench) (addr : PmicAddr) : Byte :=
  if addr = Pmic.apsdStatus then Pmic.bitApsdDone
  else if addr = Pmic.apsdResult then bench.result
  else 0

/-- The supply follows a write, when the bench has one that follows. -/
def step (bench : QcBench) (addr : PmicAddr) (value : Byte) : QcBench :=
  if bench.follows then { bench with vinUv := bench.vinUv + writeUv addr value } else bench

/-- The bench answers every access on the SUPERUSER path. -/
def answer (bench : QcBench) : (o : HvdcpOp) → HvdcpEffect.Resp o × QcBench
  | .readVin => (bench.vinUv, bench)
  | .spmi (.superuserRead addr) => (some (bench.readByte addr), bench)
  | .spmi (.superuserWrite addr value) => (true, bench.step addr value)
  | .spmi (.sleep _) => ((), bench)
  | .spmi .superuserOpen => (true, bench)
  | .spmi (.superuserGrant _) => (true, bench)
  | .spmi (.usbinOpen _) => (false, bench)
  | .spmi (.usbinTransact _ _ _) => (none, bench)

end QcBench

instance decidableAdmits (m : PulseLog) (value : Byte) : Decidable (m.Admits value) :=
  decidable_of_iff
    ((value &&& Pmic.stepBits = Pmic.bitSingleDec → 0 < m.diff) ∧
      (value &&& Pmic.stepBits = Pmic.bitSingleInc → m.diff < maxPulseCnt) ∧
      (value = Pmic.bitForce5v → m.diff = 0) ∧
      (value = m.last ||| Pmic.bitForce9v → value &&& Pmic.stepBits = 0))
    ⟨fun h => ⟨h.1, h.2.1, h.2.2.1, h.2.2.2⟩, fun h => ⟨h.nonNegative, h.room, h.home, h.pure9v⟩⟩

instance decidableNonNegative (m : PulseLog) (value : Byte) :
    Decidable (m.NonNegative value) :=
  inferInstanceAs (Decidable (value &&& Pmic.stepBits = Pmic.bitSingleDec → 0 < m.diff))

/-- With a decidable assumption, what the watch admits is decidable. -/
def decidableAllow {A : PulseLog → Byte → Prop} (hA : ∀ m value, Decidable (A m value))
    (m : PulseLog) : (o : HvdcpOp) → (r : HvdcpEffect.Resp o) → Decidable (PulseLog.allow A m o r)
  | .readVin => fun _ => isTrue trivial
  | .spmi (.superuserWrite addr value) => fun (ok : Bool) =>
      have := hA m value
      inferInstanceAs (Decidable (addr = Pmic.cmdHvdcp2 → ok = true → A m value))
  | .spmi (.usbinTransact addr (some value) _) => fun (answer : Option Byte) =>
      have := hA m value
      inferInstanceAs (Decidable (addr = Pmic.cmdHvdcp2 → answer.isSome = true → A m value))
  | .spmi (.usbinTransact _ none _) => fun _ => isTrue trivial
  | .spmi (.sleep _) => fun _ => isTrue trivial
  | .spmi .superuserOpen => fun _ => isTrue trivial
  | .spmi (.superuserGrant _) => fun _ => isTrue trivial
  | .spmi (.superuserRead _) => fun _ => isTrue trivial
  | .spmi (.usbinOpen _) => fun _ => isTrue trivial

instance decidablePulses {A : PulseLog → Byte → Prop} [hA : ∀ m value, Decidable (A m value)]
    (m : PulseLog) (t : List (Event HvdcpEffect)) : Decidable ((pulseWatch A).Allowed m t) :=
  @Machine.decidableAllowed _ (pulseWatch A) (decidableAllow hA) m t

/-- A QC3 adapter that follows the pulses. -/
def qc3Bench : QcBench := { result := Pmic.bitQc3, vinUv := 5000000, follows := true }

/-- A plain DCP that knows neither `FORCE_9V` nor the pulses. -/
def dcpBench : QcBench := { result := Pmic.bitDcp, vinUv := 5000000, follows := false }

/-- The log of one negotiation for a cell of 3.9 V. -/
@[irreducible] def negotiateLog (bench : QcBench) :
    List (Entry HvdcpEffect HvdcpState PulseOp) :=
  Session.execute QcBench.answer PulseOp.run bench HvdcpState.new [.negotiate none 3900000]

/-- The state a negotiation on the bench leaves, when it returns. -/
@[irreducible] def negotiateLeaves (bench : QcBench) : Option HvdcpState :=
  Run.leaves (E := HvdcpEffect) QcBench.answer PulseOp.run bench HvdcpState.new
    [.negotiate none 3900000]

/-- The computed log of a negotiation is a run. -/
theorem run_negotiateLog {bench : QcBench} {st' : HvdcpState}
    (h : negotiateLeaves bench = some st') :
    Run PulseOp.run HvdcpState.new (negotiateLog bench) st' := by
  rw [negotiateLeaves] at h
  rw [negotiateLog]
  exact Run.of_leaves _ _ _ _ _ _ h

/-- A pulse, a return to 5 V and a whole negotiation that steps sixteen times, each counted. -/
theorem pulses_counted_on_bench :
    (∃ t st', Prog.Yields (pulseIncGap .superuser 40 HvdcpState.new) t (.ok (), st') ∧
      (st'.pulseCnt = 0 + 1 ↔ 0 < 23)) ∧
    (∃ t st', Prog.Yields (safeForce5v .superuser HvdcpState.new) t (.ok (), st') ∧
      (st'.pulseCnt = 0 ↔ HvdcpState.new.pulseCnt = 0)) ∧
    ∃ st', Run PulseOp.run HvdcpState.new (negotiateLog qc3Bench) st' ∧ st'.pulseCnt = 16 ∧
      Counted st' ((pulseWatch PulseLog.Admits).after PulseLog.start
        (exchanges (negotiateLog qc3Bench))) := by
  refine ⟨?_, ?_, ?_⟩
  · have hran := Prog.yields_runWith QcBench.answer (pulseIncGap .superuser 40 HvdcpState.new)
      qc3Bench _ rfl
    exact ⟨_, _, hran, (pulses_counted HvdcpState.new _).1 .superuser 40 _ hran rfl⟩
  · have hran := Prog.yields_runWith QcBench.answer (safeForce5v .superuser HvdcpState.new)
      qc3Bench _ rfl
    exact ⟨_, _, hran, (pulses_counted HvdcpState.new _).2.1 .superuser _ hran⟩
  · -- the bench follows each pulse, and sixteen bring it to the target
    have hleaves : (negotiateLeaves qc3Bench).map HvdcpState.pulseCnt = some 16 := by
      decide +kernel
    obtain ⟨st', hst', hcount⟩ := Option.map_eq_some_iff.1 hleaves
    have hrun := run_negotiateLog hst'
    have hallow : (pulseWatch PulseLog.Admits).Allowed PulseLog.start
        (exchanges (negotiateLog qc3Bench)) := by decide +kernel
    have hstart : Counted HvdcpState.new PulseLog.start := fun _ => rfl
    exact ⟨st', hrun, hcount,
      (pulses_counted HvdcpState.new st').2.2 PulseLog.start _ hrun hstart hallow⟩

/-- The assumption of the count alone does not give it: on an adapter that does not rise the
counter ends at 23, and the bus is at 5 V. -/
theorem not_pulses_counted :
    ¬∀ (log : List (Entry HvdcpEffect HvdcpState PulseOp)) st',
      Run PulseOp.run HvdcpState.new log st' →
      (pulseWatch PulseLog.NonNegative).Allowed PulseLog.start (exchanges log) →
      Counted st' ((pulseWatch PulseLog.NonNegative).after PulseLog.start (exchanges log)) := by
  intro h
  have hleaves : (negotiateLeaves dcpBench).map
      (fun st => (st.pulseCnt, st.force9vLatched)) = some (23, false) := by decide +kernel
  obtain ⟨st', hst', hend⟩ := Option.map_eq_some_iff.1 hleaves
  have hallow : (pulseWatch PulseLog.NonNegative).Allowed PulseLog.start
      (exchanges (negotiateLog dcpBench)) := by decide +kernel
  have hdiff : PulseLog.diff ((pulseWatch PulseLog.NonNegative).after PulseLog.start
      (exchanges (negotiateLog dcpBench))) = 0 := by decide +kernel
  have hcount := h _ st' (run_negotiateLog hst') hallow (congrArg Prod.snd hend)
  -- the counter stops at its maximum, the pulses sent do not
  have hpulses : st'.pulseCnt = 23 := congrArg Prod.fst hend
  rw [hdiff, hpulses] at hcount
  exact absurd hcount (by decide)

end Kmdf
