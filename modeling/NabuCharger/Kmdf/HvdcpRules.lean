import NabuCharger.Kmdf.Adapter
import NabuCharger.Kmdf.Detection

/-!
# `Kmdf.HvdcpRules`: invariants through the Quick Charge machine

One rule for each program of the Quick Charge machine, for any monitor `N` of what it talks to
and any invariant `J` of its state. `HvdcpRules` is what every program asks for: `J` reads
nothing of the state but the latch and the pulse counter, and survives every operation that
writes neither `CMD_HVDCP_2` nor the latched interrupts. What moves the bus is asked for one by
one: the pulses (`PulseRules`), the `FORCE_9V` request and the return to 5 V.
-/

set_option autoImplicit false

namespace Kmdf

open Effectful Ln8000

variable {N : Machine HvdcpEffect}

/-- The operation writes neither the step register nor the latched interrupts. -/
def SpmiOp.quiet (o : SpmiOp) : Bool :=
  match o.write? with
  | some (addr, _) => decide (addr ≠ Pmic.cmdHvdcp2) && decide (addr ≠ Pmic.intLatchedClr)
  | none => true

/-- The state with this latch and this counter. -/
def HvdcpState.withPulses (st : HvdcpState) (latch : Bool) (cnt : Nat) : HvdcpState :=
  { st with force9vLatched := latch, pulseCnt := cnt }

/-- A family of programs of the machine, with whatever errors and results: it is closed under
the constructs of a program that looks at neither the latch nor the counter, and has the
operations that move nothing. -/
structure HvdcpClosed (K : ∀ ε α : Type, Proc HvdcpEffect ε HvdcpState α → Prop) : Prop where
  pure : ∀ {ε α : Type} (a : α), K ε α (Pure.pure a)
  fail : ∀ {ε α : Type} (e : ε), K ε α (Proc.fail e)
  bind : ∀ {ε α β : Type} {x : Proc HvdcpEffect ε HvdcpState α}
    {f : α → Proc HvdcpEffect ε HvdcpState β}, K ε α x → (∀ a, K ε β (f a)) → K ε β (x >>= f)
  attempt : ∀ {ε ε' α : Type} {x : Proc HvdcpEffect ε HvdcpState α},
    K ε α x → K ε' (Except ε α) (Proc.attempt x)
  discard : ∀ {ε ε' α : Type} {x : Proc HvdcpEffect ε HvdcpState α},
    K ε α x → K ε' Unit (Proc.discard x)
  unwrapOr : ∀ {ε ε' α : Type} {x : Proc HvdcpEffect ε HvdcpState α} (d : α),
    K ε α x → K ε' α (Proc.unwrapOr x d)
  get_bind : ∀ {ε α : Type} {f : HvdcpState → Proc HvdcpEffect ε HvdcpState α},
    (∀ st latch cnt, f (st.withPulses latch cnt) = f st) → (∀ st, K ε α (f st)) →
    K ε α (Proc.get >>= f)
  modify : ∀ {ε : Type} {f : HvdcpState → HvdcpState},
    (∀ st latch cnt, f (st.withPulses latch cnt) = (f st).withPulses latch cnt) →
    K ε Unit (Proc.modify f)
  quiet : ∀ {ε : Type} {o : SpmiOp}, o.quiet = true → K ε o.Resp (spmi o)

/-- A family that has the waits as well. -/
structure HvdcpWaits (K : ∀ ε α : Type, Proc HvdcpEffect ε HvdcpState α → Prop) : Prop
    extends HvdcpClosed K where
  diverge : ∀ {ε α : Type}, K ε α Proc.diverge
  readVin : ∀ {ε : Type}, K ε Int readVin

section
variable {K : ∀ ε α : Type, Proc HvdcpEffect ε HvdcpState α → Prop} {ε α : Type}

namespace HvdcpClosed

/-- A choice between two programs of the family. -/
theorem ite {c : Prop} [Decidable c] {x y : Proc HvdcpEffect ε HvdcpState α}
    (_ : HvdcpClosed K) (hx : c → K ε α x) (hy : ¬c → K ε α y) : K ε α (if c then x else y) := by
  by_cases hc : c
  · rw [if_pos hc]
    exact hx hc
  · rw [if_neg hc]
    exact hy hc

/-- A program that is run on a condition. -/
theorem when (h : HvdcpClosed K) {c : Bool} {x : Proc HvdcpEffect ε HvdcpState Unit}
    (hx : K ε Unit x) : K ε Unit (Proc.when c x) :=
  h.ite (fun _ => hx) fun _ => h.pure ()

/-- A pause is a quiet operation. -/
theorem sleepMs (h : HvdcpClosed K) (ms : Nat) : K ε Unit (sleepMs ms) :=
  h.quiet (o := .sleep ms) rfl

/-- The phase is neither the latch nor the counter. -/
theorem setPhase (h : HvdcpClosed K) (phase : HvdcpPhase) : K ε Unit (setPhase phase) :=
  h.modify fun _ _ _ => rfl

/-! ### Registers -/

/-- The answer of a read, or a failure. -/
theorem answered (h : HvdcpClosed K) (answer : Option Byte) :
    K _ _ (match answer with
      | some read => Pure.pure read
      | none => Proc.fail .spmiIo : HvdcpM Byte) := by
  cases answer with
  | some read => exact h.pure read
  | none => exact h.fail _

/-- A read is quiet on either bus. -/
theorem readReg (h : HvdcpClosed K) (bus : Bus) (addr : PmicAddr) :
    K _ _ (readReg bus addr) := by
  cases bus with
  | superuser => exact h.bind (h.quiet (o := .superuserRead addr) rfl) h.answered
  | usbin =>
      refine h.get_bind (fun _ _ _ => rfl) fun st => ?_
      exact h.bind (h.quiet (o := .usbinTransact addr none st.bigEndian) rfl) h.answered

/-- A write asks for the operation of its transport. -/
theorem writeReg_of (h : HvdcpClosed K) (bus : Bus) {addr : PmicAddr} {value : Byte}
    (ho : ∀ o : SpmiOp, o.write? = some (addr, value) → K HvdcpError o.Resp (spmi o)) :
    K _ _ (Kmdf.writeReg bus addr value) := by
  cases bus with
  | superuser =>
      refine h.bind (ho (.superuserWrite addr value) rfl) fun (ok : Bool) => ?_
      cases ok with
      | true => exact h.pure ()
      | false => exact h.fail _
  | usbin =>
      refine h.get_bind (fun _ _ _ => rfl) fun st => ?_
      -- over the second connection the byte order of the state picks the request
      have hwrite := ho (.usbinTransact addr (some value) st.bigEndian) rfl
      refine h.bind (h.bind hwrite fun (answer : Option Byte) => ?_) fun _ => h.pure ()
      cases answer with
      | some read => exact h.pure read
      | none => exact h.fail _

/-- A write beside the step register and the latched interrupts. -/
theorem writeReg (h : HvdcpClosed K) (bus : Bus) {addr : PmicAddr} (value : Byte)
    (hstep : addr ≠ Pmic.cmdHvdcp2) (hclear : addr ≠ Pmic.intLatchedClr) :
    K _ _ (Kmdf.writeReg bus addr value) := by
  refine h.writeReg_of bus fun o ho => h.quiet ?_
  simp [SpmiOp.quiet, ho, hstep, hclear]

/-! ### Preparation of the input -/

/-- The end of a suspended input writes its command register. -/
theorem clearUsbinSuspend (h : HvdcpClosed K) (bus : Bus) :
    K _ _ (clearUsbinSuspend bus) := by
  refine h.bind (h.attempt (h.readReg bus _)) fun result => ?_
  cases result with
  | error e => exact h.pure ()
  | ok cmdIl => exact h.when (h.discard (h.writeReg bus _ (by decide) (by decide)))

/-- The gate of the detection is a setting of the connector. -/
theorem clearApsdCcGate (h : HvdcpClosed K) (bus : Bus) : K _ _ (clearApsdCcGate bus) := by
  refine h.bind (h.readReg bus _) fun cfg => h.ite (fun _ => ?_) fun _ => h.pure _
  exact h.bind (h.writeReg bus _ (by decide) (by decide)) fun _ => h.pure _

/-- The floor of the input current is raised where it is lower. -/
theorem ensureIclFloor500ma (h : HvdcpClosed K) (bus : Bus) :
    K _ _ (ensureIclFloor500ma bus) := by
  refine h.bind (h.readReg bus _) fun current => h.ite (fun _ => h.pure _) fun _ => ?_
  refine h.bind (h.writeReg bus _ (by decide) (by decide)) fun _ => ?_
  exact h.bind (h.discard (h.writeReg bus _ (by decide) (by decide))) fun _ => h.pure _

/-- So is any other floor. -/
theorem ensureIclAtLeast (h : HvdcpClosed K) (bus : Bus) (target : Byte) :
    K _ _ (ensureIclAtLeast bus target) := by
  refine h.bind (h.readReg bus _) fun current => ?_
  refine h.bind (h.when (h.writeReg bus _ (by decide) (by decide))) fun _ => ?_
  refine h.bind (h.discard (h.writeReg bus _ (by decide) (by decide))) fun _ => ?_
  exact h.bind (h.clearUsbinSuspend bus) fun _ => h.pure _

/-- The options of the input are set, not a step. -/
theorem enableHvdcp (h : HvdcpClosed K) (bus : Bus) : K _ _ (enableHvdcp bus) := by
  refine h.bind (h.readReg bus _) fun read => ?_
  refine h.bind (h.writeReg bus _ (by decide) (by decide)) fun _ => ?_
  exact h.modify fun _ _ _ => rfl

/-- The allowed voltages are set, not a step. -/
theorem ensureHvdcpVoltageGates (h : HvdcpClosed K) (bus : Bus) :
    K _ _ (ensureHvdcpVoltageGates bus) := by
  refine h.bind (h.readReg bus _) fun allow => ?_
  refine h.bind (h.when (h.writeReg bus _ (by decide) (by decide))) fun _ => ?_
  refine h.bind (h.readReg bus _) fun pulseMax => ?_
  exact h.when (h.writeReg bus _ (by decide) (by decide))

/-- Three registers are read. -/
theorem sampleQcStatus (h : HvdcpClosed K) (bus : Bus) : K _ _ (sampleQcStatus bus) := by
  refine h.bind (h.sleepMs _) fun _ => h.bind (h.readReg bus _) fun _ => ?_
  exact h.bind (h.readReg bus _) fun _ => h.pure ()

/-- The last phase is noted. -/
theorem finishNegotiation (h : HvdcpClosed K) (bus : Bus) : K _ _ (finishNegotiation bus) :=
  h.bind (h.discard (h.sampleQcStatus bus)) fun _ => h.setPhase _

/-- Both byte orders are tried with a read. -/
theorem resolveEndianUsbin (h : HvdcpClosed K) : K _ _ resolveEndianUsbin := by
  -- one byte order tried by a read
  have hprobe : ∀ big, K _ _ (spmiRwUsbin Pmic.apsdStatus none big) := by
    intro big
    refine h.bind (h.quiet (o := .usbinTransact Pmic.apsdStatus none big) rfl) ?_
    intro (answer : Option Byte)
    cases answer with
    | some read => exact h.pure read
    | none => exact h.fail _
  refine h.get_bind (fun _ _ _ => rfl) fun st => h.ite (fun _ => h.pure ()) fun _ => ?_
  -- big endian first, then little; neither answering is an error
  refine h.bind (h.attempt (hprobe true)) fun first => ?_
  cases first with
  | ok _ => exact h.modify fun _ _ _ => rfl
  | error _ =>
      refine h.bind (h.attempt (hprobe false)) fun second => ?_
      cases second with
      | ok _ => exact h.modify fun _ _ _ => rfl
      | error _ => exact h.fail _

/-- A failure is noted in the phase. -/
theorem orFailed (h : HvdcpClosed K) {x : HvdcpM α} (hx : K _ _ x) : K _ _ (orFailed x) := by
  refine h.bind (h.attempt hx) fun result => ?_
  cases result with
  | ok value => exact h.pure value
  | error err => exact h.bind (h.setPhase _) fun _ => h.fail err

/-- The input bus is opened and tried with a read. -/
theorem openUsbin (h : HvdcpClosed K) (usbinId : Option Nat) : K _ _ (openUsbin usbinId) := by
  cases usbinId with
  | none => exact h.bind (h.modify (by exact fun _ _ _ => rfl)) fun _ => h.fail _
  | some id =>
      refine h.bind (h.quiet (o := .usbinOpen id) rfl) fun (ok : Bool) => ?_
      cases ok with
      | false => exact h.bind (h.setPhase _) fun _ => h.fail _
      | true =>
          refine h.bind (h.orFailed h.resolveEndianUsbin) fun _ => ?_
          exact h.bind (h.modify (by exact fun _ _ _ => rfl)) fun _ => h.pure _

/-- The privileged bus is opened, or else the input bus. -/
theorem openBus (h : HvdcpClosed K) (usbinId : Option Nat) : K _ _ (openBus usbinId) := by
  -- a session that was opened but not granted falls back like one that was not
  have hgranted : ∀ granted : Bool, K _ _ (if granted then do
        Proc.modify fun st =>
          { st with transport := .superuser, endianKnown := true, bigEndian := true }
        Pure.pure .superuser
      else Kmdf.openUsbin usbinId : HvdcpM Bus) := by
    intro granted
    cases granted with
    | true => exact h.bind (h.modify (by exact fun _ _ _ => rfl)) fun _ => h.pure _
    | false => exact h.openUsbin usbinId
  refine h.bind (h.modify (by exact fun _ _ _ => rfl)) fun _ => ?_
  refine h.bind (h.quiet (o := .superuserOpen) rfl) fun (ok : Bool) => ?_
  cases ok with
  | true => exact h.bind (h.quiet (o := .superuserGrant spmiPeriUsbin) rfl) hgranted
  | false => exact hgranted false

/-- The body runs on the first bus there is. -/
theorem onFirstBus (h : HvdcpClosed K) (usbinId : Option Nat) {body : Bus → HvdcpM α}
    (hbody : ∀ bus, K _ _ (body bus)) (fallback : α) :
    K _ _ (onFirstBus usbinId body fallback) := by
  refine h.bind (h.quiet (o := .superuserOpen) rfl) fun (ok : Bool) => ?_
  cases ok with
  | true => exact h.bind (h.modify (by exact fun _ _ _ => rfl)) fun _ => hbody _
  | false =>
      cases usbinId with
      | none => exact h.pure fallback
      | some id =>
          refine h.bind (h.quiet (o := .usbinOpen id) rfl) fun (ok : Bool) => ?_
          cases ok with
          | true => exact hbody _
          | false => exact h.pure fallback

end HvdcpClosed

namespace HvdcpWaits

/-! ### Waits -/

/-- The wait reads the status between pauses. -/
theorem waitApsdDone (h : HvdcpWaits K) (bus : Bus) (fuel : Nat) :
    ∀ waited, K _ _ (waitApsdDone bus fuel waited) := by
  induction fuel with
  | zero => exact fun _ => h.diverge
  | succ fuel ih =>
      intro waited
      refine h.bind (h.readReg bus _) fun status => ?_
      refine h.bind (h.modify (by exact fun _ _ _ => rfl)) fun _ => ?_
      refine h.ite (fun _ => ?_) fun _ => h.ite (fun _ => h.fail _) fun _ => ?_
      · exact h.bind (h.readReg bus _) fun _ => h.modify fun _ _ _ => rfl
      · exact h.bind (h.sleepMs _) fun _ => ih _

/-- The wait for 9 V samples between pauses. -/
theorem waitForce9vRise (h : HvdcpWaits K) (fuel : Nat) :
    ∀ poll, K _ _ (waitForce9vRise fuel poll) := by
  induction fuel with
  | zero => exact fun _ => h.diverge
  | succ fuel ih =>
      intro poll
      unfold Kmdf.waitForce9vRise
      cases poll.judge with
      | none => exact h.pure _
      | some poll =>
          refine h.ite (fun _ => h.pure _) fun _ => ?_
          exact h.bind (h.sleepMs _) fun _ => h.bind h.readVin fun _ => ih _

/-- So does the wait for a window. -/
theorem waitVinWindow (h : HvdcpWaits K) (timeoutMs : Nat) (pred : Int → Bool) (fuel : Nat) :
    ∀ waited, K ε _ (waitVinWindow timeoutMs pred fuel waited) := by
  induction fuel with
  | zero => exact fun _ => h.diverge
  | succ fuel ih =>
      intro waited
      refine h.bind h.readVin fun vin => h.ite (fun _ => h.pure _) fun _ => ?_
      refine h.ite (fun _ => h.pure _) fun _ => ?_
      exact h.bind (h.sleepMs _) fun _ => ih _

/-- So does the confirmation of a level. -/
theorem confirmHold (h : HvdcpWaits K) (tries : Nat) :
    ∀ vin hold, K _ _ (confirmHold tries vin hold) := by
  induction tries with
  | zero => exact fun _ _ => h.pure _
  | succ tries ih =>
      intro vin hold
      refine h.ite (fun _ => h.pure _) fun _ => ?_
      exact h.bind (h.sleepMs _) fun _ => h.bind h.readVin fun vin => ih vin _

/-- A detection writes a command of its own, and waits. -/
theorem rerunApsd (h : HvdcpWaits K) (bus : Bus) (pre : ApsdBefore) :
    K _ _ (rerunApsd bus pre) := by
  refine h.bind (h.setPhase _) fun _ => ?_
  refine h.bind (h.attempt (h.writeReg bus _ (by decide) (by decide))) fun written => ?_
  cases written with
  | error err => exact h.bind (h.setPhase _) fun _ => h.fail err
  | ok _ =>
      refine h.bind (h.setPhase _) fun _ => ?_
      refine h.bind (h.attempt (h.waitApsdDone bus _ _)) fun done => ?_
      cases done with
      | error err => exact h.bind (h.setPhase _) fun _ => h.fail err
      | ok _ =>
          refine h.get_bind (fun _ _ _ => rfl) fun st => h.when ?_
          exact h.modify fun _ _ _ => rfl

/-- The adapter is detected, again if need be, and its status sampled. -/
theorem detectAdapter (h : HvdcpWaits K) (bus : Bus) : K _ _ (detectAdapter bus) := by
  -- what the adapter answered decides the branch
  have hanswer : ∀ qc : Byte, K _ _ (do
      Proc.modify fun st =>
        { st with apsdResult := promoteQcCharger st.apsdResult st.apsdStatus }
      let st ← Proc.get
      Pure.pure (apsdElevatePath st.apsdResult (decide (qc &&& Pmic.bitQcContinuous ≠ 0))) :
        HvdcpM ApsdElevate) :=
    fun qc => h.bind (h.modify (by exact fun _ _ _ => rfl)) fun _ =>
      h.get_bind (fun _ _ _ => rfl) fun _ => h.pure _
  refine h.bind (h.clearUsbinSuspend bus) fun _ => ?_
  refine h.bind (h.orFailed (h.clearApsdCcGate bus)) fun _ => ?_
  -- the floor and the gates are set on a best effort: a failure is dropped
  refine h.bind (h.discard (h.ensureIclFloor500ma bus)) fun _ => ?_
  refine h.bind (h.discard (h.ensureHvdcpVoltageGates bus)) fun _ => ?_
  refine h.bind (h.unwrapOr 0 (h.readReg bus _)) fun status => ?_
  refine h.bind (h.unwrapOr 0 (h.readReg bus _)) fun result => ?_
  refine h.bind (h.unwrapOr 0 (h.readReg bus _)) fun qc => ?_
  refine h.bind (h.setPhase _) fun _ => h.bind (h.orFailed (h.enableHvdcp bus)) fun _ => ?_
  refine h.bind (h.sleepMs _) fun _ => h.ite (fun _ => ?_) fun _ => ?_
  · exact h.bind (h.modify fun _ _ _ => rfl) fun _ => hanswer qc
  · exact h.bind (h.rerunApsd bus _) fun _ => hanswer qc

end HvdcpWaits

end

/-! ### Invariants -/

/-- The operation meets its obligation in `J`, and every allowed answer keeps `J`. -/
def HvdcpKeeps (N : Machine HvdcpEffect) (J : HvdcpState → N.State → Prop) (o : HvdcpOp) :
    Prop :=
  ∀ st m, J st m → N.require m o ∧ ∀ r, N.allow m o r → J st (N.next m o r)

/-- Every program with waits keeps `J`. -/
abbrev HvdcpRules (N : Machine HvdcpEffect) (J : HvdcpState → N.State → Prop) : Prop :=
  HvdcpWaits fun _ _ x => Proc.Keeps N J x

variable {J : HvdcpState → N.State → Prop} {ε α : Type}

/-- A failure of its own type does not change what a program keeps. -/
theorem HvdcpKeeps.perform {o : HvdcpOp} (h : HvdcpKeeps N J o) :
    Proc.Keeps N J (Proc.perform (E := HvdcpEffect) o : Proc HvdcpEffect ε HvdcpState _) :=
  Proc.Keeps.perform (M := N) (o := o) h

/-- It is enough that `J` reads nothing of the state but the latch and the counter, and
survives the operations that move nothing. -/
theorem HvdcpRules.of (hframe : ∀ (st st' : HvdcpState) m,
      st'.force9vLatched = st.force9vLatched → st'.pulseCnt = st.pulseCnt → J st m → J st' m)
    (hquiet : ∀ o : SpmiOp, o.quiet = true → HvdcpKeeps N J (.spmi o))
    (hvin : HvdcpKeeps N J .readVin) : HvdcpRules N J where
  pure a := Proc.Keeps.pure a
  fail e := Proc.Keeps.fail e
  bind hx hf := Proc.Keeps.bind hx hf
  attempt hx := hx.attempt
  discard hx := hx.discard
  unwrapOr d hx := hx.unwrapOr d
  get_bind _ hf := Proc.Keeps.get.bind hf
  modify {_ f} hf := Proc.Keeps.modify fun st m hJ => by
    have hsame : f st = (f st).withPulses st.force9vLatched st.pulseCnt :=
      hf st st.force9vLatched st.pulseCnt
    rw [hsame]
    exact hframe st _ m rfl rfl hJ
  quiet ho := (hquiet _ ho).perform
  diverge := Proc.Keeps.diverge
  readVin := hvin.perform

/-! ### Pulses -/

/-- What a program that sends pulses asks for. -/
structure PulseRules (N : Machine HvdcpEffect) (J : HvdcpState → N.State → Prop) : Prop
    extends HvdcpRules N J where
  inc : ∀ bus gapMs, Proc.Keeps N J (pulseIncGap bus gapMs)
  dec : ∀ bus gapMs, Proc.Keeps N J (pulseDecGap bus gapMs)

namespace PulseRules

/-- A pulse of the authentication is a step up or down. -/
theorem authPulse (h : PulseRules N J) (bus : Bus) (pulse : Qc35AuthPulse) :
    Proc.Keeps N J (match pulse with
      | .inc => pulseIncGap bus qc35AuthPulseGapMs
      | .dec => pulseDecGap bus qc35AuthPulseGapMs) := by
  cases pulse with
  | inc => exact h.inc bus _
  | dec => exact h.dec bus _

/-- The same, with a failure that says nothing. -/
theorem pulseAuthStep (h : PulseRules N J) (bus : Bus) (pulse : Qc35AuthPulse) :
    Proc.Keeps N J (pulseAuthStep bus pulse) := by
  refine (h.authPulse bus pulse).attempt.bind fun result => ?_
  cases result with
  | ok _ => exact Proc.Keeps.pure ()
  | error _ => exact Proc.Keeps.fail ()

/-- Pulses one after the other. The induction is on their list. -/
theorem pulseTrain (h : PulseRules N J) (bus : Bus) (pulses : List Qc35AuthPulse) :
    Proc.Keeps N J (pulseTrain bus pulses) := by
  induction pulses with
  | nil => exact Proc.Keeps.pure ()
  | cons pulse rest ih => exact (h.pulseAuthStep bus pulse).bind fun _ => ih

/-- The pulses that lead to the first window. -/
theorem prepPulses (h : PulseRules N J) (bus : Bus) (budget : Nat) :
    ∀ vin, Proc.Keeps N J (prepPulses bus budget vin) := by
  induction budget with
  | zero => exact fun _ => Proc.Keeps.pure ()
  | succ budget ih =>
      intro vin
      refine Proc.Keeps.ite (fun _ => Proc.Keeps.pure ()) fun _ => ?_
      refine (h.pulseAuthStep bus .inc).bind fun _ => h.readVin.bind fun vin => ?_
      exact Proc.Keeps.ite (fun _ => Proc.Keeps.fail ()) fun _ => ih vin

/-- The authentication is made of pulses, waits and current limits. -/
theorem attemptQc35Authenticate (h : PulseRules N J) (bus : Bus) :
    Proc.Keeps N J (attemptQc35Authenticate bus) := by
  -- the detection window is reached by pulses from the voltage found
  have hprep : Proc.Keeps N J (prepQc35DetectWindow bus) := by
    refine h.readVin.bind fun vin => Proc.Keeps.ite (fun _ => Proc.Keeps.fail ()) fun _ => ?_
    refine (h.prepPulses bus _ vin).bind fun _ => (h.waitVinWindow _ _ _ _).bind fun seen => ?_
    cases seen with
    | some vin => exact Proc.Keeps.pure vin
    | none => exact Proc.Keeps.fail ()
  refine (h.ensureIclFloor500ma bus).discard.bind fun _ => hprep.bind fun _ => ?_
  refine (h.pulseTrain bus _).bind fun _ => (h.waitVinWindow _ _ _ _).bind fun seen => ?_
  cases seen with
  | none => exact h.readVin.bind fun _ => Proc.Keeps.fail ()
  | some capVin =>
      cases hpower : qc35PowerLimitW capVin with
      | none =>
          simp only [hpower]
          exact Proc.Keeps.fail ()
      -- the capability voltage names a power: only then the confirming pulses go out
      | some powerW =>
          simp only [hpower]
          refine (h.pulseTrain bus _).bind fun _ => ?_
          exact (h.ensureIclAtLeast bus _).discard.bind fun _ => Proc.Keeps.pure powerW

/-- The steps up of a correction. -/
theorem boostLoop (h : PulseRules N J) (bus : Bus) (stop top : Int) (budget : Nat) :
    ∀ vin inc, Proc.Keeps N J (boostLoop bus stop top budget vin inc) := by
  induction budget with
  | zero => exact fun _ _ => Proc.Keeps.pure _
  | succ budget ih =>
      intro vin inc
      refine Proc.Keeps.ite (fun _ => ?_) fun _ => Proc.Keeps.pure inc
      refine (h.inc bus _).attempt.bind fun result => ?_
      cases result with
      | error _ => exact Proc.Keeps.pure inc
      | ok _ => exact Proc.Keeps.ite (fun _ => Proc.Keeps.pure _) fun _ => ih _ _

/-- The steps down of a correction. -/
theorem trimLoop (h : PulseRules N J) (bus : Bus) (stop floor : Int) (budget : Nat) :
    ∀ vin dec, Proc.Keeps N J (trimLoop bus stop floor budget vin dec) := by
  induction budget with
  | zero => exact fun _ _ => Proc.Keeps.pure _
  | succ budget ih =>
      intro vin dec
      refine Proc.Keeps.ite (fun _ => ?_) fun _ => Proc.Keeps.pure dec
      refine (h.dec bus _).attempt.bind fun result => ?_
      cases result with
      | error _ => exact Proc.Keeps.pure dec
      | ok _ => exact ih _ _

/-- The steps tried on a plain charging port. -/
theorem dcpRaise (h : PulseRules N J) (bus : Bus) (target : Int) (budget : Nat) :
    ∀ vin, Proc.Keeps N J (dcpRaise bus target budget vin) := by
  induction budget with
  | zero => exact fun _ => Proc.Keeps.pure _
  | succ budget ih =>
      intro vin
      refine Proc.Keeps.get.bind fun st => ?_
      refine Proc.Keeps.ite (fun _ => Proc.Keeps.pure vin) fun _ => ?_
      refine (h.inc bus _).attempt.bind fun result => ?_
      cases result with
      | error _ => exact Proc.Keeps.pure vin
      | ok _ => exact h.readVin.bind fun vin => ih vin

/-! ### Bus corrections -/

/-- A correction upwards opens a bus and steps. -/
theorem boostVinForPump (h : PulseRules N J) (usbinId : Option Nat) (vinUv : Int)
    (vbatUv : Nat) : Proc.Keeps N J (boostVinForPump usbinId vinUv vbatUv) :=
  Proc.Keeps.ite (fun _ => Proc.Keeps.pure 0) fun _ =>
    h.onFirstBus usbinId (fun bus => h.boostLoop bus _ _ _ _ _) 0

/-- A correction downwards opens a bus and steps. -/
theorem trimVinForPump (h : PulseRules N J) (usbinId : Option Nat) (vinUv : Int)
    (vbatUv : Nat) : Proc.Keeps N J (trimVinForPump usbinId vinUv vbatUv) :=
  Proc.Keeps.ite (fun _ => Proc.Keeps.pure 0) fun _ =>
    h.onFirstBus usbinId (fun bus => h.trimLoop bus _ _ _ _ _) 0

/-- One step down on the first bus there is. -/
theorem oneDecPulse (h : PulseRules N J) (usbinId : Option Nat) :
    Proc.Keeps N J (oneDecPulse usbinId) := by
  refine h.onFirstBus usbinId (fun bus => (h.dec bus _).attempt.bind fun result => ?_) 0
  cases result with
  | ok _ => exact Proc.Keeps.pure 1
  | error _ => exact Proc.Keeps.pure 0

/-- A correction is a trim, a boost, or one step down. -/
theorem nudgeVinIntoWindow (h : PulseRules N J) (usbinId : Option Nat) (vinUv : Int)
    (vbatUv : Nat) (deadCurrent : Bool) :
    Proc.Keeps N J (nudgeVinIntoWindow usbinId vinUv vbatUv deadCurrent) := by
  refine Proc.Keeps.get.bind fun st => Proc.Keeps.ite (fun _ => Proc.Keeps.pure 0) fun _ => ?_
  refine Proc.Keeps.ite (fun _ => Proc.Keeps.pure 0) fun _ => ?_
  refine Proc.Keeps.ite (fun _ => h.trimVinForPump usbinId vinUv vbatUv) fun _ => ?_
  refine Proc.Keeps.ite (fun _ => h.boostVinForPump usbinId vinUv vbatUv) fun _ => ?_
  exact Proc.Keeps.ite (fun _ => h.oneDecPulse usbinId) fun _ => Proc.Keeps.pure 0

/-! ### Elevation -/

/-- The raise by pulses asks for the return to 5 V, which a failed pulse leads to. -/
theorem elevateQc3 (h : PulseRules N J) (bus : Bus)
    (hforce : Proc.Keeps N J (safeForce5v bus)) (vbatUv : Nat) :
    Proc.Keeps N J (elevateQc3 bus vbatUv) := by
  -- the raising loop, by induction on the pulses wanted
  have hraise : ∀ target ceiling want vin,
      Proc.Keeps N J (qc3Raise bus target ceiling want vin) := by
    intro target ceiling want
    induction want with
    | zero => exact fun _ => Proc.Keeps.pure ()
    | succ want ih =>
        intro vin
        refine Proc.Keeps.get.bind fun st => ?_
        refine Proc.Keeps.ite (fun _ => Proc.Keeps.pure ()) fun _ => ?_
        refine (h.inc bus _).attempt.bind fun result => ?_
        cases result with
        | error err =>
            -- a pulse that fails sends the bus back to 5 V
            exact (h.setPhase _).bind fun _ => hforce.bind fun _ => Proc.Keeps.fail err
        | ok _ =>
            refine h.readVin.bind fun vin => ?_
            exact Proc.Keeps.ite (fun _ => Proc.Keeps.pure ()) fun _ => ih vin
  refine (h.setPhase _).bind fun _ => (h.attemptQc35Authenticate bus).discard.bind fun _ => ?_
  refine (h.setPhase _).bind fun _ => h.readVin.bind fun vin => ?_
  exact hraise _ _ _ vin

end PulseRules

/-! ### The negotiation -/

/-- A negotiation over an open bus: the start leads to `Z`, which the detection keeps, and
every way to raise the adapter leads from `Z` to `Q`. -/
theorem negotiateOnBus_wp {Z Q : HvdcpState → N.State → Prop} (hz : HvdcpRules N Z)
    (hq : HvdcpRules N Q) (hZQ : ∀ st m, Z st m → Q st m) {bus : Bus} {vbatUv : Nat}
    (hqc3 : ∀ st m, Z st m → (elevateQc3 bus vbatUv).wp N (fun _ st' m' => Q st' m') st m)
    (hqc2 : ∀ st m, Z st m → (requestForce9v bus).wp N (fun _ st' m' => Q st' m') st m)
    (hdcp : ∀ st m, Z st m → (elevateDcp bus vbatUv).wp N (fun _ st' m' => Q st' m') st m)
    {st : HvdcpState} {m : N.State}
    (hstart : (clearUsbinLatched bus).wp N (fun _ st' m' => Z st' m')
      { st with pulseCnt := 0 } m) :
    (negotiateOnBus bus vbatUv).wp N (fun _ st' m' => Q st' m') st m := by
  -- until the path is chosen the invariant is `Z`, and each path leads on to `Q`
  have hraise : ∀ path st m, Z st m →
      (raiseAdapter bus vbatUv path).wp N (fun _ st' m' => Q st' m') st m := by
    intro path st m hs
    cases path with
    | qc3Pulse => exact hqc3 st m hs
    | force9v =>
        refine (Proc.wp_get_bind st m _ _).2 (Proc.wp_ite (fun _ => ?_) fun _ => ?_)
        · exact hqc2 st m hs
        · exact hdcp st m hs
    | reject =>
        have hreject : Proc.Keeps N Z (raiseAdapter bus vbatUv .reject) :=
          (hz.setPhase _).bind fun _ => Proc.Keeps.fail _
        exact Proc.wp_mono (hreject.run st m hs) fun _ => hZQ
  rw [negotiateOnBus_eq]
  refine (Proc.wp_modify_bind st m _ _ _).2 ((Proc.wp_bind _ _ _ _ _).2 ?_)
  refine Proc.wp_mono hstart ?_
  rintro (e | _) st m hs
  · exact hZQ st m hs
  rw [Proc.thenWp_ok]
  refine (hz.detectAdapter bus).wp_bind hs (fun path st m hs => ?_) fun _ => hZQ
  refine (Proc.wp_bind _ _ _ _ _).2 (Proc.wp_mono (hraise path st m hs) ?_)
  rintro (e | _) st m hs
  · exact hs
  · exact (hq.finishNegotiation bus).run st m hs

/-- A full negotiation leads from `J` to `Q`: opening a transport keeps `J`, which is enough
where none opens. -/
theorem runNegotiate_wp {Q : HvdcpState → N.State → Prop} (hj : HvdcpRules N J)
    (hJQ : ∀ st m, J st m → Q st m) {usbinId : Option Nat} {vbatUv : Nat}
    (hbus : ∀ bus st m, J st m →
      (negotiateOnBus bus vbatUv).wp N (fun _ st' m' => Q st' m') st m)
    {st : HvdcpState} {m : N.State} (hs : J st m) :
    (runNegotiate usbinId vbatUv).wp N (fun _ st' m' => Q st' m') st m := by
  rw [runNegotiate_eq]
  exact (hj.openBus usbinId).wp_bind hs hbus fun _ => hJQ

end Kmdf
