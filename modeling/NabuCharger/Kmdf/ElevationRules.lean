import NabuCharger.Kmdf.HvdcpRules

/-!
# `Kmdf.ElevationRules`: when a negotiation raises the adapter, and how it gives up

A negotiation asks the PMIC what is plugged in before it moves the bus. `qualifies` are the answers
that let it: a dedicated port, QC2 or QC3 in the detection result, a QC charger in its status, or
continuous mode. `elevationGate` watches the answers and the writes of `CMD_HVDCP_2`, and asks that
none is made before such an answer.

The detection has the rule that it ends with a way to raise the adapter only if it has seen one
(`gate_detectAdapter`). From there every program keeps to the gate (`gate_raised`), and a raise that
fails ends with `FORCE_5V` (`GivesUp`).
-/

set_option autoImplicit false

namespace Kmdf

open Effectful Ln8000

/-! ### The gate -/

/-- The answer shows an adapter that may be raised. -/
def qualifies (addr : PmicAddr) (value : Byte) : Bool :=
  if addr = Pmic.apsdResult then
    decide (value &&& (Pmic.bitDcp ||| Pmic.bitQc2 ||| Pmic.bitQc3) ≠ 0)
  else if addr = Pmic.apsdStatus then decide (value &&& Pmic.bitQcCharger ≠ 0)
  else if addr = Pmic.qcChangeStatus then decide (value &&& Pmic.bitQcContinuous ≠ 0)
  else false

/-- The exchange shows an adapter that may be raised. -/
def SpmiOp.shows : (o : SpmiOp) → o.Resp → Bool
  | .superuserRead addr => fun answer => answer.any (qualifies addr)
  | .usbinTransact addr none _ => fun answer => answer.any (qualifies addr)
  | _ => fun _ => false

/-- The exchange shows an adapter that may be raised. -/
def HvdcpOp.shows : (o : HvdcpOp) → HvdcpEffect.Resp o → Bool
  | .spmi o => o.shows
  | .readVin => fun _ => false

/-- What an operation writes to `CMD_HVDCP_2`. -/
def HvdcpOp.stepWrite? : HvdcpOp → Option Byte
  | .spmi o => o.write?.bind fun write => if write.1 = Pmic.cmdHvdcp2 then some write.2 else none
  | .readVin => none

/-- What the gate has watched. -/
structure Elevation where
  /-- An answer has shown an adapter that may be raised. -/
  shown : Bool
  /-- The last write of `CMD_HVDCP_2`. -/
  last : Option Byte
  deriving DecidableEq, Repr

namespace Elevation

/-- Nothing yet. -/
def start : Elevation := { shown := false, last := none }

/-- An exchange shows an adapter, or steps the bus, or neither. -/
def next (m : Elevation) (o : HvdcpOp) (r : HvdcpEffect.Resp o) : Elevation where
  shown := m.shown || o.shows r
  last := o.stepWrite?.or m.last

end Elevation

/-- Asks that nothing is written to `CMD_HVDCP_2` before an answer that lets it. -/
abbrev elevationGate : Machine HvdcpEffect where
  State := Elevation
  allow _ _ _ := True
  require m o := o.stepWrite?.isSome = true → m.shown = true
  next := Elevation.next

/-- The gate assumes nothing of the answers. -/
theorem elevationGate_allowed (t : List (Event HvdcpEffect)) :
    ∀ m, elevationGate.Allowed m t := by
  induction t with
  | nil => exact fun _ => trivial
  | cons e t ih => exact fun _ => ⟨trivial, ih _⟩

/-- What has been shown was shown by an exchange. -/
theorem shown_after (t : List (Event HvdcpEffect)) : ∀ m : Elevation,
    (elevationGate.after m t).shown = true ↔
      m.shown = true ∨ ∃ e ∈ t, e.op.shows e.resp = true := by
  induction t with
  | nil =>
      intro m
      simp
  | cons e t ih =>
      intro m
      rw [Machine.after_cons, ih, List.exists_mem_cons_iff, ← or_assoc]
      exact or_congr_left (Bool.or_eq_true ..).to_iff

/-- The writes of `CMD_HVDCP_2`, in order. -/
def stepWrites (t : List (Event HvdcpEffect)) : List Byte :=
  t.flatMap fun e => (HvdcpOp.stepWrite? e.op).toList

/-- The step writes of a trace begin with that of its first exchange. -/
theorem stepWrites_cons (e : Event HvdcpEffect) (t : List (Event HvdcpEffect)) :
    stepWrites (e :: t) = (HvdcpOp.stepWrite? e.op).toList ++ stepWrites t :=
  List.flatMap_cons

/-- An option as a list has the option as its last element. -/
theorem getLast?_toList {α : Type} (o : Option α) : o.toList.getLast? = o := by
  cases o <;> rfl

/-- The last one is the one that is remembered. -/
theorem last_after (t : List (Event HvdcpEffect)) : ∀ m : Elevation,
    (elevationGate.after m t).last = (stepWrites t).getLast?.or m.last := by
  induction t with
  | nil => exact fun m => rfl
  | cons e t ih =>
      intro m
      have hnext : (elevationGate.next m e.op e.resp).last = (HvdcpOp.stepWrite? e.op).or m.last :=
        rfl
      rw [Machine.after_cons, ih, hnext, stepWrites_cons, List.getLast?_append, getLast?_toList,
        Option.or_assoc]

/-! ### Reads and writes -/

/-- A quiet operation steps nothing. -/
theorem stepWrite?_of_quiet {o : SpmiOp} (h : o.quiet = true) :
    HvdcpOp.stepWrite? (.spmi o) = none := by
  unfold SpmiOp.quiet at h
  rw [HvdcpOp.stepWrite?]
  cases hwrite : o.write? with
  | none => rfl
  | some write =>
      rw [hwrite] at h
      simp only [Bool.and_eq_true, decide_eq_true_eq] at h
      rw [Option.bind_some, if_neg h.1]

/-- Nothing was written to the step register, and under `C` the adapter may be raised. -/
abbrev Known (C : Prop) : HvdcpState → elevationGate.State → Prop :=
  fun _ m => m.last = none ∧ (C → m.shown = true)

/-- The adapter may be raised. -/
abbrev Detected : HvdcpState → elevationGate.State → Prop := fun _ m => m.shown = true

/-- An operation that steps nothing leaves what is known. -/
theorem known_spmi {C : Prop} {o : SpmiOp} (ho : HvdcpOp.stepWrite? (.spmi o) = none) :
    HvdcpKeeps elevationGate (Known C) (.spmi o) := by
  rintro st m ⟨hlast, hC⟩
  refine ⟨fun hstep => ?_, fun r _ => ⟨?_, fun hc => ?_⟩⟩
  · rw [ho] at hstep
    cases hstep
  · show ((HvdcpOp.stepWrite? (.spmi o)).or m.last) = none
    rw [ho, hlast]
    rfl
  · exact Bool.or_eq_true_iff.2 (.inl (hC hc))

/-- What is known is an invariant of the programs that move nothing. -/
theorem known_rules (C : Prop) : HvdcpRules elevationGate (Known C) :=
  .of (fun _ _ _ _ _ hm => hm) (fun _ ho => known_spmi (stepWrite?_of_quiet ho))
    fun _ _ hm => ⟨nofun, fun _ _ => ⟨hm.1, fun hc => Bool.or_eq_true_iff.2 (.inl (hm.2 hc))⟩⟩

/-- Once an adapter has been shown, the gate is open for every program. -/
theorem detected_keeps {ε α : Type} (x : Proc HvdcpEffect ε HvdcpState α) :
    Proc.Keeps elevationGate Detected x :=
  Proc.Keeps.always fun _ _ hm => ⟨fun _ => hm, fun _ _ => Bool.or_eq_true_iff.2 (.inl hm)⟩

/-- A read: the answer may show an adapter. -/
theorem gate_readReg {Q : Except HvdcpError Byte → HvdcpState → Elevation → Prop} {bus : Bus}
    {addr : PmicAddr} {st : HvdcpState} {m : Elevation}
    (h : ∀ answer : Option Byte, Q (answer.elim (.error .spmiIo) .ok) st
      { m with shown := m.shown || answer.any (qualifies addr) }) :
    (readReg bus addr).wp elevationGate Q st m := by
  -- both paths read the register, and the gate sees the same byte on either
  cases bus with
  | superuser =>
      refine (Proc.wp_perform_bind (M := elevationGate) st m (.spmi (.superuserRead addr)) _ _).2
        ⟨nofun, ?_⟩
      intro (answer : Option Byte) _
      have hanswer := h answer
      cases answer with
      | some read => exact (Proc.wp_pure _ st _ read).2 hanswer
      | none => exact (Proc.wp_fail _ st _ _).2 hanswer
  | usbin =>
      refine (Proc.wp_get_bind (M := elevationGate) st m _ _).2 ?_
      refine (Proc.wp_perform_bind (M := elevationGate) st m
        (.spmi (.usbinTransact addr none st.bigEndian)) _ _).2 ⟨nofun, ?_⟩
      intro (answer : Option Byte) _
      have hanswer := h answer
      cases answer with
      | some read => exact (Proc.wp_pure _ st _ read).2 hanswer
      | none => exact (Proc.wp_fail _ st _ _).2 hanswer

/-- A step, once an adapter has been shown. It fails with an error of the bus, if it fails. -/
theorem gate_writeStep {Q : Except HvdcpError Unit → HvdcpState → Elevation → Prop} {bus : Bus}
    {value : Byte} {st : HvdcpState} {m : Elevation} (hshown : m.shown = true)
    (h : ∀ ok : Bool, Q (if ok then .ok () else .error .spmiIo) st
      { shown := true, last := some value }) :
    (writeReg bus Pmic.cmdHvdcp2 value).wp elevationGate Q st m := by
  obtain ⟨shown, last⟩ := m
  cases hshown
  -- both paths write the step, and the gate sees the same byte on either
  cases bus with
  | superuser =>
      refine (Proc.wp_perform_bind (M := elevationGate) st ⟨true, last⟩
        (.spmi (.superuserWrite Pmic.cmdHvdcp2 value)) _ _).2 ⟨fun _ => rfl, ?_⟩
      intro (ok : Bool) _
      cases ok with
      | true => exact (Proc.wp_pure _ st _ ()).2 (h true)
      | false => exact (Proc.wp_fail _ st _ _).2 (h false)
  | usbin =>
      refine (Proc.wp_get_bind (M := elevationGate) st ⟨true, last⟩ _ _).2 ?_
      refine (Proc.wp_bind (M := elevationGate) st ⟨true, last⟩ _ _ _).2 ?_
      refine (Proc.wp_perform_bind (M := elevationGate) st ⟨true, last⟩
        (.spmi (.usbinTransact Pmic.cmdHvdcp2 (some value) st.bigEndian)) _ _).2 ⟨fun _ => rfl, ?_⟩
      intro (answer : Option Byte) _
      cases answer with
      | some read => exact (Proc.wp_pure _ st _ read).2 ((Proc.wp_pure _ st _ ()).2 (h true))
      | none => exact (Proc.wp_fail _ st _ _).2 (h false)

/-! ### What shows an adapter -/

/-- In the status, it is the flag of a Quick Charge adapter that qualifies. -/
theorem qualifies_status (value : Byte) :
    qualifies Pmic.apsdStatus value = decide (value &&& Pmic.bitQcCharger ≠ 0) := rfl
/-- In the result, it is a charging port or a flag of Quick Charge. -/
theorem qualifies_result (value : Byte) : qualifies Pmic.apsdResult value =
    decide (value &&& (Pmic.bitDcp ||| Pmic.bitQc2 ||| Pmic.bitQc3) ≠ 0) := rfl
/-- In the change status, it is the flag of the continuous mode. -/
theorem qualifies_change (value : Byte) : qualifies Pmic.qcChangeStatus value =
    decide (value &&& Pmic.bitQcContinuous ≠ 0) := rfl

/-- No bit of a union is set if and only if none of its parts is. -/
theorem and_or_eq_zero {x y z : Byte} : x &&& (y ||| z) = 0 ↔ x &&& y = 0 ∧ x &&& z = 0 := by
  rw [BitVec.and_or_distrib_left]
  exact BitVec.or_eq_zero_iff

/-- An adapter that is raised was shown. -/
theorem qualified_of_path {result status qc : Byte}
    (h : apsdElevatePath (promoteQcCharger result status)
      (decide (qc &&& Pmic.bitQcContinuous ≠ 0)) ≠ .reject) :
    (qualifies Pmic.apsdStatus status = true ∨ qualifies Pmic.apsdResult result = true) ∨
      qualifies Pmic.qcChangeStatus qc = true := by
  rw [qualifies_status, qualifies_result, qualifies_change]
  simp only [decide_eq_true_eq]
  -- With none of the bits set, the result is not promoted and every path but `reject` is closed.
  by_contra hnone
  simp only [not_or, not_not] at hnone
  obtain ⟨⟨hstatus, hresult⟩, hqc⟩ := hnone
  obtain ⟨hlow, hqc3⟩ := and_or_eq_zero.1 hresult
  obtain ⟨hdcp, hqc2⟩ := and_or_eq_zero.1 hlow
  have hsame : promoteQcCharger result status = result := if_neg fun hcharger => hcharger.1 hstatus
  apply h
  rw [hsame, hqc, apsdElevatePath, if_neg, if_neg]
  · rintro (h2 | hd)
    · exact h2 hqc2
    · exact hd hdcp
  · rintro (h3 | hcontinuous)
    · exact h3 hqc3
    · cases hcontinuous

/-! ### Failures -/

/-- A failed program has marked the machine failed, and `I` is left; a value is as `Q` says. -/
def Fails {α : Type} (I : HvdcpError → Elevation → Prop) (Q : α → HvdcpState → Elevation → Prop) :
    Except HvdcpError α → HvdcpState → Elevation → Prop
  | .ok a, st, m => Q a st m
  | .error e, st, m => st.phase = .failed ∧ I e m

/-- Nothing was written to the step register. -/
abbrev Unsent (_ : HvdcpError) (m : Elevation) : Prop := m.last = none

section
variable {α β : Type} {I : HvdcpError → Elevation → Prop}
  {Q : β → HvdcpState → Elevation → Prop} {st : HvdcpState} {m : Elevation} {C : Prop}

/-- A sequence: what follows starts where a value of the first part leaves it. -/
theorem fails_bind {P : α → HvdcpState → Elevation → Prop} {x : HvdcpM α} {f : α → HvdcpM β}
    (hx : x.wp elevationGate (Fails I P) st m)
    (hf : ∀ a st m, P a st m → (f a).wp elevationGate (Fails I Q) st m) :
    (x >>= f).wp elevationGate (Fails I Q) st m := by
  refine (Proc.wp_bind (M := elevationGate) _ _ _ _ _).2 (Proc.wp_mono hx ?_)
  intro out st m hout
  cases out with
  | ok a => exact hf a st m hout
  | error e => exact hout

/-- The phase is a note of the machine, and moves nothing. -/
theorem gate_setPhase {Q : Except HvdcpError β → HvdcpState → Elevation → Prop}
    {phase : HvdcpPhase} {f : Unit → HvdcpM β}
    (h : (f ()).wp elevationGate Q { st with phase := phase } m) :
    (setPhase phase >>= f).wp elevationGate Q st m :=
  (Proc.wp_modify_bind (M := elevationGate) st m (fun st => { st with phase := phase }) f Q).2 h

/-- A program that marks the machine failed and gives up. -/
theorem gate_fail {e : HvdcpError} (hm : I e m) :
    (do
      setPhase .failed
      Proc.fail e : HvdcpM β).wp elevationGate (Fails I Q) st m :=
  gate_setPhase ((Proc.wp_fail (M := elevationGate) _ _ m e).2 ⟨rfl, hm⟩)

/-- A program whose failure marks the machine failed. -/
theorem gate_orFailed {x : HvdcpM β} (hx : Proc.Keeps elevationGate (Known C) x)
    (hm : Known C st m) :
    (orFailed x).wp elevationGate (Fails Unsent fun _ st m => Known C st m) st m := by
  refine (Proc.wp_attempt_bind (M := elevationGate) st m x _ _).2 ?_
  refine Proc.wp_mono (hx.run st m hm) ?_
  intro out st m hm
  cases out with
  | ok value => exact (Proc.wp_pure _ st m value).2 hm
  | error e => exact gate_fail hm.1

/-! ### The detection -/

/-- A register that reads as zero qualifies no adapter. -/
theorem qualifies_zero (addr : PmicAddr) : qualifies addr 0 = false := by
  unfold qualifies
  split
  · rfl
  split
  · rfl
  split <;> rfl

/-- A read that failed counts as zero, so what is known is what the read shows. -/
theorem Known.read (hm : Known C st m) (addr : PmicAddr) (answer : Option Byte) :
    Known (C ∨ qualifies addr (answer.getD 0) = true) st
      { m with shown := m.shown || answer.any (qualifies addr) } := by
  refine ⟨hm.1, fun h => Bool.or_eq_true_iff.2 ?_⟩
  rcases h with hc | hread
  · exact .inl (hm.2 hc)
  · cases answer with
    | some read => exact .inr hread
    -- A failed read counts as zero, and zero shows nothing.
    | none =>
        rw [Option.getD_none, qualifies_zero] at hread
        cases hread

/-- What follows a read knows what it showed. -/
theorem gate_readKnown {Q : Except HvdcpError β → HvdcpState → Elevation → Prop} {bus : Bus}
    {addr : PmicAddr} {f : Byte → HvdcpM β} (hm : Known C st m)
    (hf : ∀ read m', Known (C ∨ qualifies addr read = true) st m' →
      (f read).wp elevationGate Q st m')
    (hfail : ∀ m', Known C st m' → Q (.error .spmiIo) st m') :
    (readReg bus addr >>= f).wp elevationGate Q st m := by
  refine (Proc.wp_bind (M := elevationGate) _ _ _ _ _).2 (gate_readReg fun answer => ?_)
  have hread := hm.read addr answer
  cases answer with
  | some read => exact hf read _ hread
  | none => exact hfail _ ⟨hread.1, fun hc => hread.2 (.inl hc)⟩

/-- The same of a read that counts as zero when it fails. -/
theorem gate_readOrZero {Q : Except HvdcpError β → HvdcpState → Elevation → Prop} {bus : Bus}
    {addr : PmicAddr} {f : Byte → HvdcpM β} (hm : Known C st m)
    (hf : ∀ read m', Known (C ∨ qualifies addr read = true) st m' →
      (f read).wp elevationGate Q st m') :
    (Proc.unwrapOr (readReg bus addr) 0 >>= f).wp elevationGate Q st m := by
  refine (Proc.wp_unwrapOr_bind (M := elevationGate) st m (readReg bus addr) 0 f _).2 ?_
  refine gate_readReg fun answer => ?_
  have hread := hm.read addr answer
  cases answer with
  | some read => exact hf read _ hread
  | none => exact hf 0 _ hread

/-- A pause leaves what is known. -/
theorem gate_sleepMs (ms : Nat) (hm : Known C st m) :
    (sleepMs ms : HvdcpM Unit).wp elevationGate (Fails I fun _ st m => Known C st m) st m :=
  (Proc.wp_perform (M := elevationGate) st m _ _).2
    ⟨nofun, fun _ _ => ⟨hm.1, fun hc => Bool.or_eq_true_iff.2 (.inl (hm.2 hc))⟩⟩

/-- So does the end of a suspended input. -/
theorem gate_clearUsbinSuspend (bus : Bus) (hm : Known C st m) :
    (clearUsbinSuspend bus).wp elevationGate (Fails I fun _ st m => Known C st m) st m := by
  have hread := (known_rules C).readReg bus Pmic.usbinCmdIl
  refine (Proc.wp_attempt_bind (M := elevationGate) st m _ _ _).2 ?_
  refine Proc.wp_mono (hread.run st m hm) ?_
  intro out st m hm
  cases out with
  | error e => exact (Proc.wp_pure _ st m ()).2 hm
  | ok cmdIl =>
      refine Proc.wp_ite (fun _ => ?_) fun _ => (Proc.wp_pure _ st m ()).2 hm
      have hwrite : Proc.Keeps elevationGate (Known C)
          (writeReg bus Pmic.usbinCmdIl (cmdIl &&& ~~~Pmic.bitUsbinSuspend)) :=
        (known_rules C).writeReg bus _ (by decide) (by decide)
      exact (Proc.wp_discard (M := elevationGate) st m _ _).2 (hwrite.run st m hm)

/-- What the machine keeps of the detection was shown. -/
abbrev Trusted (st : HvdcpState) (m : Elevation) : Prop :=
  qualifies Pmic.apsdStatus st.apsdStatus = true ∨ qualifies Pmic.apsdResult st.apsdResult = true →
    m.shown = true

/-- When the wait ends with a value, the detection has ended on an adapter that can be trusted. -/
theorem gate_waitApsdDone (bus : Bus) (fuel : Nat) : ∀ waited st m, Known C st m →
    (waitApsdDone bus fuel waited).wp elevationGate
      (fun out st m => Known C st m ∧ (out = .ok () → Trusted st m)) st m := by
  induction fuel with
  | zero => exact fun waited st m _ => (Proc.wp_diverge _ st m).2 trivial
  | succ fuel ih =>
      intro waited st m hm
      refine gate_readKnown hm (fun status m hm => ?_) fun m hm => ⟨hm, nofun⟩
      refine (Proc.wp_modify_bind (M := elevationGate) st m _ _ _).2 ?_
      refine Proc.wp_ite (fun _ => ?_) fun _ => ?_
      -- The detection is done: what it kept are the two answers just seen.
      · refine gate_readKnown hm (fun result m hm => ?_) fun m hm => ?_
        · refine (Proc.wp_modify _ m _ _).2 ⟨⟨hm.1, fun hc => hm.2 (.inl (.inl hc))⟩, fun _ => ?_⟩
          rintro (hstatus | hresult)
          · exact hm.2 (.inl (.inr hstatus))
          · exact hm.2 (.inr hresult)
        · exact ⟨⟨hm.1, fun hc => hm.2 (.inl hc)⟩, nofun⟩
      · have hC : Known C { st with apsdStatus := status } m := ⟨hm.1, fun hc => hm.2 (.inl hc)⟩
        refine Proc.wp_ite (fun _ => ?_) fun _ => ?_
        · exact (Proc.wp_fail _ _ m _).2 ⟨hC, nofun⟩
        · refine ((known_rules C).sleepMs _).wp_bind hC (fun _ st m hm => ih _ st m hm) ?_
          exact fun e st m hm => ⟨hm, nofun⟩

/-- What was latched before shows an adapter. -/
def ApsdBefore.Qualified (pre : ApsdBefore) : Prop :=
  (qualifies Pmic.apsdStatus pre.status = true ∨ qualifies Pmic.apsdResult pre.result = true) ∨
    qualifies Pmic.qcChangeStatus pre.qc = true

/-- A detection that is run again answers with an adapter, or fails before any step. -/
theorem gate_rerunApsd (bus : Bus) (pre : ApsdBefore) (hm : Known pre.Qualified st m) :
    (rerunApsd bus pre).wp elevationGate
      (Fails Unsent fun _ st m => Known pre.Qualified st m ∧ Trusted st m) st m := by
  have hwrite : Proc.Keeps elevationGate (Known pre.Qualified)
      (writeReg bus Pmic.cmdApsd Pmic.bitApsdRerun) :=
    (known_rules pre.Qualified).writeReg bus _ (by decide) (by decide)
  refine gate_setPhase ((Proc.wp_attempt_bind (M := elevationGate) _ m _ _ _).2 ?_)
  refine Proc.wp_mono (hwrite.run _ m hm) ?_
  intro written st m hm
  cases written with
  | error e => exact gate_fail hm.1
  | ok _ =>
      refine gate_setPhase ((Proc.wp_attempt_bind (M := elevationGate) _ m _ _ _).2 ?_)
      refine Proc.wp_mono (gate_waitApsdDone bus _ 0 _ m hm) ?_
      rintro done st m ⟨hm, htrusted⟩
      cases done with
      | error e => exact gate_fail hm.1
      | ok _ =>
          refine (Proc.wp_get_bind (M := elevationGate) st m _ _).2 ?_
          refine Proc.wp_ite (fun _ => ?_) fun _ => ?_
          -- The results of before are taken back, and they qualify if they showed an adapter.
          · exact (Proc.wp_modify st m _ _).2 ⟨hm, fun h => hm.2 (.inl h)⟩
          · exact (Proc.wp_pure _ st m ()).2 ⟨hm, htrusted rfl⟩

/-- How the adapter is raised follows from what was shown. -/
theorem gate_path {pre : ApsdBefore} (hm : Known pre.Qualified st m) (htrusted : Trusted st m) :
    (do
      Proc.modify fun st =>
        { st with apsdResult := promoteQcCharger st.apsdResult st.apsdStatus }
      let st ← Proc.get
      pure (apsdElevatePath st.apsdResult (decide (pre.qc &&& Pmic.bitQcContinuous ≠ 0))) :
        HvdcpM ApsdElevate).wp elevationGate
      (Fails Unsent fun path _ m => m.last = none ∧ (path ≠ .reject → m.shown = true)) st m := by
  refine (Proc.wp_modify_bind (M := elevationGate) st m _ _ _).2 ?_
  refine (Proc.wp_get_bind (M := elevationGate) _ m _ _).2 ?_
  refine (Proc.wp_pure (M := elevationGate) _ _ m _).2 ⟨hm.1, fun hpath => ?_⟩
  rcases qualified_of_path hpath with h | hqc
  · exact htrusted h
  · exact hm.2 (.inr hqc)

/-- The detection writes no step, and ends with a way to raise the adapter only if it has been
shown one. -/
theorem gate_detectAdapter (bus : Bus) (hm : m.last = none) :
    (detectAdapter bus).wp elevationGate
      (Fails Unsent fun path _ m => m.last = none ∧ (path ≠ .reject → m.shown = true)) st m := by
  have hclosed := (known_rules False).toHvdcpClosed
  have hstart : Known False st m := ⟨hm, False.elim⟩
  refine fails_bind (gate_clearUsbinSuspend bus hstart) fun _ st m hm => ?_
  refine fails_bind (gate_orFailed (hclosed.clearApsdCcGate bus) hm) fun _ st m hm => ?_
  refine (Proc.wp_discard_bind (M := elevationGate) st m _ _ _).2 ?_
  refine Proc.wp_mono ((hclosed.ensureIclFloor500ma bus).run st m hm) fun _ st m hm => ?_
  refine (Proc.wp_discard_bind (M := elevationGate) st m _ _ _).2 ?_
  refine Proc.wp_mono ((hclosed.ensureHvdcpVoltageGates bus).run st m hm) fun _ st m hm => ?_
  -- The three reads that show what is plugged in. Each leaves in the gate what it showed.
  refine gate_readOrZero hm fun status m hm => ?_
  refine gate_readOrZero hm fun result m hm => ?_
  refine gate_readOrZero hm fun qc m hm => ?_
  have hpre : Known (ApsdBefore.Qualified ⟨status, result, qc⟩) st m := by
    refine ⟨hm.1, ?_⟩
    rintro ((hstatus | hresult) | hqc)
    · exact hm.2 (.inl (.inl (.inr hstatus)))
    · exact hm.2 (.inl (.inr hresult))
    · exact hm.2 (.inr hqc)
  have hrules := known_rules (ApsdBefore.Qualified ⟨status, result, qc⟩)
  refine gate_setPhase (fails_bind (gate_orFailed (hrules.enableHvdcp bus) hpre) ?_)
  intro _ st m hm
  refine fails_bind (gate_sleepMs enableSettleMs hm) fun _ st m hm => ?_
  refine Proc.wp_ite (fun _ => ?_) fun _ => ?_
  · refine (Proc.wp_modify_bind (M := elevationGate) st m _ _ _).2 ?_
    exact gate_path hm fun h => hm.2 (.inl h)
  · exact fails_bind (gate_rerunApsd bus _ hm) fun _ st m hm => gate_path hm.1 hm.2

/-! ### The transport -/

/-- The input bus opens without a step. -/
theorem gate_openUsbin (usbinId : Option Nat) (hm : m.last = none) :
    (openUsbin usbinId).wp elevationGate (Fails Unsent fun _ _ m => m.last = none) st m := by
  cases usbinId with
  -- no second connection: the negotiation fails, with nothing sent
  | none =>
      refine (Proc.wp_modify_bind (M := elevationGate) st m _ _ _).2 ?_
      exact (Proc.wp_fail (M := elevationGate) _ _ m _).2 ⟨rfl, hm⟩
  | some id =>
      refine (Proc.wp_perform_bind (M := elevationGate) st m _ _ _).2 ⟨nofun, ?_⟩
      intro (ok : Bool) _
      cases ok with
      | false => exact gate_fail hm
      | true =>
          -- the probe of the byte order only reads
          have hstart : Known False st (m.next (.spmi (.usbinOpen id)) true) := ⟨hm, False.elim⟩
          have hendian := (known_rules False).resolveEndianUsbin
          refine fails_bind (gate_orFailed hendian hstart) fun _ st m hm => ?_
          refine (Proc.wp_modify_bind (M := elevationGate) st m _ _ _).2 ?_
          exact (Proc.wp_pure (M := elevationGate) _ _ m _).2 hm.1

/-- So does whichever bus there is. -/
theorem gate_openBus (usbinId : Option Nat) (hm : m.last = none) :
    (openBus usbinId).wp elevationGate (Fails Unsent fun _ _ m => m.last = none) st m := by
  -- without the grant the other bus is tried, and neither shows the gate anything
  have hgranted : ∀ (granted : Bool) st m, m.last = none → (if granted then do
        Proc.modify fun st =>
          { st with transport := .superuser, endianKnown := true, bigEndian := true }
        pure .superuser
      else openUsbin usbinId : HvdcpM Bus).wp elevationGate
        (Fails Unsent fun _ _ m => m.last = none) st m := by
    intro granted st m hm
    cases granted with
    | true =>
        refine (Proc.wp_modify_bind (M := elevationGate) st m _ _ _).2 ?_
        exact (Proc.wp_pure (M := elevationGate) _ _ m _).2 hm
    | false => exact gate_openUsbin usbinId hm
  refine (Proc.wp_modify_bind (M := elevationGate) st m _ _ _).2 ?_
  refine (Proc.wp_perform_bind (M := elevationGate) _ m _ _ _).2 ⟨nofun, ?_⟩
  intro (ok : Bool) _
  cases ok with
  | false => exact hgranted false _ _ hm
  | true =>
      refine (Proc.wp_perform_bind (M := elevationGate) _ _ _ _ _).2 ⟨nofun, ?_⟩
      exact fun granted _ => hgranted granted _ _ hm

/-! ### The raise -/

/-- A raise that gave up: no step went out, or `FORCE_5V` was the last one, after an error of the
bus. -/
abbrev GivesUp (e : HvdcpError) (m : Elevation) : Prop :=
  m.last = none ∨ m.last = some Pmic.bitForce5v ∧ e = .spmiIo

/-- A step that failed, failed with an error of the bus. -/
abbrev Stepped {α : Type} (out : Except HvdcpError α) (_ : HvdcpState) (m : Elevation) : Prop :=
  m.shown = true ∧ ∀ e, out = .error e → e = .spmiIo

/-- After an adapter was shown, a step may be sent. -/
theorem stepped_write {bus : Bus} {value : Byte} (hm : m.shown = true) :
    (writeReg bus Pmic.cmdHvdcp2 value).wp elevationGate Stepped st m := by
  refine gate_writeStep hm fun ok => ⟨rfl, fun e he => ?_⟩
  cases ok with
  | true => nomatch he
  | false => exact (Except.error.inj he).symm

/-- So may a pulse. -/
theorem stepped_pulseInc (bus : Bus) (gapMs : Nat) (hm : m.shown = true) :
    (pulseIncGap bus gapMs).wp elevationGate Stepped st m := by
  have hrest : ∀ (sent : Bool) st m, m.shown = true → (do
      Proc.when sent
        (Proc.modify fun st => { st with pulseCnt := min (satAdd 32 st.pulseCnt 1) maxPulseCnt })
      sleepMs gapMs : HvdcpM Unit).wp elevationGate Stepped st m := by
    intro sent st m hm
    have hslept : ∀ st : HvdcpState,
        (sleepMs gapMs : HvdcpM Unit).wp elevationGate Stepped st m := fun st =>
      (Proc.wp_perform (M := elevationGate) st m _ _).2
        ⟨nofun, fun _ _ => ⟨Bool.or_eq_true_iff.2 (.inl hm), nofun⟩⟩
    cases sent with
    | true => exact (Proc.wp_modify_bind (M := elevationGate) st m _ _ _).2 (hslept _)
    | false => exact hslept st
  refine (Proc.wp_bind (M := elevationGate) _ _ _ _ _).2 ?_
  refine (Proc.wp_get_bind (M := elevationGate) st m _ _).2 (Proc.wp_ite (fun _ => ?_) fun _ => ?_)
  -- On a latched bus no pulse goes out, and only the pause is left.
  · exact (Proc.wp_pure (M := elevationGate) _ st m false).2 (hrest false st m hm)
  · refine (Proc.wp_unwrapOr_bind (M := elevationGate) st m _ _ _ _).2 ?_
    refine Proc.wp_mono ((detected_keeps (readReg bus _)).run st m hm) fun _ st m hm => ?_
    refine (Proc.wp_bind (M := elevationGate) _ _ _ _ _).2 (Proc.wp_mono (stepped_write hm) ?_)
    rintro (e | _) st m ⟨hm, herror⟩
    · exact ⟨hm, herror⟩
    · exact (Proc.wp_pure (M := elevationGate) _ st m true).2 (hrest true st m hm)

/-- So may the request for 9 V. -/
theorem stepped_force9v (bus : Bus) (hm : m.shown = true) :
    (force9v bus).wp elevationGate Stepped st m := by
  refine (Proc.wp_unwrapOr_bind (M := elevationGate) st m _ _ _ _).2 ?_
  refine Proc.wp_mono ((detected_keeps (readReg bus _)).run st m hm) fun _ st m hm => ?_
  refine (Proc.wp_bind (M := elevationGate) _ _ _ _ _).2 (Proc.wp_mono (stepped_write hm) ?_)
  rintro (e | _) st m ⟨hm, herror⟩
  · exact ⟨hm, herror⟩
  · refine (Proc.wp_modify_bind (M := elevationGate) st m _ _ _).2 ?_
    exact (Proc.wp_perform (M := elevationGate) _ m _ _).2
      ⟨nofun, fun _ _ => ⟨Bool.or_eq_true_iff.2 (.inl hm), nofun⟩⟩

/-- What a raise does when a step fails. -/
theorem gate_giveUp {bus : Bus} {e : HvdcpError} (hm : m.shown = true) (he : e = .spmiIo) :
    (do
      setPhase .failed
      safeForce5v bus
      Proc.fail e : HvdcpM β).wp elevationGate (Fails GivesUp Q) st m := by
  refine gate_setPhase ((Proc.wp_bind (M := elevationGate) _ _ _ _ _).2 ?_)
  refine (Proc.wp_discard_bind (M := elevationGate) _ m _ _ _).2 (gate_writeStep hm fun _ => ?_)
  refine (Proc.wp_modify (M := elevationGate) _ _ _ _).2 ?_
  exact (Proc.wp_fail (M := elevationGate) _ _ _ e).2 ⟨rfl, .inr ⟨rfl, he⟩⟩

/-- The pulses of version 3, after the adapter was shown. -/
theorem gate_qc3Raise (bus : Bus) (target ceiling : Int) (want : Nat) : ∀ vin st m,
    m.shown = true → (qc3Raise bus target ceiling want vin).wp elevationGate
      (Fails GivesUp fun _ _ m => m.shown = true) st m := by
  induction want with
  | zero => exact fun vin st m hm => (Proc.wp_pure (M := elevationGate) _ st m ()).2 hm
  | succ want ih =>
      intro vin st m hm
      refine (Proc.wp_get_bind (M := elevationGate) st m _ _).2 ?_
      refine Proc.wp_ite (fun _ => (Proc.wp_pure (M := elevationGate) _ st m ()).2 hm) fun _ => ?_
      refine (Proc.wp_attempt_bind (M := elevationGate) st m _ _ _).2 ?_
      refine Proc.wp_mono (stepped_pulseInc bus _ hm) ?_
      rintro (e | _) st m ⟨hm, herror⟩
      -- A pulse that fails takes the adapter back to 5 V.
      · exact gate_giveUp hm (herror e rfl)
      · refine (Proc.wp_perform_bind (M := elevationGate) st m _ _ _).2 ⟨nofun, ?_⟩
        intro (vin : Int) _
        have hm : (elevationGate.next m HvdcpOp.readVin vin).shown = true :=
          Bool.or_eq_true_iff.2 (.inl hm)
        exact Proc.wp_ite (fun _ => (Proc.wp_pure (M := elevationGate) _ st _ ()).2 hm)
          fun _ => ih vin st _ hm

/-- The raise of an adapter of version 3. -/
theorem gate_elevateQc3 (bus : Bus) (vbatUv : Nat) (hm : m.shown = true) :
    (elevateQc3 bus vbatUv).wp elevationGate (Fails GivesUp fun _ _ m => m.shown = true) st m := by
  refine gate_setPhase ((Proc.wp_discard_bind (M := elevationGate) _ m _ _ _).2 ?_)
  refine Proc.wp_mono ((detected_keeps (attemptQc35Authenticate bus)).run _ m hm) ?_
  intro _ st m hm
  refine gate_setPhase ((Proc.wp_perform_bind (M := elevationGate) _ m _ _ _).2 ⟨nofun, ?_⟩)
  exact fun vin _ => gate_qc3Raise bus _ _ _ vin _ _ (Bool.or_eq_true_iff.2 (.inl hm))

/-- The request for 9 V, or the return to 5 V when it cannot be sent. -/
theorem gate_requestForce9v (bus : Bus) (hm : m.shown = true) :
    (requestForce9v bus).wp elevationGate
      (Fails GivesUp fun _ _ m => m.shown = true) st m := by
  refine gate_setPhase ((Proc.wp_attempt_bind (M := elevationGate) _ m _ _ _).2 ?_)
  refine Proc.wp_mono (stepped_force9v bus hm) ?_
  rintro (e | _) st m ⟨hm, herror⟩
  · exact gate_giveUp hm (herror e rfl)
  · exact (Proc.wp_discard (M := elevationGate) st m _ _).2
      ((detected_keeps (ensureIclAtLeast bus _)).run st m hm)

/-- Once an adapter has been shown, the program has a value or gives up. -/
abbrev Raising (x : HvdcpM α) : Prop :=
  ∀ st m, m.shown = true → x.wp elevationGate (Fails GivesUp fun _ _ m => m.shown = true) st m

/-- In front of a raising program stands any operation. -/
theorem raising_op_bind {o : HvdcpOp} {f : HvdcpEffect.Resp o → HvdcpM α}
    (hf : ∀ r, Raising (f r)) :
    Raising (Proc.perform (E := HvdcpEffect) o >>= f) :=
  fun st m hm => (Proc.wp_perform_bind (M := elevationGate) st m o f _).2
    ⟨fun _ => hm, fun r _ => hf r st _ (Bool.or_eq_true_iff.2 (.inl hm))⟩

/-- A value raises nothing. -/
theorem raising_pure (a : α) : Raising (pure a) :=
  fun st m hm => (Proc.wp_pure (M := elevationGate) _ st m a).2 hm

/-- A result that is dropped cannot fail. -/
theorem raising_discard (x : HvdcpM α) : Raising (Proc.discard x) :=
  fun st m hm => (Proc.wp_discard (M := elevationGate) st m x _).2 ((detected_keeps x).run st m hm)

/-- A sequence of two raising programs. -/
theorem raising_bind {x : HvdcpM α} {f : α → HvdcpM β} (hx : Raising x) (hf : ∀ a, Raising (f a)) :
    Raising (x >>= f) :=
  fun st m hm => fails_bind (hx st m hm) fun a st m hm => hf a st m hm

/-- The return to 5 V drops its result. -/
theorem raising_safeForce5v (bus : Bus) : Raising (safeForce5v bus) :=
  raising_bind (raising_discard _) fun _ st m hm =>
    (Proc.wp_modify (M := elevationGate) st m _ _).2 hm

/-- The wait for the rise only samples. -/
theorem raising_waitForce9vRise (fuel : Nat) : ∀ poll, Raising (waitForce9vRise fuel poll) := by
  induction fuel with
  | zero => exact fun poll st m _ => (Proc.wp_diverge (M := elevationGate) _ st m).2 trivial
  | succ fuel ih =>
      intro poll
      unfold waitForce9vRise
      cases poll.judge with
      | none => exact raising_pure _
      | some poll =>
          intro st m hm
          refine Proc.wp_ite (fun _ => raising_pure _ st m hm) fun _ => ?_
          exact raising_op_bind (fun _ => raising_op_bind (o := .readVin) fun _ => ih _) st m hm

/-- So does the confirmation of a level. -/
theorem raising_confirmHold (tries : Nat) : ∀ vin hold, Raising (confirmHold tries vin hold) := by
  induction tries with
  | zero => exact fun vin hold => raising_pure _
  | succ tries ih =>
      intro vin hold st m hm
      refine Proc.wp_ite (fun _ => raising_pure _ st m hm) fun _ => ?_
      exact raising_op_bind (fun _ => raising_op_bind (o := .readVin) fun vin => ih vin _) st m hm

/-- The pulses tried on a plain charging port. -/
theorem raising_dcpRaise (bus : Bus) (target : Int) (budget : Nat) :
    ∀ vin, Raising (dcpRaise bus target budget vin) := by
  induction budget with
  | zero => exact fun vin => raising_pure vin
  | succ budget ih =>
      intro vin st m hm
      refine (Proc.wp_get_bind (M := elevationGate) st m _ _).2 ?_
      refine Proc.wp_ite (fun _ => raising_pure vin st m hm) fun _ => ?_
      refine (Proc.wp_attempt_bind (M := elevationGate) st m _ _ _).2 ?_
      refine Proc.wp_mono ((detected_keeps (pulseInc bus)).run st m hm) fun out st m hm => ?_
      cases out with
      | error _ => exact raising_pure vin st m hm
      | ok _ => exact raising_op_bind (o := .readVin) (fun vin => ih vin) st m hm

/-- The raise of a plain charging port. -/
theorem raising_elevateDcp (bus : Bus) (vbatUv : Nat) : Raising (elevateDcp bus vbatUv) := by
  refine raising_bind (fun _ _ hm => gate_requestForce9v bus hm) fun _ => ?_
  refine raising_op_bind (o := .readVin) fun first => ?_
  refine raising_bind (raising_waitForce9vRise _ _) fun _ => ?_
  refine raising_op_bind (o := .readVin) fun after => ?_
  refine raising_bind (raising_confirmHold 4 after 0) fun held st m hm => ?_
  obtain ⟨vin, hold⟩ := held
  -- A bus that did not hold goes back to 5 V and up again by pulses.
  refine Proc.wp_ite (fun _ => ?_) fun _ => raising_pure () st m hm
  refine raising_bind (raising_safeForce5v bus) (fun _ st m hm => ?_) st m hm
  refine (Proc.wp_modify_bind (M := elevationGate) st m _ _ _).2 ?_
  refine raising_bind (raising_dcpRaise bus _ _ vin) (fun vin st m hm => ?_) _ m hm
  refine Proc.wp_ite (fun _ => ?_) fun _ => raising_discard _ st m hm
  exact raising_bind (raising_safeForce5v bus) (fun _ => raising_discard _) st m hm

/-- The raise: a rejected adapter is left alone, any other has been shown. -/
theorem gate_raiseAdapter (bus : Bus) (vbatUv : Nat) {path : ApsdElevate} (hlast : m.last = none)
    (hpath : path ≠ .reject → m.shown = true) :
    (raiseAdapter bus vbatUv path).wp elevationGate
      (Fails GivesUp fun _ _ m => m.shown = true) st m := by
  cases path with
  | qc3Pulse => exact gate_elevateQc3 bus vbatUv (hpath nofun)
  | force9v =>
      have hm := hpath nofun
      refine (Proc.wp_get_bind (M := elevationGate) st m _ _).2 ?_
      refine Proc.wp_ite (fun _ => ?_) fun _ => ?_
      · exact gate_requestForce9v bus hm
      · exact raising_elevateDcp bus vbatUv st m hm
  | reject => exact gate_fail (.inl hlast)

/-! ### The negotiation -/

/-- How a negotiation ends: done with an adapter that has been shown, or failed, with nothing sent
to the adapter or `FORCE_5V` sent last. -/
abbrev Concluded : Except HvdcpError Unit → HvdcpState → Elevation → Prop :=
  Fails GivesUp fun _ st m => st.phase = .done ∧ m.shown = true

/-- The end of a negotiation steps nothing. -/
theorem gate_finishNegotiation (bus : Bus) (hm : m.shown = true) :
    (finishNegotiation bus).wp elevationGate Concluded st m := by
  refine (Proc.wp_discard_bind (M := elevationGate) st m _ _ _).2 ?_
  refine Proc.wp_mono ((detected_keeps (sampleQcStatus bus)).run st m hm) fun _ st m hm => ?_
  exact (Proc.wp_modify (M := elevationGate) st m _ _).2 ⟨rfl, hm⟩

/-- Failures before the raise have sent nothing. -/
theorem fails_unsent {P : α → HvdcpState → Elevation → Prop} {x : HvdcpM α}
    (hx : x.wp elevationGate (Fails Unsent P) st m) :
    x.wp elevationGate (Fails GivesUp P) st m := by
  refine Proc.wp_mono hx fun out st m hout => ?_
  cases out with
  | ok a => exact hout
  | error e => exact ⟨hout.1, .inl hout.2⟩

/-- Clearing the latched interrupts steps nothing. -/
theorem gate_clearUsbinLatched (bus : Bus) (hm : m.last = none) :
    (clearUsbinLatched bus).wp elevationGate (Fails I fun _ _ m => m.last = none) st m := by
  have hwrite : Proc.Keeps elevationGate (Known False) (writeReg bus Pmic.intLatchedClr 0xFF) := by
    refine (known_rules False).toHvdcpClosed.writeReg_of bus fun o ho => ?_
    refine HvdcpKeeps.perform (known_spmi ?_)
    rw [HvdcpOp.stepWrite?, ho]
    rfl
  refine (Proc.wp_discard (M := elevationGate) st m _ _).2 ?_
  exact Proc.wp_mono (hwrite.run st m ⟨hm, False.elim⟩) fun _ _ _ hm => hm.1

/-- A negotiation keeps to the gate, and ends as it should. -/
theorem gate_runNegotiate (usbinId : Option Nat) (vbatUv : Nat) (hm : m.last = none) :
    (runNegotiate usbinId vbatUv).wp elevationGate Concluded st m := by
  rw [runNegotiate_eq]
  refine fails_bind (fails_unsent (gate_openBus usbinId hm)) fun bus st m hm => ?_
  rw [negotiateOnBus_eq]
  refine (Proc.wp_modify_bind (M := elevationGate) st m _ _ _).2 ?_
  refine fails_bind (gate_clearUsbinLatched bus hm) fun _ st m hm => ?_
  refine fails_bind (fails_unsent (gate_detectAdapter bus hm)) fun path st m hfound => ?_
  refine fails_bind (gate_raiseAdapter bus vbatUv hfound.1 hfound.2) fun _ st m hm => ?_
  exact gate_finishNegotiation bus hm

end

end Kmdf
