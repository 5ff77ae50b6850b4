import NabuCharger.Proofs.RetryLoops

/-!
# `Proofs.AdcPause`: who ends the pause of the ADC

`readAdc` pauses the conversions, reads a pair of registers and resumes the conversions, also when
the pair could not be read. Pause and resume are read-modify-writes of `TIMER_CTRL`, so two steps
of the way can fail and leave the pause in place: the verification of the pause, which returns
with the bit written, and the read the resume starts with.

`resumes_iff` finds both in the answers of the bus. The reads of `TIMER_CTRL` that were answered
tell how far the call came: the value before the pause, with the verification the value that was
written, and the value the resume started from.
-/

set_option autoImplicit false

namespace Ln8000

open Effectful

/-- The event writes `TIMER_CTRL` with the pause bit as `paused` says. -/
def Sets (paused : Bool) (e : Event BusEffect) : Prop :=
  ∃ value, e.op = BusOp.write Regs.timerCtrl value ∧
    (value &&& Regs.timerCtrlPauseAdc ≠ 0 ↔ paused = true)

/-- The values of `TIMER_CTRL` the bus answered with, in order. -/
def timerReads (t : List (Event BusEffect)) : List Byte :=
  (readAnswers Regs.timerCtrl t).filterMap Except.toOption

/-- `TIMER_CTRL` after an update of the pause bit. -/
def withPause (current : Byte) (paused : Bool) : Byte :=
  mergeBits current Regs.timerCtrlPauseAdc (if paused then Regs.timerCtrlPauseAdc else 0)

/-- The bit of the pause is set if and only if it was asked for. -/
theorem withPause_pauses (current : Byte) (paused : Bool) :
    withPause current paused &&& Regs.timerCtrlPauseAdc ≠ 0 ↔ paused = true := by
  rw [withPause, mergeBits_and_self]
  cases paused <;> decide

/-- The reads of the timer register in two traces, one after the other. -/
@[simp] theorem timerReads_append (t u : List (Event BusEffect)) :
    timerReads (t ++ u) = timerReads t ++ timerReads u := by
  rw [timerReads, readAnswers_append, List.filterMap_append]
  rfl

/-- A trace that does not touch the register has no read of it. -/
theorem timerReads_eq_nil {t : List (Event BusEffect)}
    (h : ∀ e ∈ t, e.op ≠ BusOp.read Regs.timerCtrl) : timerReads t = [] := by
  rw [timerReads, readAnswers_eq_nil h]
  rfl

variable {p p' : Pump} {t : List (Event BusEffect)}

/-- A read of `TIMER_CTRL` shows the value it returns. -/
theorem timerReads_read [LoopFuel] {r : Except PumpError Byte}
    (h : (read Regs.timerCtrl).Yields p t r p') : timerReads t = r.toOption.toList :=
  (read_tried h).values

/-- Only reads of `TIMER_CTRL` show values of it. -/
theorem Tried.timerReads {α : Type} {o : BusOp}
    {attempts : List (Event BusEffect) → List (Except BusError α)} {r : Except PumpError α}
    (h : Tried o attempts p t r p') (ho : o ≠ BusOp.read Regs.timerCtrl) :
    timerReads t = [] := by
  refine timerReads_eq_nil fun e he hread => ?_
  rcases h.ops e he with hop | hop
  · exact ho (hop.symm.trans hread)
  · rw [hop] at hread
    cases hread

/-- The event writes a register. -/
def Writes (e : Event BusEffect) : Prop := ∃ addr value, e.op = BusOp.write addr value

/-- To set the pause is to write the register. -/
theorem Sets.writes {paused : Bool} {e : Event BusEffect} (h : Sets paused e) : Writes e := by
  obtain ⟨value, hop, -⟩ := h
  exact ⟨_, value, hop⟩

/-- One write does not both set and clear the pause. -/
theorem not_sets_both {e : Event BusEffect} (hpause : Sets true e) (hresume : Sets false e) :
    False := by
  obtain ⟨value, hop, hset⟩ := hpause
  obtain ⟨other, hop', hclear⟩ := hresume
  rw [hop] at hop'
  cases hop'
  exact absurd (hclear.1 (hset.2 rfl)) (by decide)

/-- What an update of the pause bit shows. -/
structure PauseUpdate (paused : Bool) (p : Pump) (t : List (Event BusEffect))
    (r : Except PumpError Unit) (p' : Pump) : Prop where
  config : p'.config = p.config
  /-- Every write sets the bit as asked. -/
  sets : ∀ e ∈ t, Writes e → Sets paused e
  /-- The register is written exactly if it could be read. -/
  issued : timerReads t ≠ [] ↔ ∃ e ∈ t, Sets paused e
  length : (timerReads t).length ≤ if p.config.verifyWrites then 2 else 1
  /-- A success read the register, and read back what it wrote if it verifies. -/
  success : r = .ok () → ∃ current, timerReads t =
    if p.config.verifyWrites then [current, withPause current paused] else [current]

/-- Reads do not write. -/
theorem Tried.not_writes {α : Type} {addr : RegAddr}
    {attempts : List (Event BusEffect) → List (Except BusError α)} {r : Except PumpError α}
    (h : Tried (.read addr) attempts p t r p') : ∀ e ∈ t, ¬Writes e := by
  rintro e he ⟨_, _, hwrite⟩
  rcases h.ops e he with hop | hop <;> rw [hop] at hwrite <;> cases hwrite

variable [LoopFuel]

/-- The verification of a write of `TIMER_CTRL`: it reads, and succeeds on the value written. -/
theorem verifyWrite_yields {value : Byte} {field : String} {r : Except PumpError Unit}
    (h : (verifyWrite Regs.timerCtrl value field).Yields p t r p') :
    p'.config = p.config ∧ (∀ e ∈ t, ¬Writes e) ∧
      (timerReads t).length ≤ (if p.config.verifyWrites then 1 else 0) ∧
      (r = .ok () → timerReads t = if p.config.verifyWrites then [value] else []) := by
  replace h := Proc.Yields.get_bind h
  -- without verification nothing is read; with it the timer register is read back once
  cases hverify : p.config.verifyWrites with
  | false =>
      rw [hverify] at h
      obtain ⟨rfl, rfl, rfl⟩ := h.pure_cases
      exact ⟨rfl, fun e he => absurd he List.not_mem_nil, le_rfl, fun _ => rfl⟩
  | true =>
      rw [hverify] at h
      obtain ⟨t₁, t₂, back, p₁, rfl, hread, hcompare⟩ | ⟨e, rfl, hread⟩ :=
        Proc.Yields.bind_cases h
      · have hback := timerReads_read hread
        have hend : t₂ = [] ∧ p'.config = p₁.config ∧ (r = .ok () → back = value) := by
          cases hsame : (back != value) with
          | true =>
              rw [hsame] at hcompare
              obtain ⟨rfl, rfl, rfl⟩ := (Proc.Yields.modify_bind hcompare).fail_cases
              exact ⟨rfl, rfl, fun h => by cases h⟩
          | false =>
              rw [hsame] at hcompare
              obtain ⟨rfl, rfl, rfl⟩ := hcompare.pure_cases
              exact ⟨rfl, rfl, fun _ => by simpa using hsame⟩
        obtain ⟨rfl, hconfig, hr⟩ := hend
        rw [List.append_nil, hback]
        refine ⟨hconfig.trans (read_tried hread).config, (read_tried hread).not_writes, le_rfl, ?_⟩
        intro hok
        rw [← hr hok]
        rfl
      · rw [timerReads_read hread]
        exact ⟨(read_tried hread).config, (read_tried hread).not_writes, Nat.zero_le _,
          fun h => by cases h⟩

/-- An update of the pause bit. -/
theorem update_pause {paused : Bool} {field : String} {r : Except PumpError Unit}
    (h : (update Regs.timerCtrl Regs.timerCtrlPauseAdc
      (if paused then Regs.timerCtrlPauseAdc else 0) field).Yields p t r p') :
    PauseUpdate paused p t r p' := by
  obtain ⟨t₁, t', current, p₁, rfl, hread, hrest⟩ | ⟨e, rfl, hread⟩ := Proc.Yields.bind_cases h
  · have hfirst := timerReads_read hread
    have hquiet := (read_tried hread).not_writes
    -- every attempt of the write sets the bit as asked, and there is one
    have hsets : ∀ e : Event BusEffect,
        e.op = BusOp.write Regs.timerCtrl (withPause current paused) → Sets paused e :=
      fun e hop => ⟨_, hop, withPause_pauses current paused⟩
    have hwritten : ∀ {u : List (Event BusEffect)} {q q' : Pump} {r' : Except PumpError Unit},
        (write Regs.timerCtrl (withPause current paused)).Yields q u r' q' →
        timerReads u = [] ∧ (∀ e ∈ u, Writes e → Sets paused e) ∧ ∃ e ∈ u, Sets paused e := by
      intro u q q' r' hwrite
      have htried := write_tried hwrite
      refine ⟨htried.timerReads (fun h => by cases h), ?_, ?_⟩
      · rintro e he ⟨_, _, hop⟩
        rcases htried.ops e he with hown | hreset
        · exact hsets e hown
        · rw [hreset] at hop
          cases hop
      · obtain ⟨e, he, hop⟩ := htried.issued
        exact ⟨e, he, hsets e hop⟩
    have hconfig := (read_tried hread).config
    -- what follows the read: the write alone, or the write and its verification
    have hall : ∀ u, (∀ e ∈ u, Writes e → Sets paused e) → (∃ e ∈ u, Sets paused e) →
        (∀ e ∈ t₁ ++ u, Writes e → Sets paused e) ∧
          (timerReads (t₁ ++ u) ≠ [] ↔ ∃ e ∈ t₁ ++ u, Sets paused e) := by
      intro u hu hissued
      refine ⟨fun e he hwrite => ?_, iff_of_true ?_ ?_⟩
      · rcases List.mem_append.1 he with he | he
        · exact absurd hwrite (hquiet e he)
        · exact hu e he hwrite
      · rw [timerReads_append, hfirst]
        exact List.cons_ne_nil _ _
      · obtain ⟨e, he, hset⟩ := hissued
        exact ⟨e, List.mem_append_right _ he, hset⟩
    obtain ⟨t₂, t₃, _, p₂, rfl, hwrite, hverify⟩ | ⟨e, rfl, hwrite⟩ := hrest.bind_cases
    · obtain ⟨hnone, hown, e, he, hset⟩ := hwritten hwrite
      obtain ⟨hkept, hcalm, hlength, hsuccess⟩ := verifyWrite_yields hverify
      have hconfig' : p₂.config = p.config := (write_tried hwrite).config.trans hconfig
      have hreads : timerReads (t₁ ++ (t₂ ++ t₃)) = current :: timerReads t₃ := by
        rw [timerReads_append, timerReads_append, hfirst, hnone]
        rfl
      obtain ⟨hsets', hissued⟩ := hall (t₂ ++ t₃)
        (fun f hf hwrites => (List.mem_append.1 hf).elim (fun hf => hown f hf hwrites)
          fun hf => absurd hwrites (hcalm f hf))
        ⟨e, List.mem_append_left _ he, hset⟩
      rw [hconfig'] at hlength hsuccess
      refine ⟨hkept.trans hconfig', hsets', hissued, ?_, fun hok => ⟨current, ?_⟩⟩
      · rw [hreads, List.length_cons]
        split at hlength <;> simp_all
      · rw [hreads, hsuccess hok]
        split <;> rfl
    · obtain ⟨hnone, hown, hissued⟩ := hwritten hwrite
      obtain ⟨hsets', hissued'⟩ := hall t' hown hissued
      refine ⟨(write_tried hwrite).config.trans hconfig, hsets', hissued', ?_, fun h => by cases h⟩
      rw [timerReads_append, hfirst, hnone, List.append_nil]
      show 1 ≤ if p.config.verifyWrites = true then 2 else 1
      split <;> omega
  · have hnone := timerReads_read hread
    have hquiet := (read_tried hread).not_writes
    refine ⟨(read_tried hread).config, fun e he hwrite => absurd hwrite (hquiet e he), ?_, ?_,
      fun h => by cases h⟩
    · refine iff_of_false (fun h => h hnone) ?_
      rintro ⟨e, he, hset⟩
      exact hquiet e he hset.writes
    · rw [hnone]
      exact Nat.zero_le _

/-- The call asks for the end of the pause: a write clears the bit, and no later one sets it. -/
def Resumes (t : List (Event BusEffect)) : Prop :=
  ∃ before e after, t = before ++ e :: after ∧ Sets false e ∧ ∀ f ∈ after, ¬Sets true f

/-- The bus lets the call come to the resume: it answers the read before the pause, with the
verification the read-back with what was written, and the read the resume starts with. -/
def ReachesResume (verifyWrites : Bool) (t : List (Event BusEffect)) : Prop :=
  ∃ current resumed rest, timerReads t =
    if verifyWrites then current :: withPause current true :: resumed :: rest
    else current :: resumed :: rest

omit [LoopFuel] in
/-- Behind a pause, the call resumes exactly if it could read the register once more. -/
theorem resumes_append {q q' : Pump} {t₁ t₂ t₃ : List (Event BusEffect)}
    {r : Except PumpError Unit} (hpause : ∀ e ∈ t₁, Writes e → Sets true e)
    (hpair : ∀ e ∈ t₂, ¬Writes e) (hresume : PauseUpdate false q t₃ r q') :
    Resumes (t₁ ++ (t₂ ++ t₃)) ↔ timerReads t₃ ≠ [] := by
  rw [hresume.issued]
  constructor
  · -- the setting write is not one of the pause, and the pair in the middle writes nothing
    rintro ⟨before, e, after, hsplit, hset, -⟩
    have hmem : e ∈ t₁ ++ (t₂ ++ t₃) := by
      rw [hsplit]
      exact List.mem_append_right _ (List.mem_cons_self ..)
    rcases List.mem_append.1 hmem with he | he
    · exact (not_sets_both (hpause e he hset.writes) hset).elim
    · rcases List.mem_append.1 he with he | he
      · exact absurd hset.writes (hpair e he)
      · exact ⟨e, he, hset⟩
  · -- no write after it pauses the converter again, since the resume writes only set the bit
    rintro ⟨e, he, hset⟩
    obtain ⟨before, after, rfl⟩ := List.append_of_mem he
    refine ⟨t₁ ++ (t₂ ++ before), e, after, by simp only [List.append_assoc], hset, ?_⟩
    intro f hf hpauses
    have hmem : f ∈ before ++ e :: after :=
      List.mem_append_right _ (List.mem_cons_of_mem _ hf)
    exact not_sets_both hpauses (hresume.sets f hmem hpauses.writes)

omit [LoopFuel] in
/-- Whether the converter is resumed is decided behind the pause. -/
theorem reaches_append {verifyWrites : Bool} {t₁ t₂ t₃ : List (Event BusEffect)}
    (hfirst : ∃ current, timerReads t₁ =
      if verifyWrites then [current, withPause current true] else [current])
    (hsecond : timerReads t₂ = []) :
    ReachesResume verifyWrites (t₁ ++ (t₂ ++ t₃)) ↔ timerReads t₃ ≠ [] := by
  obtain ⟨current, hfirst⟩ := hfirst
  rw [ReachesResume, timerReads_append, timerReads_append, hfirst, hsecond, List.nil_append,
    List.ne_nil_iff_exists_cons]
  constructor
  · -- the second part shows no timer read, so the reads are those of the first
    rintro ⟨other, resumed, rest, hreads⟩
    refine ⟨resumed, rest, ?_⟩
    split at hreads <;> simp_all
  · rintro ⟨resumed, rest, hreads⟩
    refine ⟨current, resumed, rest, ?_⟩
    rw [hreads]
    split <;> rfl

/-- A call resumes the ADC exactly if the bus lets it come to the resume. -/
theorem resumes_iff {channel : AdcChannel} {r : Except PumpError Int}
    (h : (readAdc channel).Yields p t r p') :
    Resumes t ↔ ReachesResume p.config.verifyWrites t := by
  obtain ⟨t₁, t', _, p₁, rfl, hpause, hrest⟩ | ⟨e, rfl, hpause⟩ := Proc.Yields.bind_cases h
  · have hpaused : PauseUpdate true _ _ _ _ := update_pause hpause
    obtain ⟨t₂, t'', outcome, p₂, rfl, hpair, hrest⟩ := hrest.attempt_bind
    have htried := readPair_tried hpair
    obtain ⟨t₃, t₄, _, p₃, rfl, hdiscard, hlast⟩ | ⟨e, -, hdiscard⟩ := hrest.bind_cases
    · obtain ⟨-, resumed, hresume⟩ := hdiscard.discard_cases
      have hresumed : PauseUpdate false _ _ _ _ := update_pause hresume
      have hend : t₄ = [] := by
        cases outcome with
        | ok raw =>
            obtain ⟨rfl, -, -⟩ := Proc.Yields.pure_cases hlast
            rfl
        | error err =>
            obtain ⟨rfl, -, -⟩ := Proc.Yields.fail_cases hlast
            rfl
      subst hend
      rw [List.append_nil]
      have hpairs : ∀ e ∈ t₂, ¬Writes e := by
        rintro e he ⟨_, _, hwrite⟩
        rcases htried.ops e he with hop | hop <;> rw [hop] at hwrite <;> cases hwrite
      have hfirst := hpaused.success rfl
      exact (resumes_append hpaused.sets hpairs hresumed).trans
        (reaches_append hfirst (htried.timerReads (fun h => by cases h))).symm
    · obtain ⟨hok, -⟩ := hdiscard.discard_cases
      cases hok
  · -- the pause failed: the call returns at once
    have hpaused : PauseUpdate true _ _ _ _ := update_pause hpause
    refine iff_of_false ?_ ?_
    · rintro ⟨before, e, after, rfl, hresume, -⟩
      have hmem : e ∈ before ++ e :: after := List.mem_append_right _ (List.mem_cons_self ..)
      exact not_sets_both (hpaused.sets e hmem hresume.writes) hresume
    · rintro ⟨current, resumed, rest, hreads⟩
      have hlength := hpaused.length
      rw [hreads] at hlength
      split at hlength <;> simp at hlength

/-- If a write of the pause reached the chip, the call asks for its end. `delivered` are the
writes that reached it: a bus may deliver one and report a failure. -/
def EndsPause (delivered : Event BusEffect → Prop) (t : List (Event BusEffect)) : Prop :=
  (∃ e ∈ t, Sets true e ∧ delivered e) → Resumes t

/-- A call ends a pause that reached the chip exactly if the bus then lets it come to the
resume. -/
theorem endsPause_iff {channel : AdcChannel} {r : Except PumpError Int}
    (h : (readAdc channel).Yields p t r p') (delivered : Event BusEffect → Prop) :
    EndsPause delivered t ↔
      ((∃ e ∈ t, Sets true e ∧ delivered e) → ReachesResume p.config.verifyWrites t) :=
  imp_congr_right fun _ => resumes_iff h

omit [LoopFuel]

/-- The exchanges of a sample of the battery voltage at 5 V. -/
def sampledVbat : List (Event BusEffect) :=
  (Prog.runWith Chip.answer Chip.fiveVolt (@readAdc ⟨0⟩ .vbat Pump.configuredDefault)).1

/-- A sample the chip answers: the pause is ended. -/
theorem endsPause_sampledVbat : EndsPause (fun _ => True) sampledVbat := by
  obtain ⟨⟨r, p'⟩, hreturned⟩ : ∃ out, (Prog.runWith Chip.answer Chip.fiveVolt
      (@readAdc ⟨0⟩ .vbat Pump.configuredDefault)).2.2 = some out :=
    Option.isSome_iff_exists.1 (by decide +kernel)
  have hrun : (@readAdc ⟨0⟩ .vbat).Yields Pump.configuredDefault sampledVbat r p' :=
    Prog.yields_runWith (E := BusEffect) Chip.answer _ Chip.fiveVolt _ hreturned
  refine (@endsPause_iff _ _ _ ⟨0⟩ _ _ hrun _).2 fun _ => ?_
  exact ⟨0, 2, [0], by decide +kernel⟩

/-- A bus that answers every transfer but the third. -/
def losesThird : Nat → (o : BusEffect.Op) → BusEffect.Resp o × Nat
  | n, .read _ => (if n = 2 then .error ⟨.protocol, 0, ""⟩ else .ok 0, n + 1)
  | n, .readPair _ => (.ok 0, n + 1)
  | n, .write _ _ => (.ok (), n + 1)
  | n, .reset => (.ok (), n)
  | n, .postResetDelay => ((), n)
  | n, .mark _ => ((), n)

/-- The bus takes the pause and loses its read-back: the call returns with the ADC paused. -/
theorem not_endsPause : ¬∀ (channel : AdcChannel) (p p' : Pump) (t : List (Event BusEffect))
    (r : Except PumpError Int), (@readAdc ⟨0⟩ channel).Yields p t r p' →
    ∀ delivered : Event BusEffect → Prop,
      (∀ addr value, delivered ⟨BusOp.write addr value, .ok ()⟩) → EndsPause delivered t := by
  intro hall
  obtain ⟨⟨r, p'⟩, hreturned⟩ : ∃ out, (Prog.runWith losesThird 0
      (@readAdc ⟨0⟩ .vbat Pump.configuredDefault)).2.2 = some out :=
    Option.isSome_iff_exists.1 (by decide +kernel)
  have hrun := Prog.yields_runWith (E := BusEffect) losesThird _ 0 _ hreturned
  have hends := hall .vbat Pump.configuredDefault p' _ r hrun (fun _ => True)
    fun _ _ => trivial
  -- the pause was set, and only its read back is lost
  have hpaused : Sets true ⟨BusOp.write Regs.timerCtrl 2, .ok ()⟩ := ⟨2, rfl, by decide⟩
  obtain ⟨current, resumed, rest, hreads⟩ := (@resumes_iff _ _ _ ⟨0⟩ _ _ hrun).1
    (hends ⟨_, by exact List.mem_cons_of_mem _ (List.mem_cons_self ..), hpaused, trivial⟩)
  have hone : (timerReads (Prog.runWith losesThird 0
      (@readAdc ⟨0⟩ .vbat Pump.configuredDefault)).1).length = 1 := by decide +kernel
  rw [hreads, if_pos (show Pump.configuredDefault.config.verifyWrites = true from rfl)] at hone
  simp at hone

end Ln8000
