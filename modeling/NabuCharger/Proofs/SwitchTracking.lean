import NabuCharger.Proofs.BypassGate

/-!
# `Proofs.SwitchTracking`: `Switching` and the operating mode

The session keeps two names for what the switch does: `state`, which a confirmed 2:1 sets
to `Switching`, and `opMode`, the mode commanded or observed last. They part when an
operation leaves 2:1 and does not rename the state: `standby` and a failed charge start
request another mode, and `status` may find the chip in one.

`watch` reads off the exchanges of an operation the mode it requested last and the mode it
requested or saw last. `Lands` says what the session and the monitor agree on when an
operation ends, and `pumpOp_lands` proves it of every operation. `tracks_run` is the
consequence for whole runs.
-/

set_option autoImplicit false

namespace Ln8000

open Effectful

/-- `Switching` names a session whose mode is 2:1. -/
def Tracks (pump : Pump) : Prop := pump.state = .switching → pump.opMode = .switching

/-! ### The monitor -/

/-- What an operation has shown of the mode. -/
structure ModeWatch where
  /-- The mode requested last. -/
  requested : OpMode
  /-- The mode requested or read last. -/
  shown : OpMode
  /-- `SYS_STS` as read last. -/
  sysSts : Option Byte
  /-- The soft reset went out. -/
  reset : Bool
  deriving DecidableEq, Repr

/-- The monitor after an exchange. A status pass reads `SYS_STS` and then `SAFETY_STS`. -/
def ModeWatch.next (m : ModeWatch) : (o : BusOp) → BusEffect.Resp o → ModeWatch
  | .mark (.request target), _ => { m with requested := target, shown := target }
  | .read addr, .ok value =>
      if addr = Regs.sysSts then { m with sysSts := some value }
      else if addr = Regs.safetySts then
        { m with shown := (m.sysSts.map OpMode.fromSysSts).getD m.shown }
      else m
  | .write addr _, .ok _ => if addr = Regs.bcOp2 then { m with reset := true } else m
  | _, _ => m

/-- Nothing is asked of the operation or of the bus. -/
def watch : Machine BusEffect where
  State := ModeWatch
  allow _ _ _ := True
  require _ _ := True
  next := ModeWatch.next

/-- The operation finds the switch in 2:1. -/
def ModeWatch.start : ModeWatch where
  requested := .switching
  shown := .switching
  sysSts := none
  reset := false

/-- The operation ends with 2:1, with a 1:1 that was requested and seen, or has reset the
chip. -/
def ModeWatch.Named (m : ModeWatch) : Prop :=
  m.reset = true ∨ m.shown = .switching ∨ (m.requested = .bypass ∧ m.shown = .bypass)

instance (m : ModeWatch) : Decidable m.Named :=
  inferInstanceAs (Decidable (_ ∨ _ ∨ (_ ∧ _)))

/-- What the exchanges of an operation have shown. -/
def shownBy (t : List (Event BusEffect)) : ModeWatch := watch.after ModeWatch.start t

/-- The operations that request or read a mode and leave the naming of the state to its
confirmation. -/
def PumpOp.modal : PumpOp → Bool
  | .enableSwitching | .enableBypass | .enableSwitchingOrBypass | .standby | .status => true
  | .setCharging on => on
  | _ => false

/-- An operation of the log that finds the session in `Switching` and may leave 2:1 ends
with a mode that names the state. -/
def NamesMode (entry : Entry BusEffect Pump PumpOp) : Prop :=
  entry.start.state = .switching → entry.op.modal = true → (shownBy entry.trace).Named

instance (entry : Entry BusEffect Pump PumpOp) : Decidable (NamesMode entry) :=
  inferInstanceAs (Decidable (_ → _ → _))

/-! ### What the steps do to the monitor -/

/-- Every step meets the monitor. What is left is what it does to the invariant. -/
theorem opKeeps_watch {I : Pump → ModeWatch → Prop} {o : BusOp}
    (h : ∀ p m r, I p m → I p (ModeWatch.next m o r)) : OpKeeps watch I o :=
  fun p m hI => ⟨trivial, fun r _ => h p m r hI⟩

/-- An invariant of the session alone. -/
theorem opKeeps_session {K : Pump → Prop} (o : BusOp) : OpKeeps watch (fun p _ => K p) o :=
  opKeeps_watch fun _ _ _ h => h

/-- Nothing but a read of `SYS_STS` or `SAFETY_STS`, a request and a reset is noticed. -/
theorem ModeWatch.next_write {addr : RegAddr} (haddr : addr ≠ Regs.bcOp2) (m : ModeWatch)
    (value : Byte) (r : BusEffect.Resp (.write addr value)) :
    m.next (.write addr value) r = m := by
  cases r with
  | ok _ => simp only [next, if_neg haddr]
  | error err => rfl

/-- A read of another register changes the status byte seen, at most. -/
theorem ModeWatch.next_read {addr : RegAddr} (haddr : addr ≠ Regs.safetySts) (m : ModeWatch)
    (r : BusEffect.Resp (.read addr)) :
    ∃ seen, m.next (.read addr) r = { m with sysSts := seen } := by
  cases r with
  | error err => exact ⟨m.sysSts, rfl⟩
  | ok value =>
      by_cases hsys : addr = Regs.sysSts
      · exact ⟨some value, by simp only [next, if_pos hsys]⟩
      · exact ⟨m.sysSts, by simp only [next, if_neg hsys, if_neg haddr]⟩

/-- A read of the safety register changes the mode shown, at most. -/
theorem ModeWatch.next_safety (m : ModeWatch) (r : BusEffect.Resp (.read Regs.safetySts)) :
    ∃ mode, m.next (.read Regs.safetySts) r = { m with shown := mode } := by
  cases r with
  | error err => exact ⟨m.shown, rfl⟩
  | ok value => exact ⟨_, rfl⟩

/-- What survives a transfer and does not read `SYS_STS` is settled. -/
theorem settled_watch {I : Pump → ModeWatch → Prop}
    (hframe : ∀ (p p' : Pump) m, p.Transfers p' → I p m → I p' m)
    (hsys : ∀ p m seen, I p m → I p { m with sysSts := seen }) : Settled watch I where
  frame := hframe
  reset := opKeeps_watch fun _ _ _ h => h
  read addr haddr := opKeeps_watch fun p m r h => by
    obtain ⟨seen, hnext⟩ := m.next_read haddr r
    rw [hnext]
    exact hsys p m seen h
  delay := opKeeps_watch fun _ _ _ h => h
  write addr haddr value := opKeeps_watch fun p m r h => by
    rw [ModeWatch.next_write (ne_bcOp2 haddr)]
    exact h
  pair _ _ := opKeeps_watch fun _ _ r h => by cases r <;> exact h

/-- The `Vin` sample is not noticed, and neither is a write outside `BC_OP_2`. -/
theorem vinPair_watch (I : Pump → ModeWatch → Prop) :
    OpKeeps watch I (.readPair AdcChannel.vin.register) :=
  opKeeps_watch fun _ _ r h => by cases r <;> exact h

/-- A write of another register than the reset register is not watched. -/
theorem write_watch (I : Pump → ModeWatch → Prop) {addr : RegAddr} (haddr : addr ≠ Regs.bcOp2)
    (value : Byte) : OpKeeps watch I (.write addr value) :=
  opKeeps_watch fun p m r h => by
    rw [ModeWatch.next_write haddr]
    exact h

/-! ### What is known along an operation -/

/-- No reset has gone out, and `Switching` is what the operation found (`k`). -/
def Unreset (k : Prop) (p : Pump) (m : ModeWatch) : Prop :=
  m.reset = false ∧ (p.state = .switching → k)

/-- In `Switching`, the mode of the session is the one shown last, and it is not a 1:1 that
was asked for. -/
def Shows (k : Prop) (p : Pump) (m : ModeWatch) : Prop :=
  Unreset k p m ∧ (p.state = .switching →
    p.opMode = m.shown ∧ ¬(m.requested = .bypass ∧ m.shown = .bypass))

/-- How an operation ends: in `Switching` only with 2:1, or with the mode shown last. -/
def Lands (k : Prop) (p : Pump) (m : ModeWatch) : Prop :=
  p.state = .switching → p.opMode = .switching ∨
    (k ∧ m.reset = false ∧ p.opMode = m.shown ∧ ¬(m.requested = .bypass ∧ m.shown = .bypass))

/-- The session is not in `Switching`. -/
def Idle (p : Pump) : Prop := p.state ≠ .switching

section
variable {k : Prop} {p p' : Pump} {m : ModeWatch}

/-- A transfer never leads into `Switching`. -/
theorem Pump.Transfers.switching (h : p.Transfers p') (hstate : p'.state = .switching) :
    p.state = .switching := by
  rcases h.state with hsame | hfaulted
  · exact hsame ▸ hstate
  · rw [hfaulted] at hstate
    cases hstate

/-- A session that is down is not in `Switching`. -/
theorem Pump.Down.idle (h : p.Down) : Idle p := by
  rcases h with h | h <;> rw [Idle, h] <;> decide

/-- Outside `Switching` nothing has to be shown. -/
theorem Shows.of_idle (h : Unreset k p m) (hidle : Idle p) : Shows k p m :=
  ⟨h, fun hstate => absurd hstate hidle⟩

/-- Outside `Switching` every end is allowed. -/
theorem Lands.of_idle (hidle : Idle p) : Lands k p m := fun hstate => absurd hstate hidle

/-- A mode that agrees with the one shown last is an allowed end. -/
theorem Shows.lands (h : Shows k p m) : Lands k p m := fun hstate =>
  Or.inr ⟨h.1.2 hstate, h.1.1, (h.2 hstate).1, (h.2 hstate).2⟩

/-- A session that tracks is at an allowed end. -/
theorem Tracks.lands (h : Tracks p) : Lands k p m := fun hstate => Or.inl (h hstate)

/-- A session that was not in `Switching` when the operation began tracks the mode. -/
theorem Lands.tracks_of_not (h : Lands k p m) (hk : ¬k) : Tracks p := by
  intro hstate
  rcases h hstate with hmode | ⟨hfound, -⟩
  · exact hmode
  · exact absurd hfound hk

/-- So does one whose operation ended with a mode that names the state. -/
theorem Lands.tracks_of_named (h : Lands k p m) (hnamed : m.Named) : Tracks p := by
  intro hstate
  rcases h hstate with hmode | ⟨-, hreset, hshown, hnot⟩
  · exact hmode
  · rcases hnamed with hsent | hswitching | hbypass
    · rw [hreset] at hsent
      cases hsent
    · exact hshown.trans hswitching
    · exact absurd hbypass hnot

/-- Without a reset, a property blind to the status byte survives every settled exchange. -/
theorem settled_unreset (P : ModeWatch → Prop) (hP : ∀ m seen, P m → P { m with sysSts := seen }) :
    Settled watch fun p m => Unreset k p m ∧ P m :=
  settled_watch (fun _ _ _ ht h => ⟨⟨h.1.1, fun hstate => h.1.2 (ht.switching hstate)⟩, h.2⟩)
    fun _ m seen h => ⟨h.1, hP m seen h.2⟩

/-- Settled exchanges leave the agreement. -/
theorem settled_shows : Settled watch (Shows k) := by
  refine settled_watch (fun p p' m ht h => ?_) fun _ _ _ h => h
  refine ⟨⟨h.1.1, fun hstate => h.1.2 (ht.switching hstate)⟩, fun hstate => ?_⟩
  rw [ht.opMode]
  exact h.2 (ht.switching hstate)

/-- Settled exchanges leave a session tracking. -/
theorem settled_tracks : Settled watch fun p _ => Tracks p := by
  refine settled_watch (fun p p' m ht h hstate => ?_) fun _ _ _ h => h
  rw [ht.opMode]
  exact h (ht.switching hstate)

/-- Outside `Switching`, moving between the other modes stays outside it. -/
theorem modes_idle : Modes watch fun p _ => Idle p where
  toSettled := settled_watch (fun _ _ _ ht h hstate => h (ht.switching hstate)) fun _ _ _ h => h
  safety := opKeeps_session _
  opMode _ _ _ h := h
  configured _ _ _ := nofun
  probed _ _ _ := nofun
  bypassStage _ _ _ h := h

/-- Nothing is known. -/
theorem modes_any : Modes watch fun _ _ => True where
  toSettled := settled_watch (fun _ _ _ _ h => h) fun _ _ _ h => h
  safety := opKeeps_session _
  opMode _ _ _ h := h
  configured _ _ h := h
  probed _ _ h := h
  bypassStage _ _ _ h := h

end

section
variable [LoopFuel] {k : Prop}

/-- The fault-register updates keep what settled exchanges keep. -/
theorem faults_watch {I : Pump → ModeWatch → Prop} (c : Settled watch I) : FaultRules watch I :=
  FaultRules.of_write c.toSteady fun _ => write_watch I (by decide) _

/-- The current taper keeps what settled exchanges keep. -/
theorem taper_watch {I : Pump → ModeWatch → Prop} (c : Settled watch I) : TaperRules watch I where
  vinPair := vinPair_watch I
  taper _ _ _ _ _ _ :=
    writeIinLimit_keeps c.toSteady fun _ _ _ => write_watch I (by decide) _

/-! ### Status passes and mode requests -/

/-- Reading the safety register shows the mode of the status byte read before. -/
theorem safety_watch {r : OpMode} {sysSts : Byte} {p : Pump} {m : ModeWatch}
    (h : Unreset k p m ∧ m.requested = r) (hsts : m.sysSts = some sysSts) :
    (read Regs.safetySts).wp watch (fun outcome p' m' => (Unreset k p' m' ∧ m'.requested = r) ∧
      (∀ value, outcome = .ok value → m'.shown = OpMode.fromSysSts sysSts) ∧
      ∀ err, outcome = .error err → p'.state = .faulted) p m := by
  have hretries : Retries watch fun p m =>
      (Unreset k p m ∧ m.requested = r) ∧ m.sysSts = some sysSts :=
    { frame := fun _ _ _ ht h =>
        ⟨⟨⟨h.1.1.1, fun hstate => h.1.1.2 (ht.switching hstate)⟩, h.1.2⟩, h.2⟩
      reset := opKeeps_watch fun _ _ _ h => h }
  -- the mode shown is the one of the status byte read before it
  have hread : OpKeeps watch (fun p m => (Unreset k p m ∧ m.requested = r) ∧
      m.sysSts = some sysSts) (.read Regs.safetySts) := by
    refine opKeeps_watch fun p m r h => ?_
    obtain ⟨mode, hnext⟩ := m.next_safety r
    rw [hnext]
    exact h
  refine Proc.wp_mono (read_wp hretries hread
    (S := fun _ m => m.shown = OpMode.fromSysSts sysSts) ?_ ⟨h, hsts⟩) ?_
  · intro _ m value h _
    show ((m.sysSts.map OpMode.fromSysSts).getD m.shown) = _
    rw [h.2]
    rfl
  · exact fun _ _ _ h' => ⟨h'.1.1, h'.2.1, h'.2.2⟩

/-- How a status pass ends: its mode is in the session and in the exchanges, or the session
is down. -/
inductive Passed (k : Prop) (r : OpMode) : Except PumpError Status → Pump → ModeWatch → Prop
  | ok {p : Pump} {m : ModeWatch} {st : Status} (h : Unreset k p m ∧ m.requested = r)
      (hmode : p.opMode = st.opMode) (hshown : m.shown = st.opMode) : Passed k r (.ok st) p m
  | error {p : Pump} {m : ModeWatch} {err : PumpError}
      (h : Unreset k p m ∧ m.requested = r) (hdown : p.Down) : Passed k r (.error err) p m

/-- A status that comes back carries the mode shown last. -/
theorem status_watch {r : OpMode} {p : Pump} {m : ModeWatch}
    (h : Unreset k p m ∧ m.requested = r) : status.wp watch (Passed k r) p m := by
  have hplain := settled_unreset (k := k) (fun m => m.requested = r) fun _ _ h => h
  refine ensureOpen_faults.wp_bind h ?_ fun _ _ _ h' hdown => .error h' hdown
  intro _ p m h
  have hsys := read_wp hplain.toRetries (hplain.read Regs.sysSts (by decide))
    (S := fun value m => m.sysSts = some value) (fun _ _ _ _ _ => rfl) h
  refine (Proc.wp_bind p m _ _ _).2 (Proc.wp_mono hsys ?_)
  rintro outcome p m ⟨h, hsts, hfaulted⟩
  cases outcome with
  | error err => exact .error h (Or.inl (hfaulted err rfl))
  | ok sysSts =>
      refine (Proc.wp_bind p m _ _ _).2 (Proc.wp_mono (safety_watch h (hsts sysSts rfl)) ?_)
      rintro outcome p m ⟨h, hshown, hfaulted⟩
      cases outcome with
      | error err => exact .error h (Or.inl (hfaulted err rfl))
      | ok safetySts =>
          -- the three reads that are left are not noticed
          have hseen := settled_unreset (k := k)
            (fun m => m.requested = r ∧ m.shown = OpMode.fromSysSts sysSts) fun _ _ h => h
          have hread := fun addr (haddr : addr ≠ Regs.safetySts) =>
            read_faults hseen.toRetries (hseen.read addr haddr)
          refine (hread Regs.fault1Sts (by decide)).wp_bind ⟨h.1, h.2, hshown _ rfl⟩ ?_
            fun _ _ _ h' hdown => .error ⟨h'.1, h'.2.1⟩ hdown
          intro fault1Sts p m h
          refine (hread Regs.fault2Sts (by decide)).wp_bind h ?_
            fun _ _ _ h' hdown => .error ⟨h'.1, h'.2.1⟩ hdown
          intro fault2Sts p m h
          refine (hread Regs.ldoSts (by decide)).wp_bind h ?_
            fun _ _ _ h' hdown => .error ⟨h'.1, h'.2.1⟩ hdown
          rintro ldoSts p m ⟨h, hrequested, hshown⟩
          refine (Proc.wp_modify_bind _ _ _ _ _).2 ((Proc.wp_pure _ _ _ _).2 ?_)
          exact .ok ⟨h, hrequested⟩ rfl hshown

/-- Every poll of the settling loop is a status, and the last one counts. The induction is on the
polls. -/
theorem settleLoop_watch {r : OpMode} :
    ∀ n last p m, (Unreset k p m ∧ m.requested = r) →
      p.opMode = last.opMode ∧ m.shown = last.opMode →
      (settleLoop n last).wp watch (Passed k r) p m := by
  intro n
  -- induction on the polls left: each status is the last one known
  induction n with
  | zero =>
      intro last p m h hlast
      exact (Proc.wp_pure (M := watch) (Passed k r) p m last).2 (.ok h hlast.1 hlast.2)
  | succ n ih =>
      intro last p m h _
      refine (Proc.wp_bind p m _ _ _).2 (Proc.wp_mono (status_watch h) ?_)
      intro outcome p m hpass
      cases hpass with
      | error h hdown => exact .error h hdown
      | @ok _ _ st h hmode hshown =>
          refine (Proc.thenWp_ok _ _ _ _ _).2 ?_
          -- a status that shows a mode ends the loop
          by_cases hseen : st.opMode ≠ .unknown ∧ st.opMode ≠ .standby
          · rw [if_pos hseen]
            exact (Proc.wp_pure (M := watch) (Passed k r) p m st).2 (.ok h hmode hshown)
          · rw [if_neg hseen]
            exact ih st p m h ⟨hmode, hshown⟩

/-- Settling ends with a status, or outside `Switching`. -/
theorem settle_watch {r : OpMode} {p : Pump} {m : ModeWatch}
    (h : Unreset k p m ∧ m.requested = r) :
    settleAndReadStatus.wp watch (Passed k r) p m := by
  refine (Proc.wp_bind p m _ _ _).2 (Proc.wp_mono (status_watch h) ?_)
  intro outcome p m hpass
  cases hpass with
  | error h hdown => exact .error h hdown
  | ok h hmode hshown => exact settleLoop_watch 3 _ p m h ⟨hmode, hshown⟩

/-- A request shows its mode, unless it leaves the session down. -/
theorem setOpMode_watch {target : OpMode} {bits : Byte} (hbits : target.sysCtrlBits = .ok bits)
    {p : Pump} {m : ModeWatch} (h : Unreset k p m) :
    (setOpMode target).wp watch (fun outcome p' m' => Unreset k p' m' ∧
      (outcome = .ok () → p'.opMode = target ∧ m'.shown = target ∧ m'.requested = target) ∧
      ∀ err, outcome = .error err → p'.Down) p m := by
  refine ensureOpen_faults.wp_bind (I := Unreset k) h ?_ fun _ _ _ h' hdown =>
    ⟨h', fun heq => (nomatch heq), fun _ _ => hdown⟩
  intro _ p m h
  refine (Proc.wp_bind p m _ _ _).2 ((Proc.wp_ofExcept _ p m _).2 ?_)
  rw [hbits]
  refine (Proc.thenWp_ok _ _ _ _ _).2 ((Proc.wp_bind _ _ _ _ _).2 ((mark_wp _ _ p m).2 ?_))
  refine ⟨trivial, fun r _ => (Proc.thenWp_ok _ _ _ _ _).2 ?_⟩
  have hasked := settled_unreset (k := k)
    (fun m => m.requested = target ∧ m.shown = target) fun _ _ h => h
  have hupdate : Faults watch
      (fun p m => Unreset k p m ∧ m.requested = target ∧ m.shown = target)
      (update Regs.sysCtrl OpMode.sysCtrlMask bits "op_mode") :=
    update_faults hasked.toSteady (by decide) fun _ => write_watch _ (by decide) _
  -- the mode is taken over after the write; a write that fails leaves the session faulted
  refine hupdate.wp_bind ⟨h, rfl, rfl⟩ ?_ fun _ _ _ h' hdown =>
    ⟨h'.1, fun heq => (nomatch heq), fun _ _ => hdown⟩
  rintro _ p m ⟨h, hrequested, hshown⟩
  refine (Proc.wp_modify p m _ _).2 ?_
  exact ⟨h, fun _ => ⟨rfl, hshown, hrequested⟩, fun _ heq => nomatch heq⟩

/-! ### Confirmed modes -/

/-- How a confirmed request ends: in its mode, or as `Shows` says. -/
inductive Confirmed (k : Prop) (wanted : OpMode) (reached : PumpState) :
    Except PumpError OpMode → Pump → ModeWatch → Prop
  | ok {p : Pump} {m : ModeWatch} (hmode : p.opMode = wanted) (hstate : p.state = reached) :
      Confirmed k wanted reached (.ok wanted) p m
  | error {p : Pump} {m : ModeWatch} {err : PumpError} (h : Shows k p m) :
      Confirmed k wanted reached (.error err) p m

/-- Confirming a mode ends in the state of that mode only if the mode is shown. -/
theorem confirmMode_watch {wanted : OpMode} {reached : PumpState} {p : Pump} {m : ModeWatch}
    (h : Unreset k p m ∧ m.requested = wanted) :
    (confirmMode wanted reached).wp watch (Confirmed k wanted reached) p m := by
  refine (Proc.wp_bind p m _ _ _).2 (Proc.wp_mono (settle_watch h) ?_)
  intro outcome p m hpass
  cases hpass with
  | error h hdown => exact .error (Shows.of_idle h.1 hdown.idle)
  | @ok _ _ st h hmode hshown =>
      refine (Proc.thenWp_ok _ _ _ _ _).2 ?_
      by_cases hwanted : st.opMode = wanted
      · rw [if_neg (not_not.2 hwanted)]
        refine (Proc.wp_modify_bind _ _ _ _ _).2 ((Proc.wp_pure _ _ _ _).2 ?_)
        subst hwanted
        exact .ok hmode rfl
      · -- the chip shows another mode than the one asked for, and so does the session
        rw [if_pos hwanted]
        refine (Proc.wp_fail _ p m _).2 (.error ⟨h.1, fun _ => ⟨hmode.trans hshown.symm, ?_⟩⟩)
        rintro ⟨hrequested, hbypass⟩
        exact hwanted ((hshown.symm.trans hbypass).trans (hrequested.symm.trans h.2))

/-- A request and its confirmation. -/
theorem enterMode_watch {target : OpMode} {bits : Byte} (hbits : target.sysCtrlBits = .ok bits)
    {reached : PumpState} {p : Pump} {m : ModeWatch} (h : Unreset k p m) :
    (setOpMode target >>= fun _ => confirmMode target reached).wp watch
      (Confirmed k target reached) p m := by
  refine (Proc.wp_bind p m _ _ _).2 (Proc.wp_mono (setOpMode_watch hbits h) ?_)
  rintro outcome p m ⟨h, hasked, hdown⟩
  cases outcome with
  | error err => exact .error (Shows.of_idle h (hdown err rfl).idle)
  | ok _ => exact confirmMode_watch ⟨h, (hasked rfl).2.2⟩

/-- Enabling 2:1 ends in `Switching` only with 2:1 shown. -/
theorem enableSwitching_watch {p : Pump} {m : ModeWatch} (h : Unreset k p m) :
    enableSwitching.wp watch (Confirmed k .switching .switching) p m :=
  enterMode_watch rfl h

/-- Enabling 1:1 does not end in `Switching`, unless it found it and asked nothing. -/
theorem enableBypass_watch {p : Pump} {m : ModeWatch} (h : Shows k p m) :
    enableBypass.wp watch (Confirmed k .bypass .configured) p m := by
  refine (readAdc_keeps settled_shows (vinPair_watch _)).wp_bind h ?_ fun _ _ _ h' => .error h'
  intro vin p m h
  refine (readAdcUv_keeps settled_shows (settled_shows.pair .vbat (by decide))).wp_bind h ?_
    fun _ _ _ h' => .error h'
  intro vbat p m h
  by_cases hallowed : (!bypassAllowedByVin vin vbat) = true
  · rw [if_pos hallowed]
    exact (Proc.wp_fail (M := watch) (Confirmed k .bypass .configured) p m _).2 (.error h)
  · rw [if_neg hallowed]
    exact enterMode_watch rfl h.1

/-- Either way of enabling lands. -/
theorem enableSwitchingOrBypass_watch {p : Pump} {m : ModeWatch} (h : Shows k p m) :
    enableSwitchingOrBypass.wp watch (fun _ p' m' => Lands k p' m') p m := by
  refine (Proc.wp_attempt_bind p m _ _ _).2 (Proc.wp_mono (enableSwitching_watch h.1) ?_)
  intro first p m hfirst
  cases hfirst with
  | ok hmode _ => exact (Proc.wp_pure _ p m _).2 fun _ => Or.inl hmode
  -- 2:1 was refused: the fallback names its own mode
  | error h =>
      refine (Proc.wp_attempt_bind p m _ _ _).2 (Proc.wp_mono (enableBypass_watch h) ?_)
      intro second p m hsecond
      cases hsecond with
      | ok _ hstate =>
          refine (Proc.wp_pure _ p m _).2 (Lands.of_idle ?_)
          rw [Idle, hstate]
          decide
      | error h => exact (Proc.wp_fail _ p m _).2 h.lands

/-- A request of standby shows it. -/
theorem standby_watch : Proc.Keeps watch (Shows k) (setOpMode .standby) := by
  have hbits : OpMode.standby.sysCtrlBits = .ok Regs.sysCtrlStandbyEn := rfl
  refine ⟨fun p m h => Proc.wp_mono (setOpMode_watch hbits h.1) ?_⟩
  rintro outcome p m ⟨h, hasked, hdown⟩
  cases outcome with
  | error err => exact Shows.of_idle h (hdown err rfl).idle
  | ok _ =>
      obtain ⟨hmode, hshown, hrequested⟩ := hasked rfl
      refine ⟨h, fun _ => ⟨hmode.trans hshown.symm, ?_⟩⟩
      rintro ⟨hbypass, -⟩
      rw [hrequested] at hbypass
      cases hbypass

/-- A standby request whose outcome is dropped keeps the agreement. -/
theorem standby_discard_watch :
    Proc.Keeps watch (Shows k) (Proc.discard (setOpMode .standby) : PumpM Unit) :=
  standby_watch.discard

/-! ### Reset and recovery -/

/-- A soft reset leaves `Switching`: it reaches its end, or a write has failed for good. -/
theorem softReset_watch (p : Pump) (m : ModeWatch) :
    softReset.wp watch (fun _ p' _ => Idle p') p m := by
  have hwrite : ∀ addr value, Faults watch (fun _ _ => True) (write addr value) :=
    fun _ _ => write_faults modes_any.toRetries (opKeeps_session _)
  have hread := read_keeps modes_any.toSteady (by decide : Regs.bcOp2 ≠ Regs.safetySts)
  refine (hwrite _ _).wp_bind trivial ?_ fun _ _ _ _ hdown => hdown.idle
  intro _ p m _
  refine (Proc.wp_unwrapOr_bind p m _ _ _ _).2 (Proc.wp_mono (hread.run p m trivial) ?_)
  intro current p m _
  refine (hwrite _ _).wp_bind trivial ?_ fun _ _ _ _ hdown => hdown.idle
  intro _ p m _
  exact (Proc.wp_modify p m _ _).2 nofun

/-- A 1:1 request does not lead into `Switching`. -/
theorem bypass_idle : Proc.Keeps watch (fun p _ => Idle p) (setOpMode .bypass) :=
  setOpMode_keeps modes_idle (opKeeps_session _) fun _ _ _ => opKeeps_session _

/-- The recovery of a configured session does not lead into `Switching`. -/
theorem recoverConfigured_idle : Proc.Keeps watch (fun p _ => Idle p) recoverConfigured := by
  have htaper := taper_watch modes_idle.toSettled
  refine recoverConfigured_keeps modes_idle htaper (configure_keeps modes_idle ?_)
    (recoverClean_keeps modes_idle htaper (fun _ => opKeeps_session _) bypass_idle)
  exact
    { toFaultRules := faults_watch modes_idle.toSettled
      began := opKeeps_session _
      ended := opKeeps_session _
      adc := fun _ => opKeeps_session _
      limit := fun _ _ _ _ _ _ => opKeeps_session _
      reverse := fun _ => update_keeps modes_idle.toSteady (by decide) fun _ => opKeeps_session _
      standby :=
        setOpMode_keeps modes_idle (opKeeps_session _) fun _ _ _ => opKeeps_session _ }

/-- A full recovery ends outside `Switching`, from wherever it started. -/
theorem resetAndRecover_watch (p : Pump) (m : ModeWatch) :
    resetAndRecover.wp watch (fun _ p' _ => Idle p') p m := by
  refine (Proc.wp_discard_bind _ _ softReset _ _).2 ?_
  refine Proc.wp_mono (softReset_watch p m) fun _ p m hidle => ?_
  have hrest : Proc.Keeps watch (fun p _ => Idle p) (do
      Proc.modify fun p => { p with bypassStage := 2 }
      postResetDelay
      recoverConfigured : PumpM OpMode) := by
    refine Proc.Keeps.bind (Proc.Keeps.modify fun _ _ h => by exact h) fun _ => ?_
    exact (OpKeeps.perform (opKeeps_session _)).bind fun _ => recoverConfigured_idle
  exact hrest.run p m hidle

/-- The 5 V recovery lands. -/
theorem recover5vBypass_watch {p : Pump} {m : ModeWatch} (h : Shows k p m) :
    recover5vBypass.wp watch (fun _ p' m' => Lands k p' m') p m := by
  refine (readAdcUv_keeps settled_shows (vinPair_watch _)).wp_bind h ?_ fun _ _ _ h' => h'.lands
  intro vinNow p m h
  refine (checkPorBudget_keeps settled_shows.toSteady vinNow).wp_bind h ?_
    fun _ _ _ h' => h'.lands
  intro _ p m _
  refine (Proc.wp_modify_bind _ _ _ _ _).2 (Proc.wp_mono (resetAndRecover_watch _ m) ?_)
  exact fun _ _ _ hidle => Lands.of_idle hidle

/-! ### Charge start -/

/-- A mode request that fails lands, and keeps the agreement unless it asked for 1:1. -/
theorem requestMode_watch {want : OpMode} {p : Pump} {m : ModeWatch} (h : Shows k p m) :
    (requestMode want).wp watch (fun outcome p' m' =>
      ∀ err, outcome = .error err → Lands k p' m' ∧ (want ≠ .bypass → Shows k p' m')) p m := by
  -- only 2:1 and 1:1 are requested, and only a failed 1:1 comes to the recovery
  cases want with
  | unknown =>
      refine (Proc.wp_fail _ _ _ _).2 ?_
      exact fun _ _ => ⟨h.lands, fun _ => h⟩
  | standby =>
      refine (Proc.wp_fail _ _ _ _).2 ?_
      exact fun _ _ => ⟨h.lands, fun _ => h⟩
  | switching =>
      refine Proc.wp_mono (enableSwitching_watch h.1) fun outcome p m hfirst err herr => ?_
      cases hfirst with
      | ok _ _ => cases herr
      | error h => exact ⟨h.lands, fun _ => h⟩
  | bypass =>
      refine (Proc.wp_modify_bind _ _ _ _ _).2 ?_
      refine (Proc.wp_attempt_bind _ _ enableBypass _ _).2 ?_
      refine Proc.wp_mono (enableBypass_watch (p := { p with bypassStage := 1 }) h) ?_
      intro first p m hfirst
      cases hfirst with
      | ok _ _ => exact (Proc.wp_pure _ p m _).2 fun _ herr => nomatch herr
      | error h =>
          refine Proc.wp_mono (recover5vBypass_watch h) fun _ p m hlands _ _ => ?_
          exact ⟨hlands, fun hnot => absurd rfl hnot⟩

/-- A charge start lands: its request may fail, and the recoveries land. -/
theorem startCharging_watch {want : OpMode} {p : Pump} {m : ModeWatch} (h : Shows k p m) :
    (startCharging want).wp watch (fun _ p' m' => Lands k p' m') p m := by
  have c : Settled watch (Shows k) := settled_shows
  refine (Proc.wp_get_bind _ _ _ _).2 ?_
  have hwatchdog : Proc.Keeps watch (Shows k)
      (Proc.discard (update Regs.timerCtrl (bit 7) 0 "watchdog_force_off") : PumpM Unit) :=
    (c.update (by decide) _ _ _).discard
  refine (Proc.Keeps.when fun _ => hwatchdog).wp_bind h ?_ fun _ _ _ h' => h'.lands
  intro _ p m h
  refine (Proc.wp_modify_bind _ _ _ _ _).2 ?_
  have hprepare := prepareElevated_keeps c (taper_watch c) (faults_watch c) want
  refine (Proc.Keeps.when fun _ => hprepare).wp_bind (Q := fun _ p' m' => Lands k p' m')
    (s := { p with bypassStage := 0 }) h ?_ fun _ _ _ h' => h'.lands
  intro _ p m h
  refine (Proc.wp_attempt_bind p m _ _ _).2 (Proc.wp_mono (requestMode_watch h) ?_)
  intro result p m hresult
  cases result with
  | ok mode =>
      refine (Proc.wp_modify_bind _ _ _ _ _).2 ?_
      have hnear :=
        prepareNearFloatForCharge_keeps settled_tracks (taper_watch settled_tracks) false
        nofun
      refine (Proc.Keeps.when fun _ => hnear).wp_bind ?_
        (fun _ p m htracks => (Proc.wp_pure _ p m _).2 (Tracks.lands htracks))
        fun _ _ _ htracks => Tracks.lands htracks
      -- the state is named after the mode
      intro hstate
      by_cases hmode : mode = .switching
      · exact hmode
      · rw [if_neg hmode] at hstate
        cases hstate
  | error err =>
      obtain ⟨hlands, hshows⟩ := hresult err rfl
      cases hwant : want != .bypass with
      | false => exact (Proc.wp_fail _ p m _).2 hlands
      | true =>
          refine standby_discard_watch.wp_bind (hshows ?_) ?_
            fun _ _ _ h' => h'.lands
          · simpa using hwant
          · exact fun _ p m h => (Proc.wp_fail _ p m _).2 h.lands

/-- A charge start judged from the samples lands. -/
theorem chargeFromSamples_watch {p : Pump} {m : ModeWatch} (h : Shows k p m) :
    chargeFromSamples.wp watch (fun _ p' m' => Lands k p' m') p m := by
  have c : Settled watch (Shows k) := settled_shows
  refine ((readAdc_keeps c (vinPair_watch _)).unwrapOr 0).wp_bind h ?_ fun _ _ _ h' => h'.lands
  intro vin p m h
  refine (readAdcUv_keeps c (c.pair .vbat (by decide))).wp_bind h ?_ fun _ _ _ h' => h'.lands
  intro vbat p m h
  cases chargeMode vin vbat with
  | some want => exact startCharging_watch h
  | none =>
      refine standby_discard_watch.wp_bind h ?_ fun _ _ _ h' => h'.lands
      exact fun _ p m h => (Proc.wp_fail _ p m _).2 h.lands

/-- The reverse-current step notices nothing. -/
theorem reverse_watch {I : Pump → ModeWatch → Prop} (c : Settled watch I) (field : String) :
    Proc.Keeps watch I (update Regs.sysCtrl (bit 2) 0 field) :=
  update_keeps c.toSteady (by decide) fun _ => write_watch I (by decide) _

/-- Switching the charging on lands. -/
theorem setCharging_on_watch {p : Pump} {m : ModeWatch} (h : Shows k p m) :
    (setCharging true).wp watch (fun _ p' m' => Lands k p' m') p m := by
  refine (reverse_watch settled_shows _).wp_bind h ?_ fun _ _ _ h' => h'.lands
  exact fun _ p m h => chargeFromSamples_watch h

/-! ### Operations that rename the state -/

/-- A standby request that fails leaves the session faulted. -/
theorem setOpMode_standby_any : Faults watch (fun _ _ => True) (setOpMode .standby) :=
  setOpMode_faults modes_any rfl (opKeeps_session _) fun _ => opKeeps_session _

/-- Stopping ends with a session that tracks. -/
theorem stopCharging_tracks (p : Pump) (m : ModeWatch) :
    stopCharging.wp watch (fun _ p' _ => Tracks p') p m := by
  refine (Proc.wp_modify_bind _ _ _ _ _).2 ?_
  refine setOpMode_standby_any.wp_bind trivial ?_
    fun _ _ _ _ hdown hstate => absurd hstate hdown.idle
  intro _ p m _
  refine (settleAndReadStatus_faults modes_any).wp_bind trivial ?_
    fun _ _ _ _ hdown hstate => absurd hstate hdown.idle
  intro st p m _
  exact (Proc.wp_modify_bind _ _ _ _ _).2 ((Proc.wp_pure _ _ m _).2 nofun)

/-- The steps of the set-up keep a session tracking. -/
theorem setup_tracks : SetupRules watch fun p _ => Tracks p where
  toFaultRules := faults_watch settled_tracks
  reverse := reverse_watch settled_tracks
  adc _ := opKeeps_session _
  limit _ _ _ _ _ _ := opKeeps_session _

/-- Configuration keeps a session tracking. -/
theorem configure_tracks : Proc.Keeps watch (fun p _ => Tracks p) configure := by
  have c : Settled watch fun p _ => Tracks p := settled_tracks
  refine ensureOpen_keeps.bind fun _ => (mark_keeps (opKeeps_session _)).bind fun _ => ?_
  refine (configureThresholds_keeps c setup_tracks).bind fun _ => ?_
  refine (configureProtections_keeps c setup_tracks).bind fun _ => ⟨fun p m _ => ?_⟩
  -- from the request of standby on, a failure leaves the session down and the end renames it
  refine setOpMode_standby_any.wp_bind trivial ?_
    fun _ _ _ _ hdown hstate => absurd hstate hdown.idle
  intro _ p m _
  have hvac : Faults watch (fun _ _ => True)
      (update Regs.faultCtrl (bit 4) 0 "enable_vac_ov") :=
    update_faults modes_any.toSteady (by decide) fun _ => opKeeps_session _
  refine hvac.wp_bind trivial ?_ fun _ _ _ _ hdown hstate => absurd hstate hdown.idle
  intro _ p m _
  refine (configureTimers_faults modes_any.toSettled fun _ => opKeeps_session _).wp_bind trivial ?_
    fun _ _ _ _ hdown hstate => absurd hstate hdown.idle
  intro _ p m _
  refine (Proc.wp_modify_bind _ _ _ _ _).2 ((mark_wp _ _ _ m).2 ⟨trivial, fun _ _ => ?_⟩)
  exact nofun

/-- Closing keeps a session tracking. -/
theorem close_tracks : Proc.Keeps watch (fun p _ => Tracks p) close := by
  refine close_keeps ?_ fun _ _ _ => nofun
  exact update_keeps settled_tracks.toSteady (by decide) fun _ => opKeeps_session _

/-! ### Every operation, every run -/

/-- An operation that requests or reads a mode ends as `Lands` says. -/
theorem pumpOp_lands {op : PumpOp} (hmodal : op.modal = true) {p : Pump}
    (h : Shows k p ModeWatch.start) :
    op.run.wp watch (fun _ p' m' => Lands k p' m') p ModeWatch.start := by
  cases op with
  | enableSwitching =>
      refine (Proc.wp_discard _ _ _ _).2 (Proc.wp_mono (enableSwitching_watch h.1) ?_)
      intro outcome p m hmode
      cases hmode with
      | ok hmode _ => exact fun _ => Or.inl hmode
      | error h => exact h.lands
  | enableBypass =>
      refine (Proc.wp_discard _ _ _ _).2 (Proc.wp_mono (enableBypass_watch h) ?_)
      intro outcome p m hmode
      cases hmode with
      | ok _ hstate =>
          refine Lands.of_idle ?_
          rw [Idle, hstate]
          decide
      | error h => exact h.lands
  | enableSwitchingOrBypass =>
      refine (Proc.wp_discard _ _ _ _).2 ?_
      exact enableSwitchingOrBypass_watch h
  | standby =>
      refine (Proc.wp_discard _ _ _ _).2 ?_
      exact Proc.wp_mono (standby_watch.run p _ h) fun _ _ _ h => h.lands
  | status =>
      refine (Proc.wp_discard _ _ _ _).2 (Proc.wp_mono (status_watch ⟨h.1, rfl⟩) ?_)
      intro outcome p m hpass
      cases hpass with
      | error h hdown => exact Lands.of_idle hdown.idle
      | ok h hmode hshown =>
          refine fun hstate => Or.inr ⟨h.1.2 hstate, h.1.1, hmode.trans hshown.symm, ?_⟩
          rintro ⟨hbypass, -⟩
          -- a status pass requests nothing
          have hstart : m.requested = .switching := h.2
          rw [hstart] at hbypass
          cases hbypass
  | setCharging on =>
      obtain rfl : on = true := hmodal
      refine (Proc.wp_discard _ _ _ _).2 ?_
      exact setCharging_on_watch h
  | configure | softReset | readAdc _ | close | setIinLimit _ | setVbatFloat _ => cases hmodal
  | setAdcMode _ | clearLatchedFaults | serviceWatchdog | readRegister _ => cases hmodal

/-- Every other operation keeps the names apart from nothing: what tracked, tracks. -/
theorem pumpOp_tracks {op : PumpOp} (hmodal : op.modal = false) :
    Proc.Keeps watch (fun p _ => Tracks p) op.run := by
  have c : Settled watch fun p _ => Tracks p := settled_tracks
  -- the operations that are not modal do not enter `Switching`
  cases op with
  | enableSwitching | enableBypass | enableSwitchingOrBypass | standby | status => cases hmodal
  | configure => exact configure_tracks.discard
  | setCharging on =>
      obtain rfl : on = false := hmodal
      have hstop : Proc.Keeps watch (fun p _ => Tracks p) stopCharging :=
        ⟨fun p m _ => stopCharging_tracks p m⟩
      exact Proc.Keeps.discard ((reverse_watch c _).bind fun _ => hstop)
  | softReset =>
      have hreset : Proc.Keeps watch (fun p _ => Tracks p) softReset :=
        ⟨fun p m _ => Proc.wp_mono (softReset_watch p m)
          fun _ _ _ hidle hstate => absurd hstate hidle⟩
      exact hreset.discard
  | readAdc channel => exact (readAdc_keeps c (opKeeps_session _)).discard
  | close => exact close_tracks.discard
  | setIinLimit iinUa =>
      refine (setIinLimit_keeps (writeIinLimit_keeps c.toSteady fun _ _ _ => ?_) ?_).discard
      · exact opKeeps_session _
      · exact fun _ _ h => h
  | setVbatFloat vbatUv => exact (setVbatFloat_keeps c fun _ _ h => h).discard
  | setAdcMode mode =>
      exact (setAdcMode_keeps c.toSteady fun _ => opKeeps_session _).discard
  | clearLatchedFaults => exact (clearLatchedFaults_keeps c).discard
  | serviceWatchdog => exact (serviceWatchdog_keeps c).discard
  | readRegister addr =>
      have hread : Faults watch (fun p _ => Tracks p) (readRegister addr) :=
        ensureOpen_faults.bind fun _ => read_faults c.toRetries (opKeeps_session _)
      exact hread.keeps.discard

omit [LoopFuel] in
/-- The watch assumes nothing of the bus. -/
theorem allowed_watch (t : List (Event BusEffect)) : ∀ m, watch.Allowed m t :=
  watch.allowed_of_trusting (fun _ _ _ => trivial) t

/-- Step lemma: an operation of the log keeps the names together. -/
theorem tracks_step {entry : Entry BusEffect Pump PumpOp} {out : Except PumpError Unit × Pump}
    (hstep : Prog.Yields (entry.op.run entry.start) entry.trace out) (hnames : NamesMode entry)
    (htracks : Tracks entry.start) : Tracks out.2 := by
  -- an operation that requests no mode keeps the two in step
  cases hmodal : entry.op.modal with
  | false =>
      have hkeeps := (pumpOp_tracks hmodal).run entry.start ModeWatch.start htracks
      exact Prog.Yields.post hstep hkeeps.prog (allowed_watch _ _)
  | true =>
      have hshows : Shows (entry.start.state = .switching) entry.start ModeWatch.start :=
        ⟨⟨rfl, id⟩, fun hstate => ⟨htracks hstate, by decide⟩⟩
      have hlands : Lands (entry.start.state = .switching) out.2 (shownBy entry.trace) :=
        Prog.Yields.post hstep (pumpOp_lands hmodal hshows).prog (allowed_watch _ _)
      -- started in switching the condition is asked for, otherwise not
      by_cases hstate : entry.start.state = .switching
      · exact hlands.tracks_of_named (hnames hstate hmodal)
      · exact hlands.tracks_of_not hstate

/-- Run lemma: the session tracks the mode wherever an operation begins, and at the end. -/
theorem tracks_of_run {pump pump' : Pump} {log : List (Entry BusEffect Pump PumpOp)}
    (hrun : Run PumpOp.run pump log pump') (htracks : Tracks pump)
    (hnames : ∀ entry ∈ log, NamesMode entry) :
    (∀ entry ∈ log, Tracks entry.start) ∧ Tracks pump' := by
  induction hrun with
  | done pump => exact ⟨fun entry hmem => (nomatch hmem), htracks⟩
  | @step pump pump' op t out log hstep _ ih =>
      -- the first operation leaves the pump tracking
      have hfirst : Tracks out.2 := by
        have hnamed := hnames ⟨pump, op, t⟩ (List.mem_cons_self ..)
        exact tracks_step hstep hnamed htracks
      obtain ⟨hstarts, hend⟩ := ih hfirst fun entry hmem =>
        hnames entry (List.mem_cons_of_mem _ hmem)
      refine ⟨fun entry hmem => ?_, hend⟩
      rcases List.mem_cons.1 hmem with rfl | hmem
      · exact htracks
      · exact hstarts entry hmem

omit [LoopFuel] in
/-- A session that was opened is probed. -/
theorem state_of_open {config : PumpConfig} {t : List (Event BusEffect)} {pump : Pump}
    (hopen : Prog.Yields (Pump.open config) t (.ok pump)) : pump.state = .probed := by
  cases hopen with
  | op hrest =>
      cases hrest with
      | @op _ _ r _ _ hread =>
          cases r with
          | error err => cases hread
          | ok id =>
              simp only at hread
              split at hread
              · cases hread
              · cases hread
                rfl

/-- `Switching` means 2:1, from the opening of a session on: in every run whose operations
name the mode they leave behind, the session tracks it before and after each of them. -/
theorem tracks_run {config : PumpConfig} {opened : List (Event BusEffect)} {pump pump' : Pump}
    {log : List (Entry BusEffect Pump PumpOp)}
    (hopen : Prog.Yields (Pump.open config) opened (.ok pump))
    (hrun : Run PumpOp.run pump log pump') (hnames : ∀ entry ∈ log, NamesMode entry) :
    (∀ entry ∈ log, Tracks entry.start) ∧ Tracks pump' := by
  refine tracks_of_run hrun (fun hstate => ?_) hnames
  rw [state_of_open hopen] at hstate
  cases hstate

end

/-- The session the default profile opens on the 5 V chip. -/
theorem yields_open_default : Prog.Yields (Pump.open PumpConfig.default)
    ((Pump.open PumpConfig.default).runWith Chip.answer Chip.fiveVolt).1
    (.ok (Pump.probed PumpConfig.default)) :=
  Prog.yields_runWith Chip.answer (Pump.open PumpConfig.default) Chip.fiveVolt
    (.ok (Pump.probed PumpConfig.default)) rfl

/-- The log of operations on the session that was just opened. -/
def probedLog (ops : List PumpOp) : List (Entry BusEffect Pump PumpOp) :=
  Session.execute Chip.answer (@PumpOp.run ⟨0⟩) Chip.fiveVolt (Pump.probed PumpConfig.default) ops

/-- The session it leaves. -/
def probedLeaves (ops : List PumpOp) : Option Pump :=
  Run.leaves Chip.answer (@PumpOp.run ⟨0⟩) Chip.fiveVolt (Pump.probed PumpConfig.default) ops

/-- A list of calls that leaves a pump is a run of the session. -/
theorem run_probed {ops : List PumpOp} {pump' : Pump} (hleaves : probedLeaves ops = some pump') :
    Run (@PumpOp.run ⟨0⟩) (Pump.probed PumpConfig.default) (probedLog ops) pump' :=
  Run.of_leaves _ _ _ _ _ _ hleaves

/-- 2:1, and a status pass that sees it. -/
theorem tracks_run_status : ∃ pump', probedLeaves [.enableSwitching, .status] = some pump' ∧
    (∀ entry ∈ probedLog [.enableSwitching, .status], Tracks entry.start) ∧ Tracks pump' := by
  have hsome : (probedLeaves [.enableSwitching, .status]).isSome = true := by decide +kernel
  have hnames : ∀ entry ∈ probedLog [.enableSwitching, .status], NamesMode entry := by
    decide +kernel
  obtain ⟨pump', hleaves⟩ := Option.isSome_iff_exists.1 hsome
  exact ⟨pump', hleaves,
    @tracks_run ⟨0⟩ _ _ _ _ _ yields_open_default (run_probed hleaves) hnames⟩

/-- After `standby` the session is still in `Switching`, and its mode is standby. -/
theorem not_tracks_run : ¬∀ (opened : List (Event BusEffect)) (pump pump' : Pump)
    (log : List (Entry BusEffect Pump PumpOp)),
    Prog.Yields (Pump.open PumpConfig.default) opened (.ok pump) →
    Run (@PumpOp.run ⟨0⟩) pump log pump' → Tracks pump' := by
  intro hall
  have hsome : (probedLeaves [.enableSwitching, .standby]).isSome = true := by decide +kernel
  have hstate : ∀ pump' ∈ probedLeaves [.enableSwitching, .standby],
      pump'.state = .switching ∧ pump'.opMode = .standby := by
    decide +kernel
  obtain ⟨pump', hleaves⟩ := Option.isSome_iff_exists.1 hsome
  obtain ⟨hswitching, hstandby⟩ := hstate pump' hleaves
  have htracks := hall _ _ _ _ yields_open_default (run_probed hleaves) hswitching
  rw [hstandby] at htracks
  cases htracks

end Ln8000
