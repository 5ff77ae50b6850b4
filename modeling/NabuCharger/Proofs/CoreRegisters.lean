import NabuCharger.Core.RegisterRules

/-!
# `Proofs.CoreRegisters`: what a core session leaves in the chip

The configuration registers of the peripheral, followed over a session. `RegisterStep` says what a
call does to them, without transfers, retries or read-backs: `apply` makes the writes of the plan it
returns, or the first few of them if it fails, `close` sets the safe current or nothing, and every
other call leaves the registers alone.

`core_registers` is the refinement: whatever transfers fail, and whether a failed write was made or
not, a session of the core driver is a run of `RegisterStep`.
-/

set_option autoImplicit false

namespace ChargerCore

open Effectful

/-! ### The plan and its writes -/

/-- The input-current limit register, written whole. -/
def iclWrite (raw : Byte) : RegWrite := ⟨"icl", usbinCurrentLimitCfg, 0xFF, raw⟩

/-- The two override bits of the limit command, set under their mask. -/
def overrideWrite : RegWrite :=
  ⟨"override", cmdIclOverride, iclOverride ||| iclOverrideAfterApsd,
    iclOverride ||| iclOverrideAfterApsd⟩

/-- The QC 2.0 voltage field, written under its mask. -/
def qc2Write (voltage : Qc2Voltage) : RegWrite :=
  ⟨"qc2", hvdcpPulseCountMax, qc2VoltageMask, voltage.raw⟩

/-- The register writes for a policy and a limit code, in order. -/
def ChargePolicy.writes (policy : ChargePolicy) (iclRaw : Byte) : List RegWrite :=
  [iclWrite iclRaw] ++ ([overrideWrite] ++ (policy.qc2Voltage.map qc2Write).toList)

/-- The writes a plan stands for: those of its policy with the limit code it found. -/
def ChargePlan.writes (plan : ChargePlan) : List RegWrite :=
  plan.policy.writes plan.iclRaw

/-- The limit of a policy on the grid. -/
def ChargerConfig.targetUa (config : ChargerConfig) (policy : ChargePolicy) : Nat :=
  config.icl.quantizeDown (config.allowedUa policy)

/-- The plan for an adapter with a limit code. -/
def ChargerConfig.planWith (config : ChargerConfig) (adapter : AdapterType) (iclRaw : Byte) :
    ChargePlan where
  adapter := adapter
  policy := policyFor adapter config.qc35
  iclRaw := iclRaw
  appliedIclUa := config.targetUa (policyFor adapter config.qc35)

/-- The plan for an adapter. -/
def ChargerConfig.plan (config : ChargerConfig) (adapter : AdapterType) :
    Except ChargerError ChargePlan :=
  (config.icl.encode (config.targetUa (policyFor adapter config.qc35))).map
    (config.planWith adapter)

/-- The limit code a session is closed with. -/
def ChargerConfig.safeCode (config : ChargerConfig) : Except ChargerError Byte :=
  config.icl.encode (config.icl.quantizeDown config.safeIclUa)

/-- What a call does to the configuration registers. -/
inductive RegisterStep (config : ChargerConfig) (file : CoreFile) :
    Call → Except ChargerError Answer → CoreFile → Prop
  /-- A call that makes no plan can leave them alone. -/
  | kept {op : Call} {r : Except ChargerError Answer} (hplan : planOf r = none) :
      RegisterStep config file op r file
  | applied {adapter : AdapterType} {plan : ChargePlan} (hplan : config.plan adapter = .ok plan) :
      RegisterStep config file (.apply adapter) (.ok (.plan plan)) (writeAll plan.writes file)
  /-- The writes of a plan were cut short. -/
  | cut {adapter : AdapterType} {plan : ChargePlan} {err : ChargerError} {file' : CoreFile}
      (hplan : config.plan adapter = .ok plan) (hcut : Partly plan.writes file file') :
      RegisterStep config file (.apply adapter) (.error err) file'
  | closed {r : Except ChargerError Answer} {raw : Byte} (hplan : planOf r = none)
      (hraw : config.safeCode = .ok raw) :
      RegisterStep config file .close r ((iclWrite raw).write file)

/-- The calls of a session, as the configuration registers see them. -/
inductive RegisterRun (config : ChargerConfig) : CoreFile → List CoreTurn → CoreFile → Prop
  | done (file : CoreFile) : RegisterRun config file [] file
  | step {file file' file'' : CoreFile} {turn : CoreTurn} {turns : List CoreTurn} :
      RegisterStep config file turn.op turn.result file' →
      RegisterRun config file' turns file'' → RegisterRun config file (turn :: turns) file''

/-- There is a plan where the limit has a code. -/
theorem plan_cases {config : ChargerConfig} {adapter : AdapterType} {plan : ChargePlan}
    (h : config.plan adapter = .ok plan) : ∃ raw,
      config.icl.encode (config.targetUa (policyFor adapter config.qc35)) = .ok raw ∧
        plan = config.planWith adapter raw := by
  rw [ChargerConfig.plan] at h
  cases hraw : config.icl.encode (config.targetUa (policyFor adapter config.qc35)) with
  | ok raw =>
      rw [hraw] at h
      cases h
      exact ⟨raw, rfl, rfl⟩
  | error err =>
      rw [hraw] at h
      cases h

/-- The code of a plan stands for the current it names. -/
theorem decode_plan {config : ChargerConfig} {adapter : AdapterType} {plan : ChargePlan}
    (h : config.plan adapter = .ok plan) : config.icl.decode plan.iclRaw =
      config.targetUa (policyFor adapter config.qc35) := by
  have hpolicy := policyFor_iclUa_le adapter config.qc35
  -- A policy's current fits the word the grid is computed in, so nothing is cut off.
  have hword : config.allowedUa (policyFor adapter config.qc35) ≤ wordMax 32 :=
    Nat.le_trans (Nat.min_le_left _ _) (Nat.le_trans hpolicy (by decide))
  obtain ⟨raw, hraw, rfl⟩ := plan_cases h
  exact IclEncoding.decode_encode_quantizeDown hword hraw

/-! ### The registers over a run -/

/-- Writing the limit register leaves exactly the code that was written. -/
theorem iclWrite_limit (raw : Byte) (file : CoreFile) :
    (iclWrite raw).write file usbinCurrentLimitCfg = raw := by
  have hholds := (iclWrite raw).holds_write file
  rw [Effectful.Field.Holds, iclWrite, show (0xFF : Byte) = BitVec.allOnes 8 from rfl,
    BitVec.and_allOnes, BitVec.and_allOnes] at hholds
  exact hholds

/-- The writes behind that of the limit are of other registers. -/
theorem addr_ne_limit {policy : ChargePolicy} {write : RegWrite}
    (h : write ∈ [overrideWrite] ++ (policy.qc2Voltage.map qc2Write).toList) :
    write.addr ≠ usbinCurrentLimitCfg := by
  have hoverride : cmdIclOverride ≠ usbinCurrentLimitCfg := by decide
  have hvoltage : hvdcpPulseCountMax ≠ usbinCurrentLimitCfg := by decide
  -- the override write, or the write of the voltage
  rcases List.mem_append.1 h with hfirst | hsecond
  · rw [List.mem_singleton.1 hfirst]
    exact hoverride
  · cases hqc2 : policy.qc2Voltage with
    | none =>
        rw [hqc2] at hsecond
        cases hsecond
    | some voltage =>
        rw [hqc2] at hsecond
        rw [List.mem_singleton.1 hsecond]
        exact hvoltage

/-- A plan that is cut short has set its limit code or left the one before. -/
theorem limit_of_partly {policy : ChargePolicy} {raw : Byte} {file file' : CoreFile}
    (h : Partly (policy.writes raw) file file') :
    file' usbinCurrentLimitCfg = file usbinCurrentLimitCfg ∨ file' usbinCurrentLimitCfg = raw := by
  obtain ⟨made, hmade, rfl⟩ := h
  rcases List.prefix_cons_iff.1 hmade with rfl | ⟨rest, rfl, hrest⟩
  · exact .inl rfl
  · right
    rw [writeAll_cons, writeAll_of_ne fun write hwrite => addr_ne_limit (hrest.subset hwrite)]
    exact iclWrite_limit raw file

/-- The writes of a plan are of three registers, so none undoes another. -/
theorem writes_holds (policy : ChargePolicy) (raw : Byte) (file : CoreFile) :
    ∀ write ∈ policy.writes raw, write.Holds (writeAll (policy.writes raw) file) := by
  intro write hwrite
  refine holds_of_pairwise (P := fun s t => s.addr ≠ t.addr) hwrite ?_ ?_ file
  · refine List.pairwise_cons.2 ⟨fun t ht => (addr_ne_limit ht).symm, ?_⟩
    cases policy.qc2Voltage with
    | none => exact List.pairwise_singleton ..
    | some voltage =>
        refine List.pairwise_cons.2 ⟨fun t ht => ?_, List.pairwise_singleton ..⟩
        rw [List.mem_singleton.1 ht]
        exact (by decide : cmdIclOverride ≠ hvdcpPulseCountMax)
  · exact fun t _ hne haddr => absurd haddr hne

namespace RegisterRun

variable {config : ChargerConfig} {file file' : CoreFile} {turns before after : List CoreTurn}

/-- A register run over two lists of turns is a run over each, meeting at a file. -/
theorem append_cases (h : RegisterRun config file (before ++ after) file') :
    ∃ middle, RegisterRun config file before middle ∧ RegisterRun config middle after file' := by
  induction before generalizing file with
  | nil => exact ⟨file, .done file, h⟩
  | cons turn before ih =>
      cases h with
      | step hstep hrest =>
          obtain ⟨middle, hbefore, hafter⟩ := ih hrest
          exact ⟨middle, .step hstep hbefore, hafter⟩

/-- Only `apply` and `close` write. -/
theorem eq_of_others (h : RegisterRun config file turns file')
    (hothers : ∀ turn ∈ turns, turn.op ≠ .close ∧ ∀ adapter, turn.op ≠ .apply adapter) :
    file' = file := by
  induction h with
  | done file => rfl
  | @step file file' file'' turn turns hstep _ ih =>
      obtain ⟨⟨hclose, happly⟩, hrest⟩ := List.forall_mem_cons.1 hothers
      rw [ih hrest]
      generalize turn.op = op, turn.result = r at hstep hclose happly
      cases hstep with
      | kept => rfl
      | applied => exact absurd rfl (happly _)
      | cut => exact absurd rfl (happly _)
      | closed => exact absurd rfl hclose

/-- The plan an `apply` returned is in the registers until the next `apply` or `close`. -/
theorem holds {turn : CoreTurn} {plan : ChargePlan}
    (h : RegisterRun config file (before ++ turn :: after) file')
    (hplan : turn.result = .ok (.plan plan))
    (hafter : ∀ turn ∈ after, turn.op ≠ .close ∧ ∀ adapter, turn.op ≠ .apply adapter) :
    ∀ write ∈ plan.writes, write.Holds file' := by
  obtain ⟨middle, -, hrest⟩ := h.append_cases
  -- the registers after the apply are the plan's, and no later turn writes them
  cases hrest with
  | step hstep hlast =>
      rw [hlast.eq_of_others hafter]
      rw [hplan] at hstep
      generalize turn.op = op at hstep
      cases hstep with
      | kept hnone => cases hnone
      | applied => exact writes_holds plan.policy plan.iclRaw middle
      | closed hnone => cases hnone

/-- The limit is the one found, or one of a plan, or the safe one. -/
theorem limit (h : RegisterRun config file turns file') :
    file' usbinCurrentLimitCfg = file usbinCurrentLimitCfg ∨
      (∃ adapter plan, config.plan adapter = .ok plan ∧
        file' usbinCurrentLimitCfg = plan.iclRaw) ∨
      config.safeCode = .ok (file' usbinCurrentLimitCfg) := by
  induction h with
  | done file => exact .inl rfl
  | @step file file' file'' turn turns hstep _ ih =>
      rcases ih with hsame | hset
      -- The last call that wrote decides, and behind it nothing changes.
      · rw [hsame]
        generalize turn.op = op, turn.result = r at hstep
        cases hstep with
        | kept => exact .inl rfl
        | @applied adapter plan hplan =>
            rcases limit_of_partly (.all (plan.policy.writes plan.iclRaw) file) with hsame | hraw
            · exact .inl hsame
            · exact .inr (.inl ⟨adapter, plan, hplan, hraw⟩)
        | @cut adapter plan err _ hplan hcut =>
            rcases limit_of_partly hcut with hsame | hraw
            · exact .inl hsame
            · exact .inr (.inl ⟨adapter, plan, hplan, hraw⟩)
        | @closed _ raw hnone hraw =>
            rw [iclWrite_limit]
            exact .inr (.inr hraw)
      · exact .inr hset

end RegisterRun

/-! ### The driver's calls -/

namespace Charger

variable {file : CoreFile}

/-- The contents are a step of the registers away from `file`. -/
abbrev FileStep (s : Charger) (file : CoreFile) (op : Call) (r : Except ChargerError Answer)
    (_ : Charger) (S : coreFiles.State) : Prop :=
  ∀ file', S file' → RegisterStep s.config file op r file'

/-- What an `apply` that fails leaves. The failure comes before the first of the writes or among
them. -/
def CutFile (config : ChargerConfig) (adapter : AdapterType) (file file' : CoreFile) : Prop :=
  file' = file ∨ ∃ plan, config.plan adapter = .ok plan ∧ Partly plan.writes file file'

/-- What `close` leaves. -/
def ClosedFile (config : ChargerConfig) (file file' : CoreFile) : Prop :=
  file' = file ∨ ∃ raw, config.safeCode = .ok raw ∧ file' = (iclWrite raw).write file

/-- What a cut application leaves is one of the outcomes a failed application may have. -/
theorem CutFile.step {config : ChargerConfig} {adapter : AdapterType} {file' : CoreFile}
    (h : CutFile config adapter file file') (err : ChargerError) :
    RegisterStep config file (.apply adapter) (.error err) file' := by
  rcases h with rfl | ⟨plan, hplan, hcut⟩
  · exact .kept rfl
  · exact .cut hplan hcut

/-- What a close leaves is a register step of `close`, whatever it returned. -/
theorem ClosedFile.step {config : ChargerConfig} {file' : CoreFile}
    {r : Except ChargerError Answer} (h : ClosedFile config file file') (hplan : planOf r = none) :
    RegisterStep config file .close r file' := by
  rcases h with rfl | ⟨raw, hraw, rfl⟩
  · exact .kept hplan
  · exact .closed hplan hraw

/-- A call that makes no plan and leaves the registers alone. -/
theorem kept_files {α : Type} {x : ChargerM α} {f : α → Answer} {op : Call} {s : Charger}
    {S : coreFiles.State} (hx : Proc.Keeps coreFiles (Filed (· = file)) x)
    (hf : ∀ a, planOf (.ok (f a)) = none) (h : Filed (· = file) s S) :
    (x >>= fun a => pure (f a)).wp coreFiles (FileStep s file op) s S := by
  refine (Proc.wp_bind s S _ _ _).2 (Proc.wp_mono (hx.run s S h) fun r s' S' hfile => ?_)
  cases r with
  | ok a =>
      refine (Proc.wp_pure (FileStep s file op) s' S' (f a)).2 fun file' h' => ?_
      rw [hfile file' h']
      exact .kept (hf a)
  | error err =>
      intro file' h'
      rw [hfile file' h']
      exact .kept rfl

variable [LoopFuel]

/-- The application sequence makes the writes of its policy, in the order it sends them. -/
theorem applyRegisters_makes (request : Nat) (policy : ChargePolicy) (iclRaw : Byte) :
    Makes (policy.writes iclRaw) (applyRegisters request policy iclRaw) := by
  have hicl : usbinCurrentLimitCfg ∈ coreConfig := by decide
  have hoverride : cmdIclOverride ∈ coreConfig := by decide
  have hvoltage : hvdcpPulseCountMax ∈ coreConfig := by decide
  refine .bind (.orFail (.whole (iclWrite iclRaw) hicl rfl request)) fun _ => ?_
  refine .bind (.orFail (.update overrideWrite hoverride request)) fun _ => ?_
  cases policy.qc2Voltage with
  | none => exact .nothing ()
  | some voltage => exact .orFail (.update (qc2Write voltage) hvoltage request)

/-- A plan is returned when its writes have been made. -/
theorem apply_files (adapter : AdapterType) (s : Charger) (S : coreFiles.State)
    (h : Filed (· = file) s S) :
    (apply adapter).wp coreFiles (LeftFile
      (fun plan file' => s.config.plan adapter = .ok plan ∧ file' = writeAll plan.writes file)
      (CutFile s.config adapter file)) s S := by
  refine (Proc.wp_get_bind s S _ _).2 (Proc.wp_ite (fun _ => ?_) fun _ => ?_)
  · exact Leaves.fail _ (fun _ h => Or.inl h) s S h
  · refine (show Leaves (· = file) _ _ _ from ?_) s S h
    refine .behind filed_nextRequest (fun _ h => Or.inl h) fun request => ?_
    dsimp only
    rw [bounded_eq]
    -- A current without a code fails before anything is written.
    refine .behind_ofExcept (fun _ h => Or.inl h) fun iclRaw hcode => ?_
    have hplan : s.config.plan adapter = .ok (s.config.planWith adapter iclRaw) := by
      rw [ChargerConfig.plan, ChargerConfig.targetUa, hcode]
      rfl
    have hcut (file' : CoreFile) (h : Partly (s.config.planWith adapter iclRaw).writes file file') :
        CutFile s.config adapter file file' :=
      .inr ⟨_, hplan, h⟩
    have hall (file' : CoreFile)
        (h : file' = writeAll (s.config.planWith adapter iclRaw).writes file) :
        CutFile s.config adapter file file' :=
      hcut file' (h ▸ .all ..)
    refine .bind ((applyRegisters_makes request _ iclRaw file).mono (fun _ h => h)
      (fun _ _ h => h) hcut) fun _ => ?_
    -- The writes are made. What is left counts and journals.
    refine .behind (filed_modify _) hall fun _ => ?_
    refine .behind (filed_transition _) hall fun _ => ?_
    refine .behind (filed_log ..) hall fun _ => .pure _ fun file' hfile => ⟨hplan, hfile⟩

/-- The safe current, as `close` writes it. The write can fail after it was made. -/
theorem safeCurrent_files (config : ChargerConfig) (request : Nat) :
    Leaves (· = file) (do
      let raw ← Proc.ofExcept config.safeCode
      writeReg usbinCurrentLimitCfg raw request : ChargerM Unit)
      (fun _ => ClosedFile config file) (ClosedFile config file) := by
  have hicl : usbinCurrentLimitCfg ∈ coreConfig := by decide
  cases hraw : config.safeCode with
  | error err => exact Leaves.fail err fun _ h => Or.inl h
  | ok raw =>
      have hmakes := Makes.whole (iclWrite raw) hicl rfl request file
      refine hmakes.mono (fun _ h => h) (fun _ _ h => Or.inr ⟨raw, hraw, h⟩) fun file' h => ?_
      -- One write is cut short by not being made, or not at all.
      obtain ⟨made, hmade, rfl⟩ := h
      rcases List.prefix_cons_iff.1 hmade with rfl | ⟨rest, rfl, hrest⟩
      · exact .inl rfl
      · rw [List.prefix_nil.1 hrest]
        exact .inr ⟨raw, hraw, rfl⟩

/-- Closing sets the safe current, or changes nothing. -/
theorem close_files (s : Charger) (S : coreFiles.State) (h : Filed (· = file) s S) :
    close.wp coreFiles (LeftFile (fun _ => ClosedFile s.config file) (ClosedFile s.config file))
      s S := by
  refine (Proc.wp_get_bind s S _ _).2 (Proc.wp_ite (fun _ => ?_) fun _ => ?_)
  · exact Leaves.pure _ (fun _ h => Or.inl h) s S h
  · refine (show Leaves (· = file) _ _ _ from ?_) s S h
    refine .behind filed_nextRequest (fun _ h => Or.inl h) fun request => ?_
    -- The result of the write is journalled and dropped.
    refine .bind (safeCurrent_files s.config request).attempt fun written => ?_
    refine .imp (fun file' h => ?_) (.of_keeps (.bind (filed_transition _) fun _ => filed_log ..))
    cases written with
    | ok u => exact h
    | error err => exact h

/-- Every call is a step of the registers. -/
theorem run_files (op : Call) (s : Charger) (S : coreFiles.State) (h : Filed (· = file) s S) :
    op.run.wp coreFiles (FileStep s file op) s S := by
  -- the calls that only read keep the file; `apply` and `close` write what they say
  cases op with
  | detectStep => exact kept_files filed_detectStep (fun _ => rfl) h
  | monitor => exact kept_files filed_monitor (fun _ => rfl) h
  | reinit => exact kept_files (f := fun _ => .done) filed_reinit (fun _ => rfl) h
  | apply adapter =>
      refine (Proc.wp_bind s S _ _ _).2 (Proc.wp_mono (apply_files adapter s S h) ?_)
      intro r s' S' hfile
      cases r with
      | ok plan =>
          refine (Proc.wp_pure (FileStep s file _) s' S' (.plan plan)).2 fun file' h' => ?_
          obtain ⟨hplan, rfl⟩ := hfile file' h'
          exact .applied hplan
      | error err => exact fun file' h' => (hfile file' h').step err
  | close =>
      refine (Proc.wp_bind s S _ _ _).2 (Proc.wp_mono (close_files s S h) ?_)
      intro r s' S' hfile
      cases r with
      | ok u =>
          refine (Proc.wp_pure (FileStep s file _) s' S' .done).2 fun file' h' => ?_
          exact (hfile file' h').step rfl
      | error err => exact fun file' h' => (hfile file' h').step rfl

end Charger

/-! ### Sessions -/

section
variable [LoopFuel]

/-- Each core call is a register step. The split is on the call, and each case cites its settled
bus. -/
theorem register_step {op : Call} {s s' : Charger} {t : List (Event ChargerEffect)}
    {r : Except ChargerError Answer} {file file' : CoreFile} (h : op.run.Yields s t r s')
    (hserved : Served coreAnswers file t file') : RegisterStep s.config file op r file' :=
  h.everywhere (Q := fun r _ file' => RegisterStep s.config file op r file')
    (Charger.run_files op s _ fun _ hfile => hfile) hserved

/-- The calls of a session. The settings stay as they are, so every call is a step with the same
settings. -/
theorem register_calls {s s' : Charger} {turns : List CoreTurn} (h : History Call.run s turns s') :
    ∀ {file file' : CoreFile}, Served coreAnswers file (turnExchanges turns) file' →
      RegisterRun s.config file turns file' := by
  induction h with
  | done s =>
      intro file file' hserved
      cases hserved with
      | done => exact .done file
  | step hrun _ ih =>
      intro file file' hserved
      rw [turnExchanges_cons] at hserved
      obtain ⟨middle, hfirst, hrest⟩ := hserved.append_cases
      -- the rest starts from the registers the call left
      have hnext := ih hrest
      rw [(run_yields hrun).config] at hnext
      exact .step (register_step hrun hfirst) hnext

/-- Opening a session writes nothing. -/
theorem register_opening {config : ChargerConfig} {opening : List (Event ChargerEffect)}
    {s₀ : Charger} {file file' : CoreFile}
    (h : Charger.openSession.Yields (Charger.new config) opening (.ok ()) s₀)
    (hserved : Served coreAnswers file opening file') : file' = file :=
  h.everywhere (Q := fun _ _ file' => file' = file)
    (Charger.filed_openSession.run _ _ fun _ hfile => hfile) hserved

/-- What the calls of a session do, from the contents the session found. -/
theorem register_run {config : ChargerConfig} {opening : List (Event ChargerEffect)}
    {s₀ s : Charger} {turns : List CoreTurn} {file file' : CoreFile}
    (h : Reaches config opening s₀ turns s)
    (hserved : Served coreAnswers file (opening ++ turnExchanges turns) file') :
    RegisterRun config file turns file' := by
  obtain ⟨middle, hopening, hcalls⟩ := hserved.append_cases
  have hrun := register_calls h.calls hcalls
  rw [register_opening h.opened hopening, (Charger.openSession_yields h.opened).1] at hrun
  exact hrun

/-! ### Sessions on a peripheral that answers everything -/

/-- The session that opens on the peripheral and makes the calls `ops`. -/
def fileSession (file : CoreFile) (config : ChargerConfig) (ops : List Call) :
    Option (List (Event ChargerEffect) × Charger × List CoreTurn × Charger) :=
  match (Charger.openSession (Charger.new config)).runWith (E := ChargerEffect) fileAnswer file with
  | (opening, file', some (.ok (), s₀)) =>
      (History.execute (E := ChargerEffect) fileAnswer Call.run file' s₀ ops).map fun out =>
        (opening, s₀, out.1, out.2)
  | _ => none

/-- The opening of a session on the peripheral. -/
theorem opened_fileAnswer {file file' : CoreFile} {config : ChargerConfig}
    {opening : List (Event ChargerEffect)} {s₀ : Charger}
    (h : (Charger.openSession (Charger.new config)).runWith (E := ChargerEffect) fileAnswer file =
      (opening, file', some (.ok (), s₀))) :
    Charger.openSession.Yields (Charger.new config) opening (.ok ()) s₀ ∧
      Served coreAnswers file opening file' := by
  have hyields := Prog.yields_runWith (E := ChargerEffect) fileAnswer _ file _
    (congrArg (fun out => out.2.2) h)
  have hserved := Prog.served_runWith (E := ChargerEffect) coreAnswers_fileAnswer
    (Charger.openSession (Charger.new config)) file
  rw [h] at hyields hserved
  exact ⟨hyields, hserved⟩

/-- A session computed on a register file is a session whose answers the file gave. -/
theorem served_fileSession {file : CoreFile} {config : ChargerConfig} {ops : List Call}
    {opening : List (Event ChargerEffect)} {s₀ s : Charger} {turns : List CoreTurn}
    (h : fileSession file config ops = some (opening, s₀, turns, s)) :
    Reaches config opening s₀ turns s ∧
      ∃ file', Served (E := ChargerEffect) coreAnswers file (opening ++ turnExchanges turns)
        file' := by
  rw [fileSession] at h
  split at h
  · -- the opening succeeded, and the calls start from the file it left
    rename_i opened file₁ s₁ hopen
    obtain ⟨⟨turns, s⟩, hrun, heq⟩ := Option.map_eq_some_iff.1 h
    cases heq
    obtain ⟨hyields, hfirst⟩ := opened_fileAnswer hopen
    obtain ⟨file', hserved⟩ := History.served_execute (E := ChargerEffect) coreAnswers_fileAnswer
      _ _ _ _ _ _ hrun
    exact ⟨⟨hyields, History.of_execute _ _ _ _ _ _ _ hrun⟩, file', hfirst.append hserved⟩
  · cases h

/-! ### What a session leaves in the chip -/

/-- Whatever transfers fail, a session does to the configuration registers what its calls say: a
plan that `apply` returns is in the chip, an `apply` that fails has made the first few writes of
its plan at most, `close` sets the safe current or changes nothing, and no other call touches them.
So a plan that was returned is in force until the next `apply` or `close`. The peripheral may make
a write and report a failure. -/
theorem core_registers {config : ChargerConfig} {opening : List (Event ChargerEffect)}
    {s₀ s : Charger} {turns : List CoreTurn} {file file' : CoreFile}
    (h : Reaches config opening s₀ turns s)
    (hserved : Served coreAnswers file (opening ++ turnExchanges turns) file') :
    RegisterRun config file turns file' ∧
    ∀ before turn after plan, turns = before ++ turn :: after →
      turn.result = .ok (.plan plan) →
      (∀ later ∈ after, later.op ≠ .close ∧ ∀ adapter, later.op ≠ .apply adapter) →
        ∀ write ∈ plan.writes, write.Holds file' := by
  have hrun := register_run h hserved
  refine ⟨hrun, ?_⟩
  rintro before turn after plan rfl hplan hafter
  exact hrun.holds hplan hafter

end

/-- Registers on which a Quick Charge adapter is identified. -/
def quickFile : CoreFile := fun addr =>
  if addr = apsdStatus then apsdDtcStatusDone
  else if addr = apsdResultStatus then patternHvdcp2
  else 0

/-- An `apply` that returned a plan, and nothing that writes behind it. -/
def inForce : List CoreTurn → Bool
  | [] => false
  | turn :: after => (planOf turn.result).isSome && after.all fun later => later.op = .monitor

/-- The session on the quick charger's file, computed once for both witnesses. -/
theorem quickSession : ∃ opening s₀ turn after s plan file',
    @Reaches ⟨0⟩ .forNabu opening s₀ (turn :: after) s ∧
      Served (E := ChargerEffect) coreAnswers quickFile
        (opening ++ turnExchanges (turn :: after)) file' ∧
      turn.result = .ok (.plan plan) ∧ ∀ later ∈ after, later.op = .monitor := by
  -- the session is executed, and only its end is looked at
  have hrun : (@fileSession ⟨0⟩ quickFile .forNabu [.apply .hvdcp2, .monitor, .monitor]).any
      (fun out => inForce out.2.2.1) = true := by decide +kernel
  obtain ⟨⟨opening, s₀, turns, s⟩, hsession, hforce⟩ := (Option.any_eq_true ..).1 hrun
  obtain ⟨hreach, file', hserved⟩ := @served_fileSession ⟨0⟩ _ _ _ _ _ _ _ hsession
  cases turns with
  | nil => cases hforce
  | cons turn after =>
      obtain ⟨hplan, hafter⟩ := (Bool.and_eq_true _ _).mp hforce
      obtain ⟨plan, hplan⟩ := Option.isSome_iff_exists.1 hplan
      refine ⟨opening, s₀, turn, after, s, plan, file', hreach, hserved, eq_of_planOf hplan, ?_⟩
      exact fun later hlater => of_decide_eq_true (List.all_eq_true.1 hafter later hlater)

/-- The quick charger's session settles the writes of the plan it returned. -/
theorem core_registers_quick : ∃ turns plan file',
    RegisterRun .forNabu quickFile turns file' ∧
      (∃ turn ∈ turns, turn.result = .ok (.plan plan)) ∧
      ∀ write ∈ plan.writes, write.Holds file' := by
  obtain ⟨opening, s₀, turn, after, s, plan, file', hreach, hserved, hplan, hafter⟩ := quickSession
  obtain ⟨hrun, hforce⟩ := @core_registers ⟨0⟩ _ _ _ _ _ _ _ hreach hserved
  refine ⟨turn :: after, plan, file', hrun, ⟨turn, List.mem_cons_self .., hplan⟩, ?_⟩
  refine hforce [] turn after plan rfl hplan fun later hlater => ?_
  rw [hafter later hlater]
  exact ⟨nofun, nofun⟩

section
variable [LoopFuel]

/-- The input current limit in the chip is the one the session found, or it is within what the
settings allow. Only the start of the grid can lie above that. -/
theorem limit_bounded {config : ChargerConfig} {opening : List (Event ChargerEffect)}
    {s₀ s : Charger} {turns : List CoreTurn} {file file' : CoreFile}
    (hsafe : config.safeIclUa ≤ wordMax 32) (h : Reaches config opening s₀ turns s)
    (hserved : Served coreAnswers file (opening ++ turnExchanges turns) file') :
    file' usbinCurrentLimitCfg = file usbinCurrentLimitCfg ∨
      config.icl.decode (file' usbinCurrentLimitCfg) ≤
        max (max config.maxIclUa config.safeIclUa) config.icl.minUa := by
  -- the register is untouched, or holds the code of a plan, or the safe code a close wrote
  rcases (register_run h hserved).limit with hsame | ⟨adapter, plan, hplan, hraw⟩ | hraw
  · exact .inl hsame
  · right
    rw [hraw, decode_plan hplan]
    have hquantized : config.icl.quantizeDown _ ≤ _ :=
      IclEncoding.quantizeDown_le_max (config.allowedUa (policyFor adapter config.qc35))
    have hallowed : config.allowedUa (policyFor adapter config.qc35) ≤ config.maxIclUa :=
      Nat.min_le_right _ _
    rw [ChargerConfig.targetUa]
    omega
  · right
    rw [IclEncoding.decode_encode_quantizeDown hsafe hraw]
    have hquantized : config.icl.quantizeDown _ ≤ _ :=
      IclEncoding.quantizeDown_le_max config.safeIclUa
    omega

end

/-- The quick charger's session keeps the limit within the configured bound. -/
theorem limit_bounded_quick : ∃ opening s₀ turns s, ∃ file' : CoreFile,
    @Reaches ⟨0⟩ .forNabu opening s₀ turns s ∧
      (file' usbinCurrentLimitCfg = quickFile usbinCurrentLimitCfg ∨
        ChargerConfig.forNabu.icl.decode (file' usbinCurrentLimitCfg) ≤
          max (max ChargerConfig.forNabu.maxIclUa ChargerConfig.forNabu.safeIclUa)
            ChargerConfig.forNabu.icl.minUa) := by
  obtain ⟨opening, s₀, turn, after, s, plan, file', hreach, hserved, -, -⟩ := quickSession
  exact ⟨opening, s₀, turn :: after, s, file', hreach,
    @limit_bounded ⟨0⟩ _ _ _ _ _ _ _ (by decide) hreach hserved⟩

end ChargerCore
