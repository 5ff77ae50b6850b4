import NabuCharger.Ln8000.Memory

/-!
# `Proofs.ConfigureFields`: what `configure` leaves in the chip

`configure` sets up the chip in twenty-six masked writes. On a bus without faults it is that
list of writes (`configure_rewrites`), so what it leaves in the chip is `writeAll` of them,
whatever the registers held before.

Every field whose name the later writes do not touch holds at the end. Two fields share a
bit with a later write. The ADC is switched off and then to its final mode, which is the
intention. The die protection of step 7 is bit 2 of `REGULATION_CTRL`, which step 5 wrote as
the lower bit of the NTC shutdown configuration: that one survives only in a profile that
disables the die protection (`configure_fields_iff`).
-/

set_option autoImplicit false

namespace Ln8000

open Effectful

/-! ### The writes -/

/-- Steps 1 to 6. -/
def thresholdWrites (cfg : PumpConfig) (iinCode : Byte) : List (Effectful.Field RegAddr) :=
  [⟨"vbat_float", Regs.vFloatCtrl, 0xFF, encodeVbatFloat cfg.vbatFloatUv⟩,
    ⟨"vac_ovp", Regs.glitchCtrl, 0x03 <<< 2, encodeVacOvp cfg.vacOvpUv <<< 2⟩,
    ⟨"iin_limit", Regs.iinCtrl, 0x7F, iinCode⟩,
    ⟨"ntc_alarm_low", Regs.ntcCtrl, 0xFF, (encodeNtcAlarm cfg.ntcAlarmCfg).1⟩,
    ⟨"ntc_alarm_high", Regs.adcCtrl, 0x03, (encodeNtcAlarm cfg.ntcAlarmCfg).2⟩,
    ⟨"ntc_shutdown_cfg", Regs.regulationCtrl, 0x03 <<< 2, Regs.ntcShutdownCfg <<< 2⟩,
    ⟨"recovery_and_monitors", Regs.recoveryCtrl, 0xF0 ||| 0b11,
      (if cfg.autoRecovery then (0xF0 : Byte) else 0x00) |||
        (flag (!cfg.tbusMonDisabled) <<< 1 ||| flag (!cfg.tbatMonDisabled))⟩]

/-- Step 7. -/
def protectionWrites (cfg : PumpConfig) : List (Effectful.Field RegAddr) :=
  [⟨"enable_vbat_ovp", Regs.faultCtrl, bit 5, 0⟩,
    ⟨"iin_ocp_off_nabu_dts", Regs.faultCtrl, bit 6, bit 6⟩,
    ⟨"vfloat_loop", Regs.regulationCtrl, bit 5, flag cfg.vbatRegDisabled <<< 5⟩,
    ⟨"vfloat_loop_int", Regs.regulationCtrl, bit 7, flag (!cfg.vbatRegDisabled) <<< 7⟩,
    ⟨"iin_loop", Regs.regulationCtrl, bit 4, flag cfg.iinRegDisabled <<< 4⟩,
    ⟨"iin_loop_int", Regs.regulationCtrl, bit 6, flag (!cfg.iinRegDisabled) <<< 6⟩,
    ⟨"tdie_prot", Regs.regulationCtrl, bit 2, flag (!cfg.tdieProtDisabled) <<< 2⟩,
    ⟨"tdie_regulation", Regs.regulationCtrl, bit 1, flag (!cfg.tdieRegDisabled) <<< 1⟩,
    ⟨"disable_reverse_current", Regs.sysCtrl, bit 2, 0⟩]

/-- Step 8. -/
def standbyWrites : List (Effectful.Field RegAddr) :=
  [⟨"op_mode", Regs.sysCtrl, OpMode.sysCtrlMask, Regs.sysCtrlStandbyEn⟩,
    ⟨"enable_vac_ov", Regs.faultCtrl, bit 4, 0⟩]

/-- Steps 9 and 10. -/
def timerWrites (cfg : PumpConfig) : List (Effectful.Field RegAddr) :=
  [⟨"watchdog_enable", Regs.timerCtrl, bit 7, if cfg.watchdogEnabled then bit 7 else 0⟩,
    ⟨"watchdog_period", Regs.timerCtrl, 0x03 <<< 5, cfg.watchdogPeriod.code <<< 5⟩,
    ⟨"adc_off_before_config", Regs.adcCtrl, 0x07 <<< 5, AdcMode.shutdown.code <<< 5⟩,
    ⟨"adc_hibernate_delay", Regs.adcCtrl, 0x03 <<< 3, AdcHibernateDelay.sec4.code <<< 3⟩,
    ⟨"adc_channels", Regs.adcCfg, 0xFF, 0x3E⟩,
    ⟨"adc_auto", Regs.adcCtrl, 0x07 <<< 5, AdcMode.autoHibernate.code <<< 5⟩,
    ⟨"sw_init_marker", Regs.chargeCtrl, bit 7, bit 7⟩,
    ⟨"thresholds", Regs.thresholdCtrl, 0xFF, Regs.thresholdCtrlDefault⟩]

/-- The writes of `configure`, in order. -/
def configureWrites (cfg : PumpConfig) (iinCode : Byte) : List (Effectful.Field RegAddr) :=
  thresholdWrites cfg iinCode ++ (protectionWrites cfg ++ (standbyWrites ++ timerWrites cfg))

/-- The fields its steps name. The ADC mode is named twice, and meant as written last. -/
def configureFields (cfg : PumpConfig) (iinCode : Byte) : List (Effectful.Field RegAddr) :=
  (configureWrites cfg iinCode).filter fun s => s.name ≠ "adc_off_before_config"

section
variable [LoopFuel] {cfg : PumpConfig}

/-- The first half of the configuration makes the writes of its list. -/
theorem configureThresholds_rewrites {iinCode : Byte}
    (hcode : encodeIinLimit cfg.iinLimitUa = .ok iinCode) :
    Rewrites cfg configureThresholds (thresholdWrites cfg iinCode) := by
  refine Rewrites.get_bind fun p hcfg => ?_
  subst hcfg
  refine (Rewrites.writeVerified (by decide) _ _).bind ?_
  refine (Rewrites.update (by decide) _ _ _).bind ?_
  refine Rewrites.ofExcept_bind hcode ?_
  refine (Rewrites.update (by decide) _ _ _).bind ?_
  refine (Rewrites.writeVerified (by decide) _ _).bind ?_
  refine (Rewrites.update (by decide) _ _ _).bind ?_
  refine (Rewrites.update (by decide) _ _ _).bind ?_
  exact Rewrites.update (by decide : isControl Regs.recoveryCtrl = true) _ _ _

/-- So do the protections. -/
theorem configureProtections_rewrites :
    Rewrites cfg configureProtections (protectionWrites cfg) := by
  refine Rewrites.get_bind fun p hcfg => ?_
  subst hcfg
  refine (Rewrites.update (by decide) _ _ _).bind ((Rewrites.update (by decide) _ _ _).bind ?_)
  refine (Rewrites.update (by decide) _ _ _).bind ((Rewrites.update (by decide) _ _ _).bind ?_)
  refine (Rewrites.update (by decide) _ _ _).bind ((Rewrites.update (by decide) _ _ _).bind ?_)
  refine (Rewrites.update (by decide) _ _ _).bind ((Rewrites.update (by decide) _ _ _).bind ?_)
  exact Rewrites.update (by decide) _ _ _

/-- So does the second half. -/
theorem configureTimers_rewrites : Rewrites cfg configureTimers (timerWrites cfg) := by
  refine Rewrites.get_bind fun p hcfg => ?_
  subst hcfg
  refine (Rewrites.update (by decide) _ _ _).bind ((Rewrites.update (by decide) _ _ _).bind ?_)
  refine (Rewrites.update (by decide) _ _ _).bind ((Rewrites.update (by decide) _ _ _).bind ?_)
  refine (Rewrites.writeVerified (by decide) _ _).bind ?_
  refine (Rewrites.update (by decide) _ _ _).bind ?_
  exact (Rewrites.update (by decide) _ _ _).bind (Rewrites.writeVerified (by decide) _ _)

/-- On a bus without faults `configure` succeeds, and is the list of its writes. -/
theorem configure_rewrites {iinCode : Byte} (hcode : encodeIinLimit cfg.iinLimitUa = .ok iinCode) :
    Rewrites cfg configure (configureWrites cfg iinCode) := by
  -- standby is one write of the mode field
  have hstandby : Rewrites cfg (setOpMode .standby)
      [⟨"op_mode", Regs.sysCtrl, OpMode.sysCtrlMask, Regs.sysCtrlStandbyEn⟩] := by
    refine Rewrites.ensureOpen.bind (Rewrites.ofExcept_bind rfl ?_)
    refine (Rewrites.mark _).bind ((Rewrites.update (by decide) _ _ _).bind ?_)
    exact Rewrites.modify (fun _ => rfl) fun _ h => h
  have hend : Rewrites cfg (do
      Proc.modify fun p => { p with state := .configured }
      mark .configured : PumpM Unit) ([] ++ []) :=
    Rewrites.bind (Rewrites.modify (fun _ => rfl) fun _ _ h => by cases h) (Rewrites.mark _)
  refine Rewrites.ensureOpen.bind ((Rewrites.mark _).bind ?_)
  refine (configureThresholds_rewrites hcode).bind (configureProtections_rewrites.bind ?_)
  refine hstandby.bind ((Rewrites.update (by decide) _ _ _).bind ?_)
  exact configureTimers_rewrites.bind hend

end

/-! ### The fields -/

/-- Which fields are written does not depend on the profile. -/
theorem configureWrites_keys (cfg : PumpConfig) (iinCode : Byte) :
    (configureWrites cfg iinCode).map Effectful.Field.key =
      (configureWrites PumpConfig.default 0).map Effectful.Field.key := by
  have hthresholds : (thresholdWrites cfg iinCode).map Effectful.Field.key =
      (thresholdWrites PumpConfig.default 0).map Effectful.Field.key := by
    simp only [thresholdWrites, Effectful.Field.key, List.map_cons, List.map_nil]
  have hprotections : (protectionWrites cfg).map Effectful.Field.key =
      (protectionWrites PumpConfig.default).map Effectful.Field.key := rfl
  have htimers : (timerWrites cfg).map Effectful.Field.key =
      (timerWrites PumpConfig.default).map Effectful.Field.key := rfl
  simp only [configureWrites, List.map_append, hthresholds, hprotections, htimers]

/-- A write that a later one overwrites: the ADC mode, and the NTC configuration by the die
protection. -/
def Overwrites (first later : String) : Prop :=
  first = "adc_off_before_config" ∨ (first = "ntc_shutdown_cfg" ∧ later = "tdie_prot")

instance (first later : String) : Decidable (Overwrites first later) :=
  inferInstanceAs (Decidable (_ ∨ _ ∧ _))

/-- No other write shares a bit with a later one. -/
theorem configureWrites_pairwise (cfg : PumpConfig) (iinCode : Byte) :
    (configureWrites cfg iinCode).Pairwise fun s t => ¬Overwrites s.name t.name → s.Apart t := by
  have hdefault : (configureWrites PumpConfig.default 0).Pairwise
      fun s t => ¬Overwrites s.name t.name → s.Apart t := by
    decide +kernel
  exact pairwise_apart_of_keys (P := fun a b => ¬Overwrites a b)
    (configureWrites_keys cfg iinCode) hdefault

section
variable (cfg : PumpConfig) (iinCode : Byte)

/-- The two writes of bit 2 of `REGULATION_CTRL`. -/
def ntcShutdownField : Effectful.Field RegAddr :=
  ⟨"ntc_shutdown_cfg", Regs.regulationCtrl, 0x03 <<< 2, Regs.ntcShutdownCfg <<< 2⟩

/-- The field of the die protection. -/
def tdieProtField : Effectful.Field RegAddr :=
  ⟨"tdie_prot", Regs.regulationCtrl, bit 2, flag (!cfg.tdieProtDisabled) <<< 2⟩

/-- It is among the writes. -/
theorem tdieProtField_mem : tdieProtField cfg ∈ configureWrites cfg iinCode := by
  simp [configureWrites, protectionWrites, tdieProtField]

/-- The shutdown of the thermistor is among the fields. -/
theorem ntcShutdownField_mem : ntcShutdownField ∈ configureFields cfg iinCode := by
  simp [configureFields, configureWrites, thresholdWrites, ntcShutdownField]

/-- It is the only write of its name. -/
theorem eq_tdieProtField : ∀ s ∈ configureWrites cfg iinCode, s.name = "tdie_prot" →
    s = tdieProtField cfg := by
  simp [configureWrites, thresholdWrites, protectionWrites, standbyWrites, timerWrites,
    tdieProtField]

/-- So is the shutdown of the thermistor. -/
theorem eq_ntcShutdownField : ∀ s ∈ configureWrites cfg iinCode,
    s.name = "ntc_shutdown_cfg" → s = ntcShutdownField := by
  simp [configureWrites, thresholdWrites, protectionWrites, standbyWrites, timerWrites,
    ntcShutdownField]

/-- The two agree in a profile without the die protection. -/
theorem ntcShutdownField_agrees_iff :
    ntcShutdownField.Agrees (tdieProtField cfg) ↔ cfg.tdieProtDisabled = true := by
  simp only [Effectful.Field.Agrees, ntcShutdownField, tdieProtField]
  cases cfg.tdieProtDisabled <;> decide

/-- The fields hold together after the writes in a profile without the die protection, and
in no other. -/
theorem holds_fields_iff (file : RegAddr → Byte) :
    (∀ s ∈ configureFields cfg iinCode, s.Holds (writeAll (configureWrites cfg iinCode) file)) ↔
      cfg.tdieProtDisabled = true := by
  have hpairwise := configureWrites_pairwise cfg iinCode
  constructor
  · intro hall
    have hprot : (tdieProtField cfg).Holds (writeAll (configureWrites cfg iinCode) file) := by
      refine holds_of_pairwise (tdieProtField_mem cfg iinCode) hpairwise (fun t _ ht => ?_) file
      exact (ht (by simp [Overwrites, tdieProtField])).agrees
    -- the two fields share bit 2, so both hold only where they agree on it
    have hntc := hall _ (ntcShutdownField_mem cfg iinCode)
    exact (ntcShutdownField_agrees_iff cfg).1 (hntc.agrees hprot)
  · intro hdisabled s hs
    obtain ⟨hmem, hname⟩ := List.mem_filter.1 hs
    refine holds_of_pairwise hmem hpairwise (fun t ht hapart => ?_) file
    -- every other pair of writes is apart or agrees
    by_cases hover : Overwrites s.name t.name
    · rcases hover with hoff | ⟨hntc, htdie⟩
      · simp [hoff] at hname
      · rw [eq_ntcShutdownField cfg iinCode s hmem hntc, eq_tdieProtField cfg iinCode t ht htdie]
        exact (ntcShutdownField_agrees_iff cfg).2 hdisabled
    · exact (hapart hover).agrees

end

/-- What `configure` leaves in the chip, on a bus without faults and from any contents of
its registers. It succeeds, the bits outside its masks are as they were, and the fields its
steps name hold together if and only if the profile disables the die protection. -/
theorem configure_fields_iff [LoopFuel] {p : Pump} (hopen : p.state ≠ .closed) {iinCode : Byte}
    (hcode : encodeIinLimit p.config.iinLimitUa = .ok iinCode) (file : RegAddr → Byte)
    {t : List (Event BusEffect)} {out : Except PumpError Unit × Pump}
    (h : Prog.Yields (configure p) t out) (hbus : memory.Allowed (known file) t) :
    out.1 = .ok () ∧ ∃ file', memory.after (known file) t = known file' ∧
      (∀ addr, file' addr &&& ~~~coveredBits (configureWrites p.config iinCode) addr =
        file addr &&& ~~~coveredBits (configureWrites p.config iinCode) addr) ∧
      ((∀ s ∈ configureFields p.config iinCode, s.Holds file') ↔
        p.config.tdieProtDisabled = true) := by
  -- the writes are those of the list, in order
  have hwp := (configure_rewrites hcode).run p file rfl hopen
  obtain ⟨hok, -, -, hafter⟩ := Prog.Yields.post h hwp.prog hbus
  refine ⟨hok, _, hafter, fun addr => ?_, holds_fields_iff p.config iinCode file⟩
  refine writeAll_outside _ addr _ ?_ file
  rw [BitVec.and_comm]
  exact BitVec.and_not_self _

/-- A session of the profile, before its first `configure`. -/
def configureRun (cfg : PumpConfig) :
    List (Event BusEffect) × Chip × Option (Except PumpError Unit × Pump) :=
  (@configure ⟨0⟩ (Pump.probed cfg)).runWith Chip.answer Chip.fiveVolt

/-- The profile of the Device Tree, on a 5 V chip. -/
theorem configure_fields_iff_forNabuDts : ∃ t out,
    Prog.Yields (@configure ⟨0⟩ (Pump.probed PumpConfig.forNabuDts)) t out ∧
    out.1 = .ok () ∧ ∃ file', memory.after (known Chip.fiveVolt.reg) t = known file' ∧
      (∀ addr, file' addr &&& ~~~coveredBits (configureWrites PumpConfig.forNabuDts 0x28) addr =
        Chip.fiveVolt.reg addr &&&
          ~~~coveredBits (configureWrites PumpConfig.forNabuDts 0x28) addr) ∧
      ((∀ s ∈ configureFields PumpConfig.forNabuDts 0x28, s.Holds file') ↔
        PumpConfig.forNabuDts.tdieProtDisabled = true) := by
  have hcode : encodeIinLimit PumpConfig.forNabuDts.iinLimitUa = .ok 0x28 := by decide
  obtain ⟨out, hout⟩ : ∃ out, (configureRun PumpConfig.forNabuDts).2.2 = some out :=
    Option.isSome_iff_exists.1 (by decide +kernel)
  have hyields := Prog.yields_runWith (E := BusEffect) Chip.answer
    (@configure ⟨0⟩ (Pump.probed PumpConfig.forNabuDts)) Chip.fiveVolt out hout
  have hallowed := allowed_chip (@configure ⟨0⟩ (Pump.probed PumpConfig.forNabuDts))
    Chip.fiveVolt rfl (known_describes Chip.fiveVolt)
  exact ⟨_, out, hyields, @configure_fields_iff ⟨0⟩ (Pump.probed PumpConfig.forNabuDts)
    (by decide) _ hcode Chip.fiveVolt.reg _ out hyields hallowed⟩

/-- With the default profile the NTC configuration that step 5 wrote is not there at the
end. -/
theorem not_configure_fields : ∃ t out file',
    Prog.Yields (@configure ⟨0⟩ (Pump.probed PumpConfig.default)) t out ∧
    memory.Allowed (known Chip.fiveVolt.reg) t ∧ out.1 = .ok () ∧
    memory.after (known Chip.fiveVolt.reg) t = known file' ∧
    ¬∀ s ∈ configureFields PumpConfig.default 0x28, s.Holds file' := by
  have hcode : encodeIinLimit PumpConfig.default.iinLimitUa = .ok 0x28 := by decide
  obtain ⟨out, hout⟩ : ∃ out, (configureRun PumpConfig.default).2.2 = some out :=
    Option.isSome_iff_exists.1 (by decide +kernel)
  have hyields := Prog.yields_runWith (E := BusEffect) Chip.answer
    (@configure ⟨0⟩ (Pump.probed PumpConfig.default)) Chip.fiveVolt out hout
  have hallowed := allowed_chip (@configure ⟨0⟩ (Pump.probed PumpConfig.default))
    Chip.fiveVolt rfl (known_describes Chip.fiveVolt)
  -- the default profile leaves the die protection on
  have hwp := (@configure_rewrites ⟨0⟩ _ _ hcode).run (Pump.probed PumpConfig.default)
    Chip.fiveVolt.reg rfl (by decide)
  obtain ⟨hok, -, -, hafter⟩ := Prog.Yields.post hyields hwp.prog hallowed
  refine ⟨_, out, _, hyields, hallowed, hok, hafter, fun hall => ?_⟩
  exact absurd ((holds_fields_iff _ _ _).1 hall) (by decide)

end Ln8000
