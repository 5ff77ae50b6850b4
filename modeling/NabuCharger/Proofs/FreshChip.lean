import NabuCharger.Kmdf.Landing
import NabuCharger.Logic.Laws
import NabuCharger.Logic.Session
import NabuCharger.Ln8000.Reliable
import NabuCharger.Ln8000.Chip

/-!
# `Proofs.FreshChip`: no conducting mode on a chip that was reset and not configured

A soft reset leaves the chip in its default state, and the configuration has to be applied
anew. The recovery of the 5 V bypass and the recoveries of the kernel driver do so, and drop
the result: an error of `configure` does not keep them from requesting a mode afterwards.

`conductingGate` asks for a completed `configure` between the last soft reset and every
request of a conducting mode. `beginGate` asks for less, a `configure` that has begun, and every
operation keeps to it: each reset is followed by a `configure`, whatever came of it.

So the gate fails by one cause alone, an error that is dropped. `ConfiguresReturn` says of a
record that every `configure` begun on a freshly reset chip returns `Ok` there, and
`conducting_configured` is the gate for these runs.
-/

set_option autoImplicit false

namespace Ln8000

open Effectful

/-- What a session has done to the configuration of the chip. -/
structure Freshness where
  /-- A soft reset was issued, and no `configure` was completed since. -/
  fresh : Bool
  /-- A `configure` has begun since, and was not completed. -/
  begun : Bool
  deriving DecidableEq, Repr

namespace Freshness

/-- The chip is configured. -/
def start : Freshness := { fresh := false, begun := false }

/-- A `configure` on a fresh chip was begun and not completed. -/
def Unfinished (m : Freshness) : Prop := m.fresh = true ∧ m.begun = true

instance (m : Freshness) : Decidable m.Unfinished := inferInstanceAs (Decidable (_ ∧ _))

/-- A reset counts once it is issued, whatever the bus answers. -/
def next (m : Freshness) : BusOp → Freshness
  | .write addr value => if isSoftReset addr value then { fresh := true, begun := false } else m
  | .mark .configureBegin => { m with begun := true }
  | .mark .configured => start
  | _ => m

/-- A write other than the reset register leaves the freshness as it was. -/
theorem next_write {addr : RegAddr} (haddr : addr ≠ Regs.bcOp2) (m : Freshness) (value : Byte) :
    m.next (.write addr value) = m := by
  have hplain := isSoftReset_of_ne haddr value
  exact if_neg (by rw [hplain]; decide)

end Freshness

/-- A conducting mode is requested only from a chip that is configured. -/
def conductingGate : Machine BusEffect where
  State := Freshness
  allow _ _ _ := True
  require m
    | .mark (.request mode) => mode.conducting = true → m.fresh = false
    | _ => True
  next m o _ := m.next o

/-- A fresh chip is asked for a conducting mode only once a `configure` has begun. -/
def beginGate : Machine BusEffect where
  State := Freshness
  allow _ _ _ := True
  require m
    | .mark (.request mode) => mode.conducting = true → m.fresh = true → m.begun = true
    | _ => True
  next m o _ := m.next o

/-! ### What `configure` meets -/

/-- Both gates watch the chip alike. -/
theorem after_beginGate (t : List (Event BusEffect)) : ∀ m : Freshness,
    beginGate.after m t = conductingGate.after m t := by
  induction t with
  | nil => exact fun _ => rfl
  | cons e t ih => exact fun _ => ih _

/-- An operation other than the begin of a `configure` on a fresh chip. The gate lets it pass, and
no `configure` is unfinished after it. -/
theorem idle_next {m : Freshness} {o : BusOp} (hidle : ¬m.Unfinished)
    (ho : ¬(o = .mark .configureBegin ∧ m.fresh = true)) (hgate : beginGate.require m o) :
    conductingGate.require m o ∧ ¬(m.next o).Unfinished := by
  cases o with
  | mark mk =>
      cases mk with
      | request mode =>
          refine ⟨fun hconducting => ?_, hidle⟩
          by_contra hfresh
          have hset : m.fresh = true := by simpa using hfresh
          exact hidle ⟨hset, hgate hconducting hset⟩
      | configureBegin => exact ⟨trivial, fun h => ho ⟨rfl, h.1⟩⟩
      | configured => exact ⟨trivial, fun h => nomatch h.1⟩
  | write addr value =>
      refine ⟨trivial, ?_⟩
      by_cases hreset : isSoftReset addr value = true
      · -- a reset starts anew
        have hnext : m.next (.write addr value) = { fresh := true, begun := false } := if_pos hreset
        rw [hnext]
        exact fun h => nomatch h.2
      · have hnext : m.next (.write addr value) = m := if_neg hreset
        rw [hnext]
        exact hidle
  | read addr => exact ⟨trivial, hidle⟩
  | readPair addr => exact ⟨trivial, hidle⟩
  | reset => exact ⟨trivial, hidle⟩
  | postResetDelay => exact ⟨trivial, hidle⟩

/-- The operations of `configure` leave the gate alone: the one mode it requests is standby. -/
theorem calm_conducting : Calm conductingGate fun _ _ => True where
  session _ _ _ _ _ := trivial
  reset := fun _ _ _ => ⟨trivial, fun _ _ => trivial⟩
  read _ _ := fun _ _ _ => ⟨trivial, fun _ _ => trivial⟩
  safety := fun _ _ _ => ⟨trivial, fun _ _ => trivial⟩
  delay := fun _ _ _ => ⟨trivial, fun _ _ => trivial⟩
  write _ _ _ := fun _ _ _ => ⟨trivial, fun _ _ => trivial⟩
  pair _ _ := fun _ _ _ => ⟨trivial, fun _ _ => trivial⟩

section
variable [LoopFuel]

/-- The exchanges begin with those of a `configure` that returns `Ok`, or all of them are the
exchanges of one `configure`, which is cut short. -/
def Configures (t : List (Event BusEffect)) : Prop :=
  (∃ p p' first rest, t = first ++ rest ∧ Prog.Yields (configure p) first (.ok (), p')) ∨
    ∃ p q, Prog.Steps (configure p) t q

/-- Every `configure` that is begun on a freshly reset chip returns `Ok`. -/
def ConfiguresReturn (m : Freshness) (t : List (Event BusEffect)) : Prop :=
  ∀ before e rest, t = before ++ e :: rest → e.op = .mark .configureBegin →
    (conductingGate.after m before).fresh = true → Configures (e :: rest)

/-- What holds of a record holds of what is left of it. -/
theorem ConfiguresReturn.rest {m : Freshness} {t u : List (Event BusEffect)}
    (h : ConfiguresReturn m (t ++ u)) : ConfiguresReturn (conductingGate.after m t) u := by
  intro before e rest hsplit hop hfresh
  refine h (t ++ before) e rest ?_ hop ?_
  · rw [hsplit, List.append_assoc]
  · have hafter := conductingGate.after_append m t before
    exact (congrArg Freshness.fresh hafter).trans hfresh

/-- A `configure` meets the gate, and one that returns `Ok` leaves a configured chip. -/
theorem configure_conducting (p : Pump) (m : Freshness) :
    configure.wp conductingGate (fun out _ m' => out = .ok () → m' = Freshness.start) p m := by
  have c := calm_conducting.toModes
  have hstandby : Proc.Keeps conductingGate (fun _ _ => True) (setOpMode .standby) :=
    setOpMode_keeps c (fun _ _ _ => ⟨nofun, fun _ _ => trivial⟩)
      fun _ _ _ _ _ _ => ⟨trivial, fun _ _ => trivial⟩
  have hfault : FaultRules conductingGate fun _ _ => True :=
    FaultRules.of_write c.toSteady fun _ _ _ _ => ⟨trivial, fun _ _ => trivial⟩
  have hsetup : SetupRules conductingGate fun _ _ => True :=
    { toFaultRules := hfault
      reverse := fun _ => update_keeps c.toSteady (by decide) fun _ _ _ _ =>
        ⟨trivial, fun _ _ => trivial⟩
      adc := fun _ _ _ _ => ⟨trivial, fun _ _ => trivial⟩
      limit := fun _ _ _ _ _ _ _ _ _ => ⟨trivial, fun _ _ => trivial⟩ }
  -- a step that fails ends it with an error, so only the mark at the end counts
  have hthen {β : Type} {x : PumpM β} {f : β → PumpM Unit} {p : Pump} {m : Freshness}
      (hx : Proc.Keeps conductingGate (fun _ _ => True) x)
      (hf : ∀ b p m, (f b).wp conductingGate (fun out _ m' => out = .ok () → m' = .start) p m) :
      (x >>= f).wp conductingGate (fun out _ m' => out = .ok () → m' = .start) p m :=
    hx.wp_bind trivial (fun b p m _ => hf b p m) fun _ _ _ _ h => nomatch h
  refine hthen ensureOpen_keeps fun _ p m => ?_
  refine hthen (mark_keeps fun _ _ _ => ⟨trivial, fun _ _ => trivial⟩) fun _ p m => ?_
  refine hthen (configureThresholds_keeps c.toSettled hsetup) fun _ p m => ?_
  refine hthen (configureProtections_keeps c.toSettled hsetup) fun _ p m => ?_
  refine hthen hstandby fun _ p m => hthen (hfault.fault _ _ _ (by decide)) fun _ p m => ?_
  refine hthen (configureTimers_faults c.toSettled hsetup.adc).keeps fun _ p m => ?_
  refine hthen (Proc.Keeps.modify fun _ _ _ => trivial) fun _ p m => ?_
  exact (mark_wp (M := conductingGate) _ _ p m).2 ⟨trivial, fun _ _ _ => rfl⟩

/-- A `configure` that returned `Ok` exchanged something with a fresh chip, so less is left. -/
theorem configured_shortens {p p' : Pump} {m : Freshness} {first : List (Event BusEffect)}
    (h : Prog.Yields (configure p) first (.ok (), p')) (hfresh : m.fresh = true)
    (rest : List (Event BusEffect)) :
    conductingGate.after m first = Freshness.start ∧ rest.length < (first ++ rest).length := by
  -- a finished configuration clears the freshness
  have hend : conductingGate.after m first = Freshness.start :=
    Prog.Yields.post h (configure_conducting p m).prog
      (conductingGate.allowed_of_trusting (fun _ _ _ => trivial) first m) rfl
  refine ⟨hend, ?_⟩
  cases first with
  -- so it performed something
  | nil =>
      have hstart : m = Freshness.start := hend
      rw [hstart] at hfresh
      cases hfresh
  | cons e first =>
      rw [List.cons_append, List.length_cons, List.length_append]
      omega

/-- In a run whose `configure`s on a fresh chip return `Ok`, a gate that asks for a begun
`configure` asks for a completed one. The induction is on the length of the exchanges, as those of
a completed `configure` are passed over at once. -/
theorem meets_of_configures (n : Nat) : ∀ (t : List (Event BusEffect)) (m : Freshness),
    t.length ≤ n → ¬m.Unfinished → beginGate.Meets m t → ConfiguresReturn m t →
    conductingGate.Meets m t := by
  induction n with
  | zero =>
      intro t m hlength _ _ _
      rw [List.eq_nil_of_length_eq_zero (Nat.le_zero.1 hlength)]
      exact conductingGate.meets_nil m
  | succ n ih =>
      intro t m hlength hidle hmeets hreturns
      cases t with
      | nil => exact conductingGate.meets_nil m
      | cons e t =>
          by_cases hbegins : e.op = .mark .configureBegin ∧ m.fresh = true
          · have hconfigures : Configures (e :: t) := hreturns [] e t rfl hbegins.1 hbegins.2
            generalize e :: t = exchanged at hlength hmeets hreturns hconfigures ⊢
            rcases hconfigures with ⟨p, p', first, rest, rfl, hyields⟩ | ⟨p, q, hsteps⟩
            · obtain ⟨hend, hshorter⟩ := configured_shortens hyields hbegins.2 rest
              have hfirst := hyields.meets (configure_conducting p m).prog
              refine hfirst.append conductingGate fun _ => ?_
              have hgate := hmeets.rest _
                (beginGate.allowed_of_trusting (fun _ _ _ => trivial) first m)
              have hrest := hreturns.rest
              rw [after_beginGate, hend] at hgate
              rw [hend] at hrest ⊢
              exact ih rest _ (by omega) (by decide) hgate hrest
            · -- the run ends inside the `configure`
              exact hsteps.meets (configure_conducting p m).prog
          · obtain ⟨hgate, hrest⟩ := (beginGate.meets_cons m e t).1 hmeets
            obtain ⟨hpasses, hnext⟩ := idle_next hidle hbegins hgate
            refine (conductingGate.meets_cons m e t).2 ⟨hpasses, fun _ => ?_⟩
            exact ih t _ (by simpa using hlength) hnext (hrest trivial) (hreturns.rest (t := [e]))

end

/-! ### What the operations keep -/

/-- A fresh chip is one that a `configure` was begun on. -/
def Begun : Pump → Freshness → Prop := fun _ m => m.fresh = true → m.begun = true

/-- A write other than the reset register keeps a begun configuration begun. -/
theorem write_begun {addr : RegAddr} (haddr : addr ≠ Regs.bcOp2) (value : Byte) :
    OpKeeps beginGate Begun (.write addr value) := by
  intro p m h
  refine ⟨trivial, fun _ _ => ?_⟩
  have hnext := m.next_write haddr value
  exact Eq.mpr (congrArg (Begun p) hnext) h

/-- A request to such a chip passes the gate. -/
theorem request_begun (mode : OpMode) : OpKeeps beginGate Begun (.mark (.request mode)) :=
  fun _ _ h => ⟨fun _ => h, fun _ _ => h⟩

/-- Calm exchanges keep a begun configuration begun. -/
theorem calm_begun : Calm beginGate Begun where
  session _ _ _ _ h := h
  reset := fun _ _ h => ⟨trivial, fun _ _ => h⟩
  read _ _ := fun _ _ h => ⟨trivial, fun _ _ => h⟩
  safety := fun _ _ h => ⟨trivial, fun _ _ => h⟩
  delay := fun _ _ h => ⟨trivial, fun _ _ => h⟩
  write _ haddr value := write_begun (ne_bcOp2 haddr) value
  pair _ _ := fun _ _ h => ⟨trivial, fun _ _ => h⟩

section
variable [LoopFuel]

/-- A mode request through the sequence keeps a begun configuration begun. -/
theorem setOpMode_begun (target : OpMode) : Proc.Keeps beginGate Begun (setOpMode target) :=
  setOpMode_keeps calm_begun.toModes (request_begun target) fun _ _ _ => write_begun (by decide) _

/-- The fault-register updates keep a begun configuration begun. -/
theorem fault_begun : FaultRules beginGate Begun :=
  FaultRules.of_write calm_begun.toSteady fun value => write_begun (by decide) value

/-- The current taper keeps a begun configuration begun. -/
theorem taper_begun : TaperRules beginGate Begun where
  vinPair := fun _ _ h => ⟨trivial, fun _ _ => h⟩
  taper _ _ _ _ _ _ :=
    writeIinLimit_keeps calm_begun.toSteady fun _ _ _ => write_begun (by decide) _

/-- Clearing the reverse-current bit keeps a begun configuration begun. -/
theorem reverse_begun (field : String) :
    Proc.Keeps beginGate Begun (update Regs.sysCtrl (bit 2) 0 field) :=
  update_keeps calm_begun.toSteady (by decide) fun _ => write_begun (by decide) _

/-- Each step of the set-up keeps a begun configuration begun. -/
theorem setup_begun : SetupRules beginGate Begun where
  toFaultRules := fault_begun
  reverse := reverse_begun
  adc value := write_begun (by decide) value
  limit _ _ _ _ _ _ := write_begun (by decide) _

/-- However a `configure` of an open session ends, it has begun. -/
theorem configure_begun {p : Pump} (hopen : p.state ≠ .closed) (m : Freshness) :
    configure.wp beginGate (fun _ p' m' => Begun p' m') p m := by
  have hsteps := configureSteps_keeps calm_begun.toModes setup_begun (setOpMode_begun .standby)
    fun _ _ _ => ⟨trivial, fun _ _ hfresh => nomatch hfresh⟩
  refine (Proc.wp_bind _ _ _ _ _).2 (ensureOpen_wp hopen ((Proc.thenWp_ok _ _ _ _ _).2 ?_))
  refine (Proc.wp_bind (M := beginGate) p m _ _ _).2 ((mark_wp (M := beginGate) _ _ p m).2 ?_)
  refine ⟨trivial, fun _ _ => ?_⟩
  exact hsteps.run p _ fun _ => rfl

/-- A `configure` call keeps a begun configuration begun. -/
theorem configure_keeps_begun : Proc.Keeps beginGate Begun configure :=
  configure_keeps calm_begun.toModes
    { toSetupRules := setup_begun
      began := fun _ _ _ => ⟨trivial, fun _ _ _ => rfl⟩
      ended := fun _ _ _ => ⟨trivial, fun _ _ hfresh => nomatch hfresh⟩
      standby := setOpMode_begun .standby }

/-- The chip may be fresh, and the session is open. -/
def Reopened : Pump → Freshness → Prop := fun p _ => p.state ≠ .closed

/-- A soft reset opens the session, also one that fails. -/
theorem softReset_reopens (p : Pump) (m : Freshness) :
    softReset.wp beginGate (fun _ p' m' => Reopened p' m') p m := by
  have hany : Retries beginGate fun _ _ => True :=
    { frame := fun _ _ _ _ _ => trivial, reset := fun _ _ _ => ⟨trivial, fun _ _ => trivial⟩ }
  -- a write that fails leaves the session faulted, which is not closed
  have hfaulted : ∀ addr value (p : Pump) (m : Freshness), (write addr value).wp beginGate
      (fun outcome p' _ => ∀ err, outcome = .error err → p'.state = .faulted) p m := by
    intro addr value p m
    refine Proc.wp_mono (write_wp (R := fun _ _ => True) hany addr value
      (fun _ _ _ _ _ => trivial) (fun _ _ _ => ?_) trivial) fun _ _ _ h err herr => (h.2 err herr).2
    exact ⟨trivial, fun _ _ => ⟨fun _ => trivial, fun _ _ => trivial⟩⟩
  have hopen : ∀ {p : Pump}, p.state = .faulted → p.state ≠ .closed := by
    intro p h
    rw [h]
    decide
  refine (Proc.wp_bind _ _ _ _ _).2 (Proc.wp_mono (hfaulted _ _ p m) ?_)
  intro outcome p m h
  cases outcome with
  | error err => exact hopen (h err rfl)
  | ok _ =>
      have hread : Proc.Keeps beginGate (fun _ _ => True) (read Regs.bcOp2) :=
        (read_faults hany fun _ _ _ => ⟨trivial, fun _ _ => trivial⟩).keeps
      refine (Proc.wp_unwrapOr_bind (M := beginGate) p m _ _ _ _).2 ?_
      refine Proc.wp_mono (hread.run p m trivial) fun current p m _ => ?_
      refine (Proc.wp_bind _ _ _ _ _).2 (Proc.wp_mono (hfaulted _ _ p m) ?_)
      intro outcome p m h
      cases outcome with
      | error err => exact hopen (h err rfl)
      | ok _ =>
          refine (Proc.wp_modify (M := beginGate) p m _ _).2 ?_
          -- both writes went through: the session starts over, probed
          show PumpState.probed ≠ .closed
          decide

/-- What follows the configuration in the recovery of the 5 V bypass. -/
theorem recoverConfigured_begun {p : Pump} (hopen : p.state ≠ .closed) (m : Freshness) :
    recoverConfigured.wp beginGate (fun _ p' m' => Begun p' m') p m := by
  have c := calm_begun.toModes
  have hclean := recoverClean_keeps c taper_begun (fun value => write_begun (by decide) value)
    (setOpMode_begun .bypass)
  -- a `configure` has begun by then, and no step after it resets the chip
  have hrest : Proc.Keeps beginGate Begun (do
      let vin ← Proc.unwrapOr (readAdc .vin) 0
      let vbat ← readAdcUv .vbat
      if chargeMode vin vbat ≠ some .bypass then
        Proc.fail (.modeNotReached OpMode.bypass.code 0)
      else
        recoverClean : PumpM OpMode) := by
    refine ((readAdc_keeps c.toSettled taper_begun.vinPair).unwrapOr 0).bind fun vin => ?_
    refine (readAdcUv_keeps c.toSettled (c.pair .vbat (by decide))).bind fun vbat => ?_
    exact Proc.Keeps.ite (fun _ => Proc.Keeps.fail _) fun _ => hclean
  refine (Proc.wp_discard_bind (M := beginGate) p m _ _ _).2 ?_
  exact Proc.wp_mono (configure_begun hopen m) fun _ p m h => hrest.run p m h

/-- The reset is followed by a `configure`, whatever came of it. -/
theorem resetAndRecover_begun : Proc.Keeps beginGate Begun resetAndRecover := by
  refine ⟨fun p m _ => (Proc.wp_discard_bind (M := beginGate) p m _ _ _).2 ?_⟩
  refine Proc.wp_mono (softReset_reopens p m) fun _ p m hopen => ?_
  refine (Proc.wp_modify_bind (M := beginGate) p m _ _ _).2 ?_
  refine (Proc.wp_perform_bind (M := beginGate) _ m (E := BusEffect) BusOp.postResetDelay _ _).2 ?_
  exact ⟨trivial, fun _ _ => @recoverConfigured_begun _ { p with bypassStage := 2 } hopen _⟩

/-- Each step of a charge start keeps a begun configuration begun. -/
theorem charge_begun : ChargeRules beginGate Begun where
  toTaperRules := taper_begun
  toFaultRules := fault_begun
  reverse := reverse_begun
  standby := setOpMode_begun .standby
  switching := setOpMode_begun .switching
  enableBypass :=
    enableBypass_keeps calm_begun.toModes taper_begun.vinPair (setOpMode_begun .bypass)
  recover := recover5vBypass_keeps calm_begun taper_begun.vinPair resetAndRecover_begun

/-- Switching the charging keeps a begun configuration begun. -/
theorem setCharging_begun (on : Bool) : Proc.Keeps beginGate Begun (setCharging on) :=
  setCharging_keeps calm_begun charge_begun on

end

end Ln8000

namespace Kmdf

open Effectful Ln8000

section
variable [LoopFuel] {ε : Type}

/-- So is the reset of the kernel driver. -/
theorem rebuildAndCharge_begun :
    Proc.Keeps beginGate Begun (rebuildAndCharge : Proc BusEffect ε Pump _) := by
  refine ⟨fun p m _ => (Proc.wp_discard_bind (M := beginGate) p m _ _ _).2 ?_⟩
  refine Proc.wp_mono (softReset_reopens p m) fun _ p m hopen => ?_
  refine (Proc.wp_discard_bind (M := beginGate) p m _ _ _).2 ?_
  refine (Proc.wp_perform (M := beginGate) p m (E := BusEffect) BusOp.postResetDelay _).2 ?_
  refine ⟨trivial, fun _ _ => (Proc.wp_discard_bind (M := beginGate) p _ _ _ _).2 ?_⟩
  refine Proc.wp_mono (configure_begun hopen _) fun _ p m h => ?_
  exact (setCharging_begun true).attempt.run p m h

/-- The shutdown recovery, which resets and configures again, keeps it begun. -/
theorem recoverLnShutdown_begun :
    Proc.Keeps beginGate Begun (recoverLnShutdown : Proc BusEffect ε Pump _) := by
  refine (readRegister_keeps calm_begun.toModes Regs.sysSts).attempt.bind fun outcome => ?_
  cases outcome with
  | error err => exact Proc.Keeps.pure none
  | ok sys =>
      refine Proc.Keeps.ite (fun _ => Proc.Keeps.pure none) fun _ => ?_
      exact rebuildAndCharge_begun.bind fun result => Proc.Keeps.pure (some result)

/-- Starting a charge keeps a begun configuration begun. -/
theorem startCharge_begun :
    Proc.Keeps beginGate Begun (startCharge : Proc BusEffect ε Pump _) := by
  refine recoverLnShutdown_begun.bind fun recovered => ?_
  cases recovered with
  | some result => exact Proc.Keeps.pure (true, result)
  | none =>
      exact (setCharging_begun true).attempt.bind fun result => Proc.Keeps.pure (false, result)

end

/-- Charge starts and stops, the recoveries of the two drivers, and the mode operations. -/
inductive RecoveryOp
  | setCharging (on : Bool)
  | recover5vBypass
  | recoverLnShutdown
  | rebuildAndCharge
  | startCharge
  | enableSwitching
  | enableBypass
  | enableSwitchingOrBypass
  | standby
  | configure
  deriving DecidableEq, Repr

section
variable [LoopFuel]

/-- The program of a call. The caller may drop its result. -/
def RecoveryOp.run : RecoveryOp → PumpM Unit
  | .setCharging on => Proc.discard (Ln8000.setCharging on)
  | .recover5vBypass => Proc.discard Ln8000.recover5vBypass
  | .recoverLnShutdown => Proc.discard (Kmdf.recoverLnShutdown : PumpM _)
  | .rebuildAndCharge => Proc.discard (Kmdf.rebuildAndCharge : PumpM _)
  | .startCharge => Proc.discard (Kmdf.startCharge : PumpM _)
  | .enableSwitching => Proc.discard Ln8000.enableSwitching
  | .enableBypass => Proc.discard Ln8000.enableBypass
  | .enableSwitchingOrBypass => Proc.discard Ln8000.enableSwitchingOrBypass
  | .standby => Proc.discard Ln8000.standby
  | .configure => Proc.discard Ln8000.configure

/-- Each operation of the session keeps a begun configuration begun, by cases on the operation. -/
theorem recoveryOp_begun (op : RecoveryOp) : Proc.Keeps beginGate Begun op.run := by
  cases op with
  | setCharging on => exact (setCharging_begun on).discard
  | recover5vBypass => exact charge_begun.recover.discard
  | recoverLnShutdown => exact recoverLnShutdown_begun.discard
  | rebuildAndCharge => exact rebuildAndCharge_begun.discard
  | startCharge => exact startCharge_begun.discard
  | enableSwitching =>
      exact (enableSwitching_keeps calm_begun.toMoves charge_begun.switching).discard
  | enableBypass => exact charge_begun.enableBypass.discard
  | enableSwitchingOrBypass =>
      exact (enableSwitchingOrBypass_keeps calm_begun.toMoves charge_begun).discard
  | standby => exact charge_begun.standby.discard
  | configure => exact configure_keeps_begun.discard

/-- In every session of these operations, on every bus, cut short or not: if every `configure`
that is begun on a freshly reset chip returns `Ok`, a conducting mode is requested only when the
last soft reset was followed by a completed `configure`. -/
theorem conducting_configured {pump : Pump} {log : List (Entry BusEffect Pump RecoveryOp)}
    (h : Session RecoveryOp.run pump log)
    (hreturns : ConfiguresReturn Freshness.start (exchanges log)) :
    conductingGate.Meets Freshness.start (exchanges log) :=
  meets_of_configures _ _ _ (Nat.le_refl _) (by decide)
    (h.meets recoveryOp_begun Freshness.start nofun) hreturns

end

/-! ### Runs -/

/-- The log of these calls against a chip, from a configured session. -/
def recoveryLog (chip : Chip) (calls : List RecoveryOp) :
    List (Entry BusEffect Pump RecoveryOp) :=
  Session.execute Chip.answer (@RecoveryOp.run ⟨0⟩) chip Pump.configuredDefault calls

/-- It is a session. -/
theorem session_recoveryLog (chip : Chip) (calls : List RecoveryOp) :
    Session (@RecoveryOp.run ⟨0⟩) Pump.configuredDefault (recoveryLog chip calls) :=
  Session.session_execute (E := BusEffect) Chip.answer (@RecoveryOp.run ⟨0⟩) calls chip
    Pump.configuredDefault

/-- A `configure` with the standard profile is at the beginning of the exchanges, and it returns
`Ok`. -/
def replaysConfigure (t : List (Event BusEffect)) : Bool :=
  match (@configure ⟨0⟩ Pump.configuredDefault).replay t with
  | some ((.ok _, _), _) => true
  | _ => false

/-- Such a `configure` is there. -/
theorem configures_of_replays {t : List (Event BusEffect)} (h : replaysConfigure t = true) :
    @Configures ⟨0⟩ t := by
  unfold replaysConfigure at h
  split at h
  · next hreplay =>
      obtain ⟨first, hsplit, hyields⟩ := Prog.yields_of_replay hreplay
      exact .inl ⟨_, _, first, _, hsplit, hyields⟩
  · cases h

/-- The mark at the begin of a `configure`. -/
def beginsConfigure : BusOp → Bool
  | .mark .configureBegin => true
  | _ => false

/-- Every `configure` on a fresh chip is found so. -/
def replaysConfigures (m : Freshness) : List (Event BusEffect) → Bool
  | [] => true
  | e :: t =>
      (!beginsConfigure e.op || !m.fresh || replaysConfigure (e :: t)) &&
        replaysConfigures (m.next e.op) t

/-- What is found so returns `Ok`. -/
theorem configuresReturn_of_replays {t : List (Event BusEffect)} :
    ∀ {m : Freshness}, replaysConfigures m t = true → @ConfiguresReturn ⟨0⟩ m t := by
  induction t with
  | nil => exact fun _ before e rest hsplit => nomatch List.append_eq_nil_iff.1 hsplit.symm
  | cons f t ih =>
      intro m h before e rest hsplit hop hfresh
      rw [replaysConfigures, Bool.and_eq_true] at h
      -- the mark stands here, or further on
      rcases List.cons_eq_append_iff.1 hsplit with ⟨rfl, hhere⟩ | ⟨before, rfl, hlater⟩
      · obtain ⟨rfl, rfl⟩ := List.cons.inj hhere
        refine configures_of_replays ?_
        have hbegins : beginsConfigure e.op = true := by
          rw [hop]
          rfl
        have hfresh : m.fresh = true := hfresh
        simpa [hbegins, hfresh] using h.1
      · exact ih h.2 before e rest hlater hop hfresh

/-- A request of a mode can be checked. -/
def decideConducting : ∀ (m : Freshness) (o : BusOp), Decidable (conductingGate.require m o)
  | m, .mark (.request mode) =>
      inferInstanceAs (Decidable (mode.conducting = true → m.fresh = false))
  | _, .read _ | _, .write _ _ | _, .reset | _, .readPair _ | _, .postResetDelay
  | _, .mark .configureBegin | _, .mark .configured => isTrue trivial

instance (m : Freshness) (t : List (Event BusEffect)) : Decidable (conductingGate.Meets m t) :=
  @Machine.decidableMeets _ conductingGate decideConducting (fun _ _ _ => isTrue trivial) m t

/-- A charge start at 5 V on a chip that refuses every mode: the recovery resets the chip, its
`configure` returns `Ok`, and 1:1 is requested twice more. -/
theorem conducting_configured_refusing :
    conductingGate.Meets Freshness.start
      (exchanges (recoveryLog Chip.refusing [.setCharging true])) :=
  @conducting_configured ⟨0⟩ _ _ (session_recoveryLog Chip.refusing [.setCharging true])
    (configuresReturn_of_replays (by decide +kernel))

/-- The same chip, and the writes of `ADC_CFG` fail: the `configure` after the reset returns
an error, and 1:1 is requested on the chip in its default state. -/
theorem not_conducting_configured : ¬∀ log : List (Entry BusEffect Pump RecoveryOp),
    Session (@RecoveryOp.run ⟨0⟩) Pump.configuredDefault log →
    conductingGate.Meets Freshness.start (exchanges log) := by
  intro hall
  have hmeets := hall _ (session_recoveryLog
    { Chip.refusing with brokenWrites := [Regs.adcCfg] } [.setCharging true])
  revert hmeets
  decide +kernel

end Kmdf
