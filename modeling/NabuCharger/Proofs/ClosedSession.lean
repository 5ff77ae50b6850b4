import NabuCharger.Proofs.BypassGate

/-!
# `Proofs.ClosedSession`: what still works on a closed session

`close` puts the session into `Closed`, and every operation is documented to refuse there.
Some of them check the state and some start with a transfer, which needs no open session. An
operation is `Inert` on a session when it makes no transfer and leaves the session as it is.

`inert_iff` decides it for each operation: the guarded ones refuse, the others talk to the
chip first. `closed_absorbing_iff` lifts that to every sequence of calls over every bus.
-/

set_option autoImplicit false

namespace Ln8000

open Effectful

/-- Calls on a session, open or closed. -/
inductive SessionCall
  | pump (op : PumpOp)
  | writeRegister (addr : RegAddr) (value : Byte)
  deriving DecidableEq, Repr

/-- The program of an operation, with its failure. -/
def PumpOp.call [LoopFuel] : PumpOp → PumpM Unit
  | .configure => Ln8000.configure
  | .enableSwitching => Ln8000.enableSwitching >>= fun _ => pure ()
  | .enableBypass => Ln8000.enableBypass >>= fun _ => pure ()
  | .enableSwitchingOrBypass => Ln8000.enableSwitchingOrBypass >>= fun _ => pure ()
  | .setCharging on => Ln8000.setCharging on >>= fun _ => pure ()
  | .standby => Ln8000.standby
  | .softReset => Ln8000.softReset
  | .readAdc channel => Ln8000.readAdc channel >>= fun _ => pure ()
  | .status => Ln8000.status >>= fun _ => pure ()
  | .close => Ln8000.close
  | .setIinLimit iinUa => Ln8000.setIinLimit iinUa >>= fun _ => pure ()
  | .setVbatFloat vbatUv => Ln8000.setVbatFloat vbatUv >>= fun _ => pure ()
  | .setAdcMode mode => Ln8000.setAdcMode mode
  | .clearLatchedFaults => Ln8000.clearLatchedFaults
  | .serviceWatchdog => Ln8000.serviceWatchdog
  | .readRegister addr => Ln8000.readRegister addr >>= fun _ => pure ()

/-- The program of a call. -/
def SessionCall.run [LoopFuel] : SessionCall → PumpM Unit
  | .pump op => op.call
  | .writeRegister addr value => Ln8000.writeRegister addr value

/-! ### Inert programs and programs that talk -/

/-- No transfer, and the session is left as it is: the program returns at once. -/
def Inert (x : PumpM Unit) (pump : Pump) : Prop :=
  ∃ result, x pump = .ret (result, pump)

/-- The program starts with an operation on the bus. -/
def Talks {α : Type} (x : PumpM α) (pump : Pump) : Prop :=
  ∃ o k, x pump = .op o k

section
variable {α β : Type} {pump : Pump}

/-- What talks first talks, whatever follows. -/
theorem Talks.bind {x : PumpM α} (h : Talks x pump) (f : α → PumpM β) :
    Talks (x >>= f) pump := by
  obtain ⟨o, k, hx⟩ := h
  have hbind : (x >>= f) pump = (x pump).bind (Proc.andThen f) := rfl
  rw [hx] at hbind
  exact ⟨o, _, hbind⟩

/-- An attempt talks if its program does. -/
theorem Talks.attempt {x : PumpM α} (h : Talks x pump) :
    Talks (Proc.attempt x : PumpM (Except PumpError α)) pump := by
  obtain ⟨o, k, hx⟩ := h
  have hmap : (Proc.attempt x : PumpM (Except PumpError α)) pump =
      (x pump).map fun out => (.ok out.1, out.2) := rfl
  rw [hx] at hmap
  exact ⟨o, _, hmap⟩

/-- What talks is not inert. -/
theorem Talks.not_inert {x : PumpM Unit} (h : Talks x pump) : ¬Inert x pump := by
  rintro ⟨result, hret⟩
  obtain ⟨o, k, hop⟩ := h
  rw [hret] at hop
  cases hop

/-- The session read at the head is the session at hand. -/
theorem get_bind_apply (f : Pump → PumpM α) : (Proc.get >>= f) pump = f pump pump := rfl

end

/-- A closed session refuses at the check. -/
theorem ensureOpen_bind_of_closed {α : Type} {pump : Pump} (hclosed : pump.state = .closed)
    (f : Unit → PumpM α) : (ensureOpen >>= f) pump = .ret (.error .notOpen, pump) := by
  have hcheck : ensureOpen pump = .ret (.error .notOpen, pump) := by
    unfold ensureOpen
    rw [get_bind_apply, hclosed]
    rfl
  have hbind : (ensureOpen >>= f) pump = (ensureOpen pump).bind (Proc.andThen f) := rfl
  rw [hcheck] at hbind
  exact hbind

/-- What follows a refusal is not reached. -/
theorem bind_of_refused {α β : Type} {pump : Pump} {x : PumpM α} {err : PumpError}
    (h : x pump = .ret (.error err, pump)) (f : α → PumpM β) :
    (x >>= f) pump = .ret (.error err, pump) := by
  have hbind : (x >>= f) pump = (x pump).bind (Proc.andThen f) := rfl
  rw [h] at hbind
  exact hbind

section
variable [LoopFuel]

/-- A read talks. -/
theorem talks_read (addr : RegAddr) (pump : Pump) : Talks (read addr) pump := ⟨_, _, rfl⟩

/-- A write talks. -/
theorem talks_write (addr : RegAddr) (value : Byte) (pump : Pump) :
    Talks (write addr value) pump := ⟨_, _, rfl⟩

/-- A read-modify-write talks. -/
theorem talks_update (addr : RegAddr) (mask value : Byte) (field : String) (pump : Pump) :
    Talks (update addr mask value field) pump :=
  (talks_read addr pump).bind _

/-- A sample talks. -/
theorem talks_readAdc (channel : AdcChannel) (pump : Pump) : Talks (readAdc channel) pump :=
  (talks_update _ _ _ _ pump).bind _

/-! ### The operations -/

/-- The operation looks at the session before it looks at the chip, or has nothing to do
there. -/
def SessionCall.guarded (config : PumpConfig) : SessionCall → Bool
  | .pump .configure | .pump .enableSwitching | .pump .standby | .pump .status
  | .pump .close => true
  | .pump (.readRegister _) | .writeRegister _ _ => true
  | .pump .serviceWatchdog => !config.watchdogEnabled
  -- the encoder comes before the first transfer
  | .pump (.setIinLimit iinUa) => !(encodeIinLimit iinUa).toBool
  | .pump .enableBypass | .pump .enableSwitchingOrBypass | .pump (.setCharging _) => false
  | .pump .softReset | .pump (.readAdc _) | .pump (.setVbatFloat _) | .pump (.setAdcMode _) => false
  | .pump .clearLatchedFaults => false

/-- On a closed session a mode request fails at its check. -/
theorem setOpMode_of_closed {pump : Pump} (hclosed : pump.state = .closed) (target : OpMode) :
    setOpMode target pump = .ret (.error .notOpen, pump) :=
  ensureOpen_bind_of_closed hclosed _

/-- The fallback to 1:1 talks to the chip after 2:1 was refused. -/
theorem talks_enableSwitchingOrBypass {pump : Pump} (hclosed : pump.state = .closed) :
    Talks enableSwitchingOrBypass pump := by
  -- 2:1 looks at the state and refuses, but 1:1 samples first
  have hrefused : enableSwitching pump = .ret (.error .notOpen, pump) :=
    bind_of_refused (setOpMode_of_closed hclosed .switching) _
  have hfirst : (Proc.attempt enableSwitching : PumpM _) pump =
      .ret (.ok (.error .notOpen), pump) := by
    unfold Proc.attempt
    rw [hrefused]
    rfl
  have hbypass : Talks enableBypass pump := (talks_readAdc .vin pump).bind _
  have hbind : enableSwitchingOrBypass pump =
      ((Proc.attempt enableSwitching : PumpM _) pump).bind (Proc.andThen fun first => _) := rfl
  rw [hfirst] at hbind
  obtain ⟨o, k, hop⟩ := hbypass.attempt.bind _
  exact ⟨o, k, hbind.trans hop⟩

/-- On a closed session the guarded calls are inert, and the others are not. -/
theorem inert_iff {pump : Pump} (hclosed : pump.state = .closed) (call : SessionCall) :
    Inert call.run pump ↔ call.guarded pump.config = true := by
  -- a guarded operation refuses, an unguarded one starts with an exchange
  have hrefused {x : PumpM Unit} (h : x pump = .ret (.error .notOpen, pump)) :
      Inert x pump ↔ true = true := ⟨fun _ => rfl, fun _ => ⟨_, h⟩⟩
  have htalks {x : PumpM Unit} (h : Talks x pump) : Inert x pump ↔ false = true :=
    ⟨fun hinert => absurd hinert h.not_inert, fun h => absurd h Bool.false_ne_true⟩
  cases call with
  | writeRegister addr value => exact hrefused (ensureOpen_bind_of_closed hclosed _)
  | pump op =>
      cases op with
      | configure => exact hrefused (ensureOpen_bind_of_closed hclosed _)
      | enableSwitching =>
          exact hrefused (bind_of_refused
            (bind_of_refused (setOpMode_of_closed hclosed .switching) _) _)
      | enableBypass => exact htalks (((talks_readAdc .vin pump).bind _).bind _)
      | enableSwitchingOrBypass => exact htalks ((talks_enableSwitchingOrBypass hclosed).bind _)
      | setCharging on => exact htalks (((talks_update _ _ _ _ pump).bind _).bind _)
      | standby => exact hrefused (setOpMode_of_closed hclosed .standby)
      | softReset => exact htalks ((talks_write _ _ pump).bind _)
      | readAdc channel => exact htalks ((talks_readAdc channel pump).bind _)
      | status => exact hrefused (bind_of_refused (ensureOpen_bind_of_closed hclosed _) _)
      | close =>
          refine ⟨fun _ => rfl, fun _ => ⟨.ok (), ?_⟩⟩
          show close pump = _
          unfold close
          rw [get_bind_apply, hclosed]
          rfl
      | setIinLimit iinUa =>
          simp only [SessionCall.guarded]
          -- a limit off the grid is refused by the encoder, before the missing guard shows
          cases hcode : encodeIinLimit iinUa with
          | error err =>
              have hrejected : writeIinLimit iinUa "iin_limit" pump =
                  .ret (.error err, pump) := by
                unfold writeIinLimit
                rw [hcode]
                rfl
              exact ⟨fun _ => rfl,
                fun _ => ⟨_, bind_of_refused (bind_of_refused hrejected _) _⟩⟩
          | ok code =>
              have hwrite : Talks (writeIinLimit iinUa "iin_limit") pump := by
                unfold writeIinLimit
                rw [hcode]
                exact (talks_update _ _ _ _ pump).bind _
              exact htalks ((hwrite.bind _).bind _)
      | setVbatFloat vbatUv =>
          exact htalks ((((talks_write _ _ pump).bind _).bind _).bind _)
      | setAdcMode mode => exact htalks (talks_update _ _ _ _ pump)
      | clearLatchedFaults => exact htalks ((talks_update _ _ _ _ pump).bind _)
      | serviceWatchdog =>
          have hread : serviceWatchdog pump = Proc.when pump.config.watchdogEnabled
              (update Regs.timerCtrl (bit 7) (bit 7) "watchdog_service") pump := rfl
          simp only [SessionCall.guarded]
          -- with the watchdog off there is nothing to service, so nothing is sent
          cases hwatchdog : pump.config.watchdogEnabled with
          | true =>
              rw [hwatchdog] at hread
              obtain ⟨o, k, hop⟩ :=
                talks_update Regs.timerCtrl (bit 7) (bit 7) "watchdog_service" pump
              exact htalks ⟨o, k, hread.trans hop⟩
          | false =>
              rw [hwatchdog] at hread
              exact ⟨fun _ => rfl, fun _ => ⟨.ok (), hread⟩⟩
      | readRegister addr =>
          exact hrefused (bind_of_refused (ensureOpen_bind_of_closed hclosed _) _)

/-! ### Sequences of calls -/

omit [LoopFuel] in
/-- An inert program makes no exchange, and leaves the session it found. -/
theorem Inert.steps {x : PumpM Unit} {pump : Pump} (h : Inert x pump) {t : List (Event BusEffect)}
    {q : Prog BusEffect (Except PumpError Unit × Pump)} (hsteps : Prog.Steps (x pump) t q) :
    ∃ result, q = .ret (result, pump) := by
  obtain ⟨result, hret⟩ := h
  rw [hret] at hsteps
  cases hsteps
  exact ⟨result, rfl⟩

/-- Run lemma: as long as the calls are guarded, each of them finds the closed session. -/
theorem start_of_guarded {pump : Pump} (hclosed : pump.state = .closed)
    {log : List (Entry BusEffect Pump SessionCall)} (h : Session SessionCall.run pump log)
    (hguarded : ∀ entry ∈ log, entry.op.guarded pump.config = true) :
    ∀ entry ∈ log, entry.start = pump := by
  induction h with
  | done pump => exact fun entry hmem => nomatch hmem
  | cut hcut =>
      intro entry hmem
      rw [List.mem_singleton.1 hmem]
  | @step pump call t out log hstep _ ih =>
      -- a guarded call performs nothing on a closed session
      have hinert := (inert_iff hclosed call).2 (hguarded _ (List.mem_cons_self ..))
      obtain ⟨result, hout⟩ := hinert.steps hstep
      -- and leaves it as it was
      have hsame : out.2 = pump := by
        cases hout
        rfl
      rw [hsame] at ih
      have hrest := ih hclosed fun entry hmem => hguarded entry (List.mem_cons_of_mem _ hmem)
      intro entry hmem
      rcases List.mem_cons.1 hmem with rfl | hmem
      · rfl
      · exact hrest entry hmem

/-- Every sequence of calls on a closed session is inert, whatever the bus answers, if and
only if each of them is guarded. -/
theorem closed_absorbing_iff (pump : Pump) (hclosed : pump.state = .closed)
    (calls : List SessionCall) :
    (∀ log, Session SessionCall.run pump log → log.map Entry.op <+: calls →
        ∀ entry ∈ log, Inert entry.op.run entry.start ∧ entry.start.state = .closed) ↔
      ∀ call ∈ calls, call.guarded pump.config = true := by
  constructor
  · intro hall
    induction calls with
    | nil => exact fun call hmem => nomatch hmem
    | cons call calls ih =>
        -- the session that is cut before its first exchange
        have hfirst := hall [⟨pump, call, []⟩] (.cut (.refl _))
          (by simp [List.prefix_cons_iff]) _ (List.mem_singleton_self _)
        have hguarded := (inert_iff hclosed call).1 hfirst.1
        obtain ⟨result, hret⟩ := hfirst.1
        have hyields : Prog.Yields (call.run pump) [] (result, pump) := hret ▸ .refl _
        have hrest : ∀ other ∈ calls, other.guarded pump.config = true := by
          refine ih fun log hlog hbegins entry hmem => ?_
          refine hall (⟨pump, call, []⟩ :: log) (.step hyields hlog) ?_ entry
            (List.mem_cons_of_mem _ hmem)
          exact List.prefix_cons_iff.2 (Or.inr ⟨_, rfl, hbegins⟩)
        intro other hmem
        rcases List.mem_cons.1 hmem with rfl | hmem
        · exact hguarded
        · exact hrest other hmem
  · intro hall log hlog hbegins entry hmem
    have hguarded : ∀ e ∈ log, e.op.guarded pump.config = true :=
      fun e he => hall _ (hbegins.subset (List.mem_map_of_mem he))
    have hstart := start_of_guarded hclosed hlog hguarded entry hmem
    rw [hstart]
    exact ⟨(inert_iff hclosed entry.op).2 (hguarded entry hmem), hclosed⟩

end

/-- A session of the default profile that was closed. -/
def Pump.closedDefault : Pump :=
  { Pump.probed PumpConfig.default with state := .closed, opMode := .standby }

/-- A stop, a status query and a watchdog service on the closed session. -/
theorem closed_absorbing_iff_default :
    (∀ log, Session (@SessionCall.run ⟨0⟩) Pump.closedDefault log →
        log.map Entry.op <+: [.pump .standby, .pump .status, .pump .serviceWatchdog] →
        ∀ entry ∈ log, Inert (@SessionCall.run ⟨0⟩ entry.op) entry.start ∧
          entry.start.state = .closed) ↔
      ∀ call ∈ [SessionCall.pump .standby, .pump .status, .pump .serviceWatchdog],
        call.guarded Pump.closedDefault.config = true :=
  @closed_absorbing_iff ⟨0⟩ Pump.closedDefault rfl
    [.pump .standby, .pump .status, .pump .serviceWatchdog]

/-- A soft reset after `close` reaches the chip and reopens the session. -/
theorem not_closed_absorbing :
    ((@SessionCall.run ⟨0⟩ (.pump .softReset) Pump.closedDefault).runWith Chip.answer
        Chip.fiveVolt).1.length = 3 ∧
      ((@SessionCall.run ⟨0⟩ (.pump .softReset) Pump.closedDefault).runWith Chip.answer
        Chip.fiveVolt).2.2.map (fun out => out.2.state) = some .probed := by
  decide +kernel

end Ln8000
