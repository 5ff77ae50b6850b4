import NabuCharger.Ln8000.Pump

/-!
# `Ln8000.PumpRules`: invariants through the operations of the pump

One rule for each operation of `Ln8000.Pump`, for any monitor `M` of the bus and any
invariant `I` of the session and the monitor. A rule asks only for the writes that
operation makes.

What every operation does is asked for once, in levels: `Retries` for channel resets and the
counters, `Steady` adds reads, `Settled` the registers no property here speaks of
(`housekeeping`) and every ADC channel but `Vin`, `Modes` the bookkeeping of the modes, and
`Calm` every other field of the session. What is left is what a property can be about: the
mode bits of `SYS_CTRL`, the setpoint in `IIN_CTRL`, the ADC mode in `ADC_CTRL`, the fault
masks in `FAULT_CTRL`, the reset bit in `BC_OP_2`, the `Vin` sample and the marks.
-/

set_option autoImplicit false

namespace Ln8000

open Effectful

section
variable {M : Machine BusEffect} {I : Pump → M.State → Prop}

/-! ### What a rule asks for -/

/-- The operation meets its obligation in `I`, and every allowed answer keeps `I`. -/
def OpKeeps (M : Machine BusEffect) (I : Pump → M.State → Prop) (o : BusOp) : Prop :=
  ∀ p m, I p m → M.require m o ∧ ∀ r, M.allow m o r → I p (M.next m o r)

/-- The same session some transfers later: they count themselves, and a failure marks the
session faulted. -/
structure Pump.Transfers (p p' : Pump) : Prop where
  config : p'.config = p.config
  opMode : p'.opMode = p.opMode
  bypassStage : p'.bypassStage = p.bypassStage
  porVinUv : p'.porVinUv = p.porVinUv
  state : p'.state = p.state ∨ p'.state = .faulted

/-- The same session some bookkeeping later: the profile is the same, and it was not
closed. -/
def Pump.Continues (p p' : Pump) : Prop :=
  p'.config = p.config ∧ (p'.state = .closed → p.state = .closed)

/-- Some transfers later, the session has only done its bookkeeping. -/
theorem Pump.Transfers.continues {p p' : Pump} (h : p.Transfers p') : p.Continues p' := by
  refine ⟨h.config, fun hclosed => ?_⟩
  rcases h.state with hsame | hfaulted
  · exact hsame ▸ hclosed
  · rw [hfaulted] at hclosed
    cases hclosed

/-- The bookkeeping of a transfer and a channel reset leave `I` alone. -/
structure Retries (M : Machine BusEffect) (I : Pump → M.State → Prop) : Prop where
  frame : ∀ (p p' : Pump) m, p.Transfers p' → I p m → I p' m
  reset : OpKeeps M I .reset

/-- Reads and the caller's sleep leave `I` alone too. `SAFETY_STS` is left out: only a status
pass reads it, so that a monitor can tell such a pass by it. -/
structure Steady (M : Machine BusEffect) (I : Pump → M.State → Prop) : Prop
    extends Retries M I where
  read : ∀ addr, addr ≠ Regs.safetySts → OpKeeps M I (.read addr)
  delay : OpKeeps M I .postResetDelay

/-- Registers whose contents no invariant speaks of. -/
def housekeeping : List RegAddr :=
  [Regs.regulationCtrl, Regs.glitchCtrl, Regs.ntcCtrl, Regs.adcCfg, Regs.recoveryCtrl,
    Regs.timerCtrl, Regs.thresholdCtrl, Regs.vFloatCtrl, Regs.chargeCtrl, Regs.lionCtrl]

/-- Housekeeping writes and the samples of every channel but `Vin` leave `I` alone too. -/
structure Settled (M : Machine BusEffect) (I : Pump → M.State → Prop) : Prop
    extends Steady M I where
  write : ∀ addr ∈ housekeeping, ∀ value, OpKeeps M I (.write addr value)
  pair : ∀ channel : AdcChannel, channel ≠ .vin → OpKeeps M I (.readPair channel.register)

/-- The bookkeeping of the modes leaves `I` alone: the mode, the stage of the recovery, and
every session state but `Switching` and `Closed`. -/
structure Modes (M : Machine BusEffect) (I : Pump → M.State → Prop) : Prop
    extends Settled M I where
  safety : OpKeeps M I (.read Regs.safetySts)
  opMode : ∀ p m mode, I p m → I { p with opMode := mode } m
  configured : ∀ p m, I p m → I { p with state := .configured } m
  probed : ∀ p m, I p m → I { p with state := .probed, opMode := .unknown } m
  bypassStage : ∀ p m stage, I p m → I { p with bypassStage := stage } m

/-- `Switching` too: `I` reads nothing of the session that a charge start changes, the memo
of the reset excepted. -/
structure Moves (M : Machine BusEffect) (I : Pump → M.State → Prop) : Prop
    extends Modes M I where
  switching : ∀ p m, I p m → I { p with state := .switching } m

/-- `I` reads nothing of the session but its profile and that it is not closed. -/
structure Calm (M : Machine BusEffect) (I : Pump → M.State → Prop) : Prop
    extends Moves M I where
  session : ∀ (p p' : Pump) m, p.Continues p' → I p m → I p' m
  frame := fun p p' m h => session p p' m h.continues
  opMode := fun p m _ => session p _ m ⟨rfl, id⟩
  configured := fun p m => session p _ m ⟨rfl, nofun⟩
  probed := fun p m => session p _ m ⟨rfl, nofun⟩
  bypassStage := fun p m _ => session p _ m ⟨rfl, id⟩
  switching := fun p m => session p _ m ⟨rfl, nofun⟩

/-! ### Transfers -/

/-- A calm invariant is kept by every change of the bookkeeping. -/
theorem Calm.modify (c : Calm M I) {f : Pump → Pump} (hf : ∀ p : Pump, p.Continues (f p)) :
    Proc.Keeps M I (Proc.modify f : PumpM Unit) :=
  Proc.Keeps.modify fun p m h => c.session p (f p) m (hf p) h

/-- An operation whose answer is the outcome of a transfer. -/
theorem OpKeeps.perform {o : BusOp} (ho : OpKeeps M I o) :
    Proc.Keeps M I (Proc.perform (E := BusEffect) o : PumpM _) :=
  Proc.Keeps.perform ho

/-- The retry loop: `K` holds before an attempt, `L` after one that failed, and `R` of the
value once one succeeds. -/
theorem retryLoop_wp_from {α : Type} {transfer : PumpM (Except BusError α)}
    {count : Pump → Pump} {K L : Pump → M.State → Prop} {R : α → Pump → M.State → Prop}
    (hframe : ∀ (p p' : Pump) m, p.Transfers p' → L p m → L p' m)
    (hreset : ∀ p m, L p m →
      M.require m .reset ∧ ∀ r, M.allow m .reset r → K p (M.next m .reset r))
    (ht : ∀ p m, K p m → transfer.wp M
      (fun outcome p' m' => ∃ r, outcome = .ok r ∧
        (∀ value, r = .ok value → R value (count p') m') ∧
        (∀ err, r = .error err → L p' m')) p m) :
    ∀ fuel attempt p m, K p m → (retryLoop transfer count fuel attempt).wp M
      (fun outcome p' m' => (∀ value, outcome = .ok value → R value p' m') ∧
        (∀ err, outcome = .error err → L p' m' ∧ p'.state = .faulted)) p m := by
  intro fuel
  -- induction on the fuel, for every attempt number
  induction fuel with
  | zero =>
      intro attempt p m _
      rw [retryLoop, Proc.wp_diverge]
      trivial
  | succ fuel ih =>
      intro attempt p m h
      rw [retryLoop, Proc.wp_bind]
      refine Proc.wp_mono (ht p m h) ?_
      rintro outcome p' m' ⟨r, rfl, hok, herr⟩
      rw [Proc.thenWp_ok]
      cases r with
      | ok value =>
          simp only
          rw [Proc.wp_bind, Proc.wp_modify, Proc.thenWp_ok, Proc.wp_pure]
          exact ⟨fun v hv => Except.ok.inj hv ▸ hok value rfl, fun _ herr => nomatch herr⟩
      | error err =>
          have hloop := herr err rfl
          simp only
          rw [Proc.wp_bind, Proc.wp_get, Proc.thenWp_ok]
          -- at the limit the last error is returned, before it the link is reset and the loop goes
          -- on
          split
          · rw [Proc.wp_bind, Proc.wp_modify, Proc.thenWp_ok, Proc.wp_fail]
            refine ⟨fun _ hv => (nomatch hv), fun _ _ => ⟨?_, rfl⟩⟩
            exact hframe p' _ _ ⟨rfl, rfl, rfl, rfl, Or.inr rfl⟩ hloop
          · obtain ⟨hreq, hans⟩ := hreset p' m' hloop
            rw [Proc.wp_bind]
            refine (Proc.wp_perform p' m' (E := BusEffect) BusOp.reset _).2 ⟨hreq, ?_⟩
            exact fun answer hanswer => ih _ _ _ (hans answer hanswer)

/-- The retry loop, with one invariant before and after an attempt that failed. -/
theorem retryLoop_wp {α : Type} {transfer : PumpM (Except BusError α)}
    {count : Pump → Pump} {L : Pump → M.State → Prop} {R : α → Pump → M.State → Prop}
    (hL : Retries M L)
    (ht : ∀ p m, L p m → transfer.wp M
      (fun outcome p' m' => ∃ r, outcome = .ok r ∧
        (∀ value, r = .ok value → R value (count p') m') ∧
        (∀ err, r = .error err → L p' m')) p m) (fuel attempt : Nat) (p : Pump)
    (m : M.State) (h : L p m) : (retryLoop transfer count fuel attempt).wp M
      (fun outcome p' m' => (∀ value, outcome = .ok value → R value p' m') ∧
        (∀ err, outcome = .error err → L p' m' ∧ p'.state = .faulted)) p m :=
  retryLoop_wp_from hL.frame hL.reset ht fuel attempt p m h

variable [LoopFuel]

/-- A read: `K` before an attempt, `L` after one that failed, and `R` of the value. -/
theorem read_wp_from {addr : RegAddr} {K L : Pump → M.State → Prop}
    {R : Byte → Pump → M.State → Prop}
    (hframe : ∀ (p p' : Pump) m, p.Transfers p' → L p m → L p' m)
    (hcount : ∀ value (p p' : Pump) m, p.Transfers p' → R value p m → R value p' m)
    (hreset : ∀ p m, L p m →
      M.require m .reset ∧ ∀ r, M.allow m .reset r → K p (M.next m .reset r))
    (hread : ∀ p m, K p m → M.require m (.read addr) ∧
      ∀ r, M.allow m (.read addr) r →
        (∀ value, r = .ok value → R value p (M.next m (.read addr) r)) ∧
        ∀ err, r = .error err → L p (M.next m (.read addr) r))
    {p : Pump} {m : M.State} (h : K p m) :
    (read addr).wp M (fun outcome p' m' => (∀ value, outcome = .ok value → R value p' m') ∧
      ∀ err, outcome = .error err → L p' m' ∧ p'.state = .faulted) p m := by
  refine retryLoop_wp_from hframe hreset (fun p m h => ?_) _ _ p m h
  obtain ⟨hreq, hans⟩ := hread p m h
  refine (Proc.wp_perform p m (E := BusEffect) (BusOp.read addr) _).2 ⟨hreq, fun r hr => ?_⟩
  refine ⟨r, rfl, fun value hvalue => ?_, (hans r hr).2⟩
  exact hcount value p _ _ ⟨rfl, rfl, rfl, rfl, Or.inl rfl⟩ ((hans r hr).1 value hvalue)

/-- A read: `I` throughout, and `S` of the value it returns. -/
theorem read_wp (q : Retries M I) {addr : RegAddr} (hread : OpKeeps M I (.read addr))
    {S : Byte → M.State → Prop}
    (hS : ∀ p m value, I p m → M.allow m (.read addr) (.ok value) →
      S value (M.next m (.read addr) (.ok value))) {p : Pump} {m : M.State} (h : I p m) :
    (read addr).wp M
      (fun outcome p' m' => I p' m' ∧ (∀ value, outcome = .ok value → S value m') ∧
        ∀ err, outcome = .error err → p'.state = .faulted) p m := by
  refine Proc.wp_mono (read_wp_from (K := I) (L := I) (R := fun v p m => I p m ∧ S v m) q.frame
    (fun _ p p' m ht h => ⟨q.frame p p' m ht h.1, h.2⟩) q.reset (fun p m h => ?_) h) ?_
  · -- each try keeps the invariant, and the last one gives the value
    obtain ⟨hreq, hans⟩ := hread p m h
    refine ⟨hreq, fun r hr => ⟨?_, fun _ _ => hans r hr⟩⟩
    rintro value rfl
    exact ⟨hans _ hr, hS p m value h hr⟩
  · rintro outcome p' m' ⟨hok, herr⟩
    cases outcome with
    | ok value =>
        obtain ⟨hI, hvalue⟩ := hok value rfl
        exact ⟨hI, fun v hv => Except.ok.inj hv ▸ hvalue, fun _ hv => nomatch hv⟩
    -- the retries ended on an error: the pump is faulted
    | error err =>
        obtain ⟨hI, hfaulted⟩ := herr err rfl
        exact ⟨hI, fun _ hv => (nomatch hv), fun _ _ => hfaulted⟩

/-- A write: `I` until it succeeds, and `R` from there on. -/
theorem write_wp (q : Retries M I) (addr : RegAddr) (value : Byte) {R : Pump → M.State → Prop}
    (hframe : ∀ (p p' : Pump) m, p.Transfers p' → R p m → R p' m)
    (hwrite : ∀ p m, I p m → M.require m (.write addr value) ∧
      ∀ r, M.allow m (.write addr value) r →
        (r = .ok () → R p (M.next m (.write addr value) r)) ∧
        ∀ err, r = .error err → I p (M.next m (.write addr value) r))
    {p : Pump} {m : M.State} (h : I p m) :
    (write addr value).wp M (fun outcome p' m' => (outcome = .ok () → R p' m') ∧
      ∀ err, outcome = .error err → I p' m' ∧ p'.state = .faulted) p m := by
  refine Proc.wp_mono (retryLoop_wp (L := I) (R := fun _ => R) q ?_ _ _ p m h) ?_
  · -- each try is allowed, and the one that succeeds establishes what the write is for
    intro p m h
    obtain ⟨hreq, hans⟩ := hwrite p m h
    refine (Proc.wp_perform p m (E := BusEffect) (BusOp.write addr value) _).2 ⟨hreq, ?_⟩
    intro r hr
    refine ⟨r, rfl, fun _ hv => ?_, (hans r hr).2⟩
    exact hframe p _ _ ⟨rfl, rfl, rfl, rfl, Or.inl rfl⟩ ((hans r hr).1 hv)
  · exact fun outcome p' m' h' => ⟨fun hv => h'.1 () hv, h'.2⟩

/-- Like `Keeps`, and `x` always returns a value. -/
structure Sure {α : Type} (M : Machine BusEffect) (I : Pump → M.State → Prop)
    (x : PumpM α) : Prop where
  run : ∀ p m, I p m → x.wp M (fun outcome p' m' => I p' m' ∧ ∃ a, outcome = .ok a) p m

section
omit [LoopFuel]
variable {α β : Type} {x : PumpM α}

/-- A program that always returns a value keeps the invariant. -/
theorem Sure.keeps (h : Sure M I x) : Proc.Keeps M I x :=
  ⟨fun p m hI => Proc.wp_mono (h.run p m hI) fun _ _ _ h' => h'.1⟩

/-- Sequencing: what follows always has a value to start from. -/
theorem Sure.wp_bind {f : α → PumpM β} {Q : Except PumpError β → Pump → M.State → Prop}
    {p : Pump} {m : M.State} (h : Sure M I x) (hI : I p m)
    (hok : ∀ a p' m', I p' m' → (f a).wp M Q p' m') : (x >>= f).wp M Q p m := by
  refine (Proc.wp_bind p m x f Q).2 (Proc.wp_mono (h.run p m hI) ?_)
  rintro outcome p' m' ⟨h', a, rfl⟩
  exact (Proc.thenWp_ok _ _ _ _ _).2 (hok a p' m' h')

/-- A sequence of two such programs. -/
theorem Sure.bind {f : α → PumpM β} (h : Sure M I x) (hf : ∀ a, Sure M I (f a)) :
    Sure M I (x >>= f) :=
  ⟨fun _ _ hI => h.wp_bind hI fun a p' m' h' => (hf a).run p' m' h'⟩

/-- A value is one. -/
theorem Sure.pure (a : α) : Sure M I (Pure.pure a : PumpM α) :=
  ⟨fun p m hI => (Proc.wp_pure _ p m a).2 ⟨hI, a, rfl⟩⟩

/-- A change of the session that keeps the invariant. -/
theorem Sure.modify {f : Pump → Pump} (hf : ∀ p m, I p m → I (f p) m) :
    Sure M I (Proc.modify f : PumpM Unit) :=
  ⟨fun p m hI => (Proc.wp_modify p m f _).2 ⟨hf p m hI, (), rfl⟩⟩

/-- A program that is run on a condition. -/
theorem Sure.when {c : Bool} {x : PumpM Unit} (h : c = true → Sure M I x) :
    Sure M I (Proc.when c x) := by
  cases c with
  | true => exact h rfl
  | false => exact Sure.pure ()

/-- A failure that cannot happen may be caught. -/
theorem Sure.attempt_bind {f : Except PumpError α → PumpM β} (h : Sure M I x)
    (hf : ∀ a, Sure M I (f (.ok a))) : Sure M I (Proc.attempt x >>= f) := by
  refine ⟨fun p m hI => (Proc.wp_attempt_bind p m x f _).2 (Proc.wp_mono (h.run p m hI) ?_)⟩
  rintro outcome p' m' ⟨h', a, rfl⟩
  exact (hf a).run p' m' h'

/-- What is dropped may fail. -/
theorem discard_sure (h : Proc.Keeps M I x) :
    Sure M I (Proc.discard x : PumpM Unit) :=
  ⟨fun p m hI => (Proc.wp_discard p m x _).2
    (Proc.wp_mono (h.run p m hI) fun _ _ _ h' => ⟨h', (), rfl⟩)⟩

/-- A default stands in for a failure. -/
theorem unwrapOr_sure (h : Proc.Keeps M I x) (d : α) :
    Sure M I (Proc.unwrapOr x d : PumpM α) :=
  ⟨fun p m hI => (Proc.wp_unwrapOr p m x d _).2
    (Proc.wp_mono (h.run p m hI) fun outcome _ _ h' => ⟨h', outcome.toOption.getD d, rfl⟩)⟩

/-- A program that looks at the session first. -/
theorem Sure.get_bind {f : Pump → PumpM β} (hf : ∀ p m, I p m → Sure M I (f p)) :
    Sure M I (Proc.get >>= f) :=
  ⟨fun p m hI => (Proc.wp_get_bind p m f _).2 ((hf p m hI).run p m hI)⟩

end

/-- A transfer failed for good, or there is no session. -/
def Pump.Down (pump : Pump) : Prop := pump.state = .faulted ∨ pump.state = .closed

/-- Like `Keeps`, and a failure has marked the session faulted, or found it closed. -/
structure Faults {α : Type} (M : Machine BusEffect) (I : Pump → M.State → Prop)
    (x : PumpM α) : Prop where
  run : ∀ p m, I p m → x.wp M
    (fun outcome p' m' => I p' m' ∧ ∀ e, outcome = .error e → p'.Down) p m

section
omit [LoopFuel]
variable {α β : Type} {x : PumpM α}

/-- What is known of the failures is more than keeping the invariant. -/
theorem Faults.keeps (h : Faults M I x) : Proc.Keeps M I x :=
  ⟨fun p m hI => Proc.wp_mono (h.run p m hI) fun _ _ _ h' => h'.1⟩

/-- Sequencing out of an invariant: what follows a failure finds the session down. -/
theorem Faults.wp_bind {f : α → PumpM β} {Q : Except PumpError β → Pump → M.State → Prop}
    {p : Pump} {m : M.State} (h : Faults M I x) (hI : I p m)
    (hok : ∀ a p' m', I p' m' → (f a).wp M Q p' m')
    (herr : ∀ e p' m', I p' m' → p'.Down → Q (.error e) p' m') :
    (x >>= f).wp M Q p m := by
  refine (Proc.wp_bind p m x f Q).2 (Proc.wp_mono (h.run p m hI) ?_)
  rintro outcome p' m' ⟨h', hdown⟩
  cases outcome with
  | ok a => exact hok a p' m' h'
  | error e => exact herr e p' m' h' (hdown e rfl)

/-- A sequence fails where one of its parts does. -/
theorem Faults.bind {f : α → PumpM β} (h : Faults M I x) (hf : ∀ a, Faults M I (f a)) :
    Faults M I (x >>= f) :=
  ⟨fun _ _ hI => h.wp_bind hI (fun a p' m' h' => (hf a).run p' m' h')
    fun _ _ _ h' hdown => ⟨h', fun _ _ => hdown⟩⟩

/-- A program that looks at the session first. -/
theorem Faults.get_bind {f : Pump → PumpM β} (hf : ∀ p, Faults M I (f p)) :
    Faults M I (Proc.get >>= f) := by
  refine ⟨fun p m hI => ?_⟩
  rw [Proc.wp_bind, Proc.wp_get, Proc.thenWp_ok]
  exact (hf p).run p m hI

/-- A change of the session does not fail. -/
theorem Faults.modify {f : Pump → Pump} (hf : ∀ p m, I p m → I (f p) m) :
    Faults M I (Proc.modify f : PumpM Unit) :=
  ⟨fun p m hI => (Proc.wp_modify p m f _).2 ⟨hf p m hI, fun _ herr => nomatch herr⟩⟩

/-- A value does not fail. -/
theorem Faults.pure (a : α) : Faults M I (Pure.pure a : PumpM α) :=
  ⟨fun p m hI => (Proc.wp_pure _ p m a).2 ⟨hI, fun _ herr => nomatch herr⟩⟩

/-- What follows a value at hand. -/
theorem Faults.ofExcept_bind {r : Except PumpError α} {a : α} (hr : r = .ok a)
    {f : α → PumpM β} (hf : Faults M I (f a)) : Faults M I (Proc.ofExcept r >>= f) := by
  subst hr
  exact ⟨hf.run⟩

/-- A program that is run on a condition. -/
theorem Faults.when {c : Bool} {x : PumpM Unit} (h : Faults M I x) :
    Faults M I (Proc.when c x) := by
  cases c with
  | true => exact h
  | false => exact Faults.pure ()

end

/-- The loop of attempts marks the session faulted when they are used up. -/
theorem retrying_faults {α : Type} {transfer : PumpM (Except BusError α)}
    {count : Pump → Pump} (st : Retries M I) (hcount : ∀ p : Pump, p.Transfers (count p))
    (ht : ∀ p m, I p m → transfer.wp M
      (fun outcome p' m' => ∃ r, outcome = .ok r ∧ I p' m') p m) :
    Faults M I (retrying transfer count) := by
  refine ⟨fun p m h => ?_⟩
  refine Proc.wp_mono (retryLoop_wp (L := I) (R := fun _ => I) st ?_ _ _ p m h) ?_
  · intro p m h
    refine Proc.wp_mono (ht p m h) ?_
    rintro outcome p' m' ⟨r, rfl, h'⟩
    exact ⟨r, rfl, fun _ _ => st.frame p' _ _ (hcount p') h', fun _ _ => h'⟩
  · rintro outcome p' m' ⟨hok, herr⟩
    cases outcome with
    | ok value => exact ⟨hok value rfl, fun _ hv => nomatch hv⟩
    -- an error that is returned has faulted the pump
    | error err => exact ⟨(herr err rfl).1, fun _ _ => Or.inl (herr err rfl).2⟩

omit [LoopFuel] in
/-- A transfer of one bus operation keeps what the operation keeps. -/
theorem OpKeeps.transfer {o : BusOp} (ho : OpKeeps M I o) (p : Pump) (m : M.State)
    (h : I p m) : (Proc.perform (E := BusEffect) o : PumpM _).wp M
      (fun outcome p' m' => ∃ r, outcome = .ok r ∧ I p' m') p m := by
  obtain ⟨hreq, hans⟩ := ho p m h
  exact (Proc.wp_perform p m (E := BusEffect) o _).2 ⟨hreq, fun r hr => ⟨r, rfl, hans r hr⟩⟩

/-- A read that fails for good has marked the session. -/
theorem read_faults (q : Retries M I) {addr : RegAddr} (h : OpKeeps M I (.read addr)) :
    Faults M I (read addr) :=
  retrying_faults q (fun _ => ⟨rfl, rfl, rfl, rfl, Or.inl rfl⟩) h.transfer

/-- So has a read of two registers. -/
theorem readPair_faults (q : Steady M I) {addr : RegAddr} (h : OpKeeps M I (.readPair addr)) :
    Faults M I (readPair addr) :=
  retrying_faults q.toRetries (fun _ => ⟨rfl, rfl, rfl, rfl, Or.inl rfl⟩) h.transfer

/-- So has a write. -/
theorem write_faults (q : Retries M I) {addr : RegAddr} {value : Byte}
    (h : OpKeeps M I (.write addr value)) : Faults M I (write addr value) :=
  retrying_faults q (fun _ => ⟨rfl, rfl, rfl, rfl, Or.inl rfl⟩) h.transfer

/-- Any register but the safety status may be read. -/
theorem read_keeps (q : Steady M I) {addr : RegAddr} (haddr : addr ≠ Regs.safetySts) :
    Proc.Keeps M I (read addr) :=
  (read_faults q.toRetries (q.read addr haddr)).keeps

/-- Two registers that may be read at once. -/
theorem readPair_keeps (q : Steady M I) {addr : RegAddr} (h : OpKeeps M I (.readPair addr)) :
    Proc.Keeps M I (readPair addr) :=
  (readPair_faults q h).keeps

/-- A register that may be written. -/
theorem write_keeps (q : Steady M I) {addr : RegAddr} {value : Byte}
    (h : OpKeeps M I (.write addr value)) : Proc.Keeps M I (write addr value) :=
  (write_faults q.toRetries h).keeps

omit [LoopFuel] in
/-- A setpoint out of range marks the session, and fails. -/
theorem faultOutOfRange_faults (q : Retries M I) (field : String) (requested : Nat) :
    Faults M I (faultOutOfRange field requested) := by
  refine ⟨fun p m h => ?_⟩
  unfold faultOutOfRange
  rw [Proc.wp_bind, Proc.wp_modify, Proc.thenWp_ok, Proc.wp_fail]
  exact ⟨q.frame p _ m ⟨rfl, rfl, rfl, rfl, Or.inr rfl⟩ h, fun _ _ => Or.inl rfl⟩

/-- A read-back that differs marks the session, and fails. -/
theorem verifyWrite_faults (q : Retries M I) {addr : RegAddr} (h : OpKeeps M I (.read addr))
    (value : Byte) (field : String) : Faults M I (verifyWrite addr value field) := by
  refine ⟨fun p m hI => ?_⟩
  unfold verifyWrite
  rw [Proc.wp_bind, Proc.wp_get, Proc.thenWp_ok]
  refine (Faults.when ?_).run p m hI
  exact (read_faults q h).bind fun _ => (faultOutOfRange_faults q _ _).when

/-- The read-back of a register that may be read. -/
theorem verifyWrite_keeps (q : Retries M I) {addr : RegAddr} (h : OpKeeps M I (.read addr))
    (value : Byte) (field : String) : Proc.Keeps M I (verifyWrite addr value field) :=
  (verifyWrite_faults q h value field).keeps

/-- A read-modify-write whose write is judged by the value just read: `S` ties the monitor
to that value until the write succeeds. -/
theorem update_keeps_of_read (q : Steady M I) {addr : RegAddr} {mask value : Byte}
    {field : String} {S : Byte → M.State → Prop} (haddr : addr ≠ Regs.safetySts)
    (hread : ∀ p m current, I p m → M.allow m (.read addr) (.ok current) →
      S current (M.next m (.read addr) (.ok current)))
    (hreset : ∀ current m r, S current m → S current (M.next m .reset r))
    (hwrite : ∀ current p m, I p m → S current m →
      M.require m (.write addr (mergeBits current mask value)) ∧
      ∀ r, M.allow m (.write addr (mergeBits current mask value)) r →
        I p (M.next m (.write addr (mergeBits current mask value)) r) ∧
        ∀ err, r = .error err →
          S current (M.next m (.write addr (mergeBits current mask value)) r)) :
    Proc.Keeps M I (update addr mask value field) := by
  refine ⟨fun p m h => (Proc.wp_bind p m _ _ _).2
    (Proc.wp_mono (read_wp q.toRetries (q.read addr haddr) hread h) ?_)⟩
  rintro outcome p' m' ⟨h', hS⟩
  cases outcome with
  | error err => exact h'
  | ok current =>
      refine (Proc.wp_bind p' m' _ _ _).2 ?_
      -- while the write is tried, the byte that was read stays at hand
      have hretries : Retries M fun p m => I p m ∧ S current m :=
        { frame := fun p p' m hp h => ⟨q.frame p p' m hp h.1, h.2⟩
          reset := fun p m h =>
            ⟨(q.reset p m h.1).1, fun r hr => ⟨(q.reset p m h.1).2 r hr, hreset _ _ _ h.2⟩⟩ }
      refine Proc.wp_mono (retryLoop_wp (L := fun p m => I p m ∧ S current m)
        (R := fun _ => I) hretries ?_ _ _ p' m' ⟨h', hS.1 current rfl⟩) ?_
      · rintro p m ⟨h, hcur⟩
        obtain ⟨hreq, hans⟩ := hwrite current p m h hcur
        refine (Proc.wp_perform p m (E := BusEffect) (BusOp.write addr _) _).2 ⟨hreq, ?_⟩
        intro r hr
        refine ⟨r, rfl, fun _ _ => q.frame p _ _ ⟨rfl, rfl, rfl, rfl, Or.inl rfl⟩ (hans r hr).1, ?_⟩
        exact fun err herr => ⟨(hans r hr).1, (hans r hr).2 err herr⟩
      · rintro outcome p'' m'' ⟨hok, herr⟩
        cases outcome with
        | ok _ =>
            exact (verifyWrite_keeps q.toRetries (q.read addr haddr) _ _).run p'' m'' (hok () rfl)
        | error err => exact (herr err rfl).1.1

/-- A read-modify-write asks for its read and its write. -/
theorem update_faults_of (q : Retries M I) {addr : RegAddr} {mask value : Byte} {field : String}
    (hread : OpKeeps M I (.read addr))
    (hwrite : ∀ current, OpKeeps M I (.write addr (mergeBits current mask value))) :
    Faults M I (update addr mask value field) := by
  refine (read_faults q hread).bind fun current => ?_
  exact (write_faults q (hwrite current)).bind fun _ => verifyWrite_faults q hread _ _

/-- A read-modify-write that fails has marked the session. -/
theorem update_faults (q : Steady M I) {addr : RegAddr} {mask value : Byte} {field : String}
    (haddr : addr ≠ Regs.safetySts)
    (h : ∀ current, OpKeeps M I (.write addr (mergeBits current mask value))) :
    Faults M I (update addr mask value field) :=
  update_faults_of q.toRetries (q.read addr haddr) h

/-- A read-modify-write whose write is kept, whatever was read. -/
theorem update_keeps (q : Steady M I) {addr : RegAddr} {mask value : Byte} {field : String}
    (haddr : addr ≠ Regs.safetySts)
    (h : ∀ current, OpKeeps M I (.write addr (mergeBits current mask value))) :
    Proc.Keeps M I (update addr mask value field) :=
  (update_faults q haddr h).keeps

/-- A verified write that fails has marked the session. -/
theorem writeVerified_faults (q : Steady M I) {addr : RegAddr} {value : Byte} {field : String}
    (haddr : addr ≠ Regs.safetySts) (h : OpKeeps M I (.write addr value)) :
    Faults M I (writeVerified addr value field) :=
  (write_faults q.toRetries h).bind fun _ => verifyWrite_faults q.toRetries (q.read addr haddr) _ _

omit [LoopFuel] in
/-- A mark that the invariant survives. -/
theorem mark_keeps {mk : Mark} (h : OpKeeps M I (.mark mk)) : Proc.Keeps M I (mark mk) :=
  h.perform

omit [LoopFuel] in
/-- A mark does not fail. -/
theorem mark_faults {mk : Mark} (h : OpKeeps M I (.mark mk)) : Faults M I (mark mk) := by
  refine ⟨fun p m hI => (Proc.wp_perform p m (E := BusEffect) _ _).2 ⟨(h p m hI).1, ?_⟩⟩
  exact fun r hr => ⟨(h p m hI).2 r hr, fun _ herr => nomatch herr⟩

omit [LoopFuel] in
/-- The safety status is no register of the housekeeping. -/
theorem ne_safetySts {addr : RegAddr} (haddr : addr ∈ housekeeping) : addr ≠ Regs.safetySts := by
  rintro rfl
  exact absurd haddr (by decide)

omit [LoopFuel] in
/-- Neither is the reset register. -/
theorem ne_bcOp2 {addr : RegAddr} (haddr : addr ∈ housekeeping) : addr ≠ Regs.bcOp2 := by
  rintro rfl
  exact absurd haddr (by decide)

/-- A read-modify-write of the housekeeping fails only with the session marked. -/
theorem Settled.update_faults (c : Settled M I) {addr : RegAddr} (haddr : addr ∈ housekeeping)
    (mask value : Byte) (field : String) : Faults M I (update addr mask value field) :=
  Ln8000.update_faults c.toSteady (ne_safetySts haddr) fun _ => c.write addr haddr _

/-- The housekeeping may be changed. -/
theorem Settled.update (c : Settled M I) {addr : RegAddr} (haddr : addr ∈ housekeeping)
    (mask value : Byte) (field : String) :
    Proc.Keeps M I (update addr mask value field) :=
  (c.update_faults haddr mask value field).keeps

/-- A verified write of the housekeeping fails only with the session marked. -/
theorem Settled.writeVerified_faults (c : Settled M I) {addr : RegAddr}
    (haddr : addr ∈ housekeeping) (value : Byte) (field : String) :
    Faults M I (writeVerified addr value field) :=
  Ln8000.writeVerified_faults c.toSteady (ne_safetySts haddr) (c.write addr haddr _)

/-- The housekeeping may be written. -/
theorem Settled.writeVerified (c : Settled M I) {addr : RegAddr} (haddr : addr ∈ housekeeping)
    (value : Byte) (field : String) : Proc.Keeps M I (writeVerified addr value field) :=
  (c.writeVerified_faults haddr value field).keeps

/-! ### Reads -/

omit [LoopFuel] in
/-- The check keeps everything, and refuses a closed session only. -/
theorem ensureOpen_faults : Faults M I ensureOpen := by
  refine ⟨fun p m h => ?_⟩
  unfold ensureOpen
  rw [Proc.wp_bind, Proc.wp_get, Proc.thenWp_ok]
  cases hclosed : p.state == .closed with
  | false => exact (Proc.wp_pure _ p m ()).2 ⟨h, fun _ herr => nomatch herr⟩
  | true => exact (Proc.wp_fail _ p m _).2 ⟨h, fun _ _ => Or.inr (by simpa using hclosed)⟩

omit [LoopFuel] in
/-- The check for an open session reads nothing. -/
theorem ensureOpen_keeps : Proc.Keeps M I ensureOpen := ensureOpen_faults.keeps

omit [LoopFuel] in
/-- The rule of a mark. -/
theorem mark_wp (mk : Mark) (Q : Except PumpError Unit → Pump → M.State → Prop) (p : Pump)
    (m : M.State) : (mark mk).wp M Q p m ↔
      M.require m (.mark mk) ∧ ∀ r, M.allow m (.mark mk) r → Q (.ok r) p (M.next m (.mark mk) r) :=
  Proc.wp_perform p m (E := BusEffect) (BusOp.mark mk) Q

omit [LoopFuel] in
/-- An open session passes the check. -/
theorem ensureOpen_wp {p : Pump} {m : M.State} {Q : Except PumpError Unit → Pump → M.State → Prop}
    (hopen : p.state ≠ .closed) (hQ : Q (.ok ()) p m) : ensureOpen.wp M Q p m := by
  have hcheck : (p.state == .closed) = false := by simpa using hopen
  unfold ensureOpen
  rw [Proc.wp_bind, Proc.wp_get, Proc.thenWp_ok, hcheck, Proc.when, if_neg (by decide),
    Proc.wp_pure]
  exact hQ

/-- A sample of a channel pauses the conversions and resumes them, around one pair. -/
theorem readAdc_keeps (c : Settled M I) {channel : AdcChannel}
    (h : OpKeeps M I (.readPair channel.register)) : Proc.Keeps M I (readAdc channel) := by
  refine (c.update (by decide) _ _ _).bind fun _ => ?_
  refine (readPair_keeps c.toSteady h).attempt.bind fun outcome => ?_
  refine (c.update (by decide) _ _ _).discard.bind fun _ => ?_
  exact (Proc.Keeps.ofExcept outcome).bind fun raw => Proc.Keeps.pure _

/-- The sample of a channel, with the pause of the converter around it. -/
theorem readAdcUv_keeps (c : Settled M I) {channel : AdcChannel}
    (h : OpKeeps M I (.readPair channel.register)) : Proc.Keeps M I (readAdcUv channel) :=
  ((readAdc_keeps c h).unwrapOr 0).bind fun _ => Proc.Keeps.pure _

/-- A sample tells the monitor its value: `S` ties the monitor to the decoded pair, and the
steps around the pair keep it. -/
theorem readAdc_wp (c : Settled M I) {channel : AdcChannel} {S : Int → M.State → Prop}
    (hpair : OpKeeps M I (.readPair channel.register))
    (hS : ∀ p m raw, I p m → M.allow m (.readPair channel.register) (.ok raw) →
      S (channel.decode raw) (M.next m (.readPair channel.register) (.ok raw)))
    (hkept : ∀ value, Settled M fun p m => I p m ∧ S value m) {p : Pump} {m : M.State}
    (h : I p m) :
    (readAdc channel).wp M
      (fun outcome p' m' => I p' m' ∧ ∀ value, outcome = .ok value → S value m') p m := by
  refine (c.update (by decide) _ _ _).wp_bind h ?_ fun _ _ _ h' => ⟨h', fun _ hv => nomatch hv⟩
  intro _ p m h
  rw [Proc.wp_bind, Proc.wp_attempt]
  refine Proc.wp_mono (retryLoop_wp (L := I)
    (R := fun raw p m => I p m ∧ S (channel.decode raw) m) c.toRetries ?_ _ _ p m h) ?_
  · intro p m h
    refine (Proc.wp_perform p m (E := BusEffect) (BusOp.readPair _) _).2 ⟨(hpair p m h).1, ?_⟩
    intro r hr
    refine ⟨r, rfl, ?_, fun _ _ => (hpair p m h).2 r hr⟩
    rintro raw rfl
    exact ⟨c.frame p _ _ ⟨rfl, rfl, rfl, rfl, Or.inl rfl⟩ ((hpair p m h).2 _ hr),
      hS p m raw h hr⟩
  · rintro outcome p m ⟨hok, herr⟩
    rw [Proc.thenWp_ok]
    -- the converter is resumed whether or not the pair could be read
    cases outcome with
    | ok raw =>
        have hresume : Proc.Keeps M (fun p m => I p m ∧ S (channel.decode raw) m)
            (Proc.discard (Ln8000.update Regs.timerCtrl Regs.timerCtrlPauseAdc 0 "adc_resume") :
              PumpM Unit) :=
          ((hkept (channel.decode raw)).update (by decide) _ _ _).discard
        refine hresume.wp_bind (hok raw rfl) ?_ fun _ _ _ h' => ⟨h'.1, fun _ hv => nomatch hv⟩
        intro _ p m h'
        refine (Proc.wp_bind p m _ _ _).2 ?_
        rw [Proc.wp_ofExcept, Proc.thenWp_ok, Proc.wp_pure]
        exact ⟨h'.1, fun value hv => Except.ok.inj hv ▸ h'.2⟩
    | error err =>
        have hresume : Proc.Keeps M I
            (Proc.discard (Ln8000.update Regs.timerCtrl Regs.timerCtrlPauseAdc 0 "adc_resume") :
              PumpM Unit) :=
          (c.update (by decide) _ _ _).discard
        refine hresume.wp_bind (herr err rfl).1 ?_ fun _ _ _ h' => ⟨h', fun _ hv => nomatch hv⟩
        intro _ p m h'
        refine (Proc.wp_bind p m _ _ _).2 ?_
        rw [Proc.wp_ofExcept, Proc.thenWp_error]
        exact ⟨h', fun _ hv => nomatch hv⟩

/-- A status pass that fails has marked the session. -/
theorem status_faults (c : Modes M I) : Faults M I status := by
  have hread : ∀ addr, addr ≠ Regs.safetySts → Faults M I (read addr) :=
    fun addr haddr => read_faults c.toRetries (c.read addr haddr)
  refine ensureOpen_faults.bind fun _ => ?_
  refine (hread _ (by decide)).bind fun _ => ?_
  refine (read_faults c.toRetries c.safety).bind fun _ => ?_
  refine (hread _ (by decide)).bind fun _ => (hread _ (by decide)).bind fun _ => ?_
  refine (hread _ (by decide)).bind fun _ => ?_
  exact Faults.bind (Faults.modify fun p m h => c.opMode p m _ h) fun _ => Faults.pure _

/-- A status pass notes the mode it has seen. -/
theorem status_keeps (c : Modes M I) : Proc.Keeps M I status := (status_faults c).keeps

/-- The status is read until the mode has settled, or the tries are over. -/
theorem settleLoop_faults (c : Modes M I) : ∀ n last, Faults M I (settleLoop n last) := by
  intro n
  induction n with
  | zero => exact fun last => Faults.pure last
  | succ n ih =>
      intro last
      rw [settleLoop]
      refine (status_faults c).bind fun st => ?_
      split
      · exact Faults.pure st
      · exact ih st

/-- So a settled status fails only with the session marked. -/
theorem settleAndReadStatus_faults (c : Modes M I) : Faults M I settleAndReadStatus :=
  (status_faults c).bind fun last => settleLoop_faults c 3 last

/-- It notes the mode, as every status pass does. -/
theorem settleAndReadStatus_keeps (c : Modes M I) : Proc.Keeps M I settleAndReadStatus :=
  (settleAndReadStatus_faults c).keeps

/-- The register read of a client is a read on an open session. -/
theorem readRegister_keeps (c : Modes M I) (addr : RegAddr) :
    Proc.Keeps M I (readRegister addr) := by
  refine ensureOpen_keeps.bind fun _ => ?_
  by_cases haddr : addr = Regs.safetySts
  · rw [haddr]
    exact (read_faults c.toRetries c.safety).keeps
  · exact read_keeps c.toSteady haddr

/-- The setpoint is read, not remembered. -/
theorem appliedIinUa_keeps (c : Modes M I) : Proc.Keeps M I appliedIinUa :=
  (readRegister_keeps c _).attempt.bind fun _ => Proc.Keeps.pure _

/-! ### Modes and setpoints -/

/-- A mode request is its mark and one read-modify-write of `SYS_CTRL`. -/
theorem setOpMode_keeps (c : Modes M I) {target : OpMode}
    (hmark : OpKeeps M I (.mark (.request target)))
    (hwrite : ∀ current bits, target.sysCtrlBits = .ok bits →
      OpKeeps M I (.write Regs.sysCtrl (mergeBits current OpMode.sysCtrlMask bits))) :
    Proc.Keeps M I (setOpMode target) := by
  refine ensureOpen_keeps.bind fun _ => Proc.Keeps.ofExcept_bind fun bits hbits => ?_
  refine (mark_keeps hmark).bind fun _ => ?_
  refine (update_keeps c.toSteady (by decide) fun current => hwrite current bits hbits).bind
    fun _ => ?_
  exact Proc.Keeps.modify fun p m h => c.opMode p m target h

/-- A request of a mode the chip has leaves the session down if it fails. -/
theorem setOpMode_faults (c : Modes M I) {target : OpMode} {bits : Byte}
    (hbits : target.sysCtrlBits = .ok bits) (hmark : OpKeeps M I (.mark (.request target)))
    (hwrite : ∀ current,
      OpKeeps M I (.write Regs.sysCtrl (mergeBits current OpMode.sysCtrlMask bits))) :
    Faults M I (setOpMode target) := by
  refine ensureOpen_faults.bind fun _ => Faults.ofExcept_bind hbits ?_
  refine (mark_faults hmark).bind fun _ => ?_
  refine (update_faults c.toSteady (by decide) hwrite).bind fun _ => ?_
  exact Faults.modify fun p m h => c.opMode p m target h

/-- The mode is confirmed by the status, and the session moves to the state reached. -/
theorem confirmMode_keeps (c : Modes M I) (wanted : OpMode) {reached : PumpState}
    (hreached : ∀ p m, I p m → I { p with state := reached } m) :
    Proc.Keeps M I (confirmMode wanted reached) := by
  refine (settleAndReadStatus_keeps c).bind fun st => ?_
  refine Proc.Keeps.ite (fun _ => Proc.Keeps.fail _) fun _ => ?_
  exact Proc.Keeps.bind (Proc.Keeps.modify hreached) fun _ => Proc.Keeps.pure _

/-- The way into 2:1 is a request and its confirmation. -/
theorem enableSwitching_keeps (c : Moves M I)
    (hswitching : Proc.Keeps M I (setOpMode .switching)) :
    Proc.Keeps M I enableSwitching :=
  hswitching.bind fun _ => confirmMode_keeps c.toModes _ c.switching

/-- The input current write carries the encoded limit in the bits of the field. -/
theorem writeIinLimit_keeps (q : Steady M I) {iinUa : Nat} {field : String}
    (h : ∀ code current, encodeIinLimit iinUa = .ok code →
      OpKeeps M I (.write Regs.iinCtrl (mergeBits current 0x7F code))) :
    Proc.Keeps M I (writeIinLimit iinUa field) := by
  refine Proc.Keeps.ofExcept_bind fun code hcode => ?_
  exact (update_keeps q (by decide) fun current => h code current hcode).bind
    fun _ => Proc.Keeps.pure _

/-- A setpoint asks for its write and for the profile that names it. -/
theorem setIinLimit_keeps {iinUa : Nat}
    (hwrite : Proc.Keeps M I (writeIinLimit iinUa "iin_limit"))
    (hprofile : ∀ p m, I p m → I { p with config := { p.config with iinLimitUa := iinUa } } m) :
    Proc.Keeps M I (setIinLimit iinUa) :=
  hwrite.bind fun _ => Proc.Keeps.bind (Proc.Keeps.modify hprofile) fun _ => Proc.Keeps.pure _

/-- A float voltage is housekeeping, and part of the profile. -/
theorem setVbatFloat_keeps (c : Settled M I) {vbatUv : Nat}
    (hprofile : ∀ p m, I p m →
      I { p with config := { p.config with vbatFloatUv := vbatUv } } m) :
    Proc.Keeps M I (setVbatFloat vbatUv) :=
  (c.writeVerified (by decide) _ _).bind fun _ =>
    Proc.Keeps.bind (Proc.Keeps.modify hprofile) fun _ => Proc.Keeps.pure _

/-- The latched faults are cleared by a pulse in the timer register. -/
theorem clearLatchedFaults_keeps (c : Settled M I) : Proc.Keeps M I clearLatchedFaults :=
  (c.update (by decide) _ _ _).bind fun _ => c.update (by decide) _ _ _

/-- So is the watchdog serviced. -/
theorem serviceWatchdog_keeps (c : Settled M I) : Proc.Keeps M I serviceWatchdog :=
  Proc.Keeps.get.bind fun _ => Proc.Keeps.when fun _ => c.update (by decide) _ _ _

/-- The masks and values of `FAULT_CTRL`, outside the recovery of the 5 V bypass: three steps
of `configure` and two before a 2:1 request. -/
def faultSteps : List (Byte × Byte) :=
  [(bit 5, 0), (bit 6, bit 6), (bit 4, 0),
    (Regs.faultCtrlDisableVbatOv, Regs.faultCtrlDisableVbatOv),
    (Regs.faultCtrlDisableVinOv, Regs.faultCtrlDisableVinOv)]

/-- What these steps ask for. -/
structure FaultRules (M : Machine BusEffect) (I : Pump → M.State → Prop) : Prop where
  fault : ∀ mask value field, (mask, value) ∈ faultSteps →
    Proc.Keeps M I (Ln8000.update Regs.faultCtrl mask value field)

/-- They ask for nothing where any write of `FAULT_CTRL` keeps `I`. -/
theorem FaultRules.of_write (q : Steady M I)
    (h : ∀ value, OpKeeps M I (.write Regs.faultCtrl value)) : FaultRules M I :=
  ⟨fun _ _ _ _ => update_keeps q (by decide) fun _ => h _⟩

/-- At the ceiling the over-voltage detector is masked, and a failure of that is dropped. -/
theorem raiseFloatAtCeiling_sure (c : Settled M I) (f : FaultRules M I) (floatUv vbatUv : Nat) :
    Sure M I (raiseFloatAtCeiling floatUv vbatUv) := by
  refine (Sure.when fun _ => discard_sure (c.writeVerified (by decide) _ _)).bind fun _ => ?_
  refine (discard_sure (f.fault _ _ _ (by decide))).bind fun _ => ?_
  exact discard_sure (clearLatchedFaults_keeps c)

/-- What the near-float preparation asks for beyond the calm steps: a `Vin` sample, and the
taper, which writes a current below the profile's. -/
structure TaperRules (M : Machine BusEffect) (I : Pump → M.State → Prop) : Prop where
  vinPair : OpKeeps M I (.readPair AdcChannel.vin.register)
  taper : ∀ p m tapered field, I p m → tapered < p.config.iinLimitUa →
    Proc.Keeps M I (writeIinLimit tapered field)

/-- The preparation drops every failure. Only with a raise of the float voltage does it write
a fault mask. -/
theorem prepareNearFloatForCharge_sure (c : Settled M I) (t : TaperRules M I)
    (allowFloatRaise : Bool) (f : allowFloatRaise = true → FaultRules M I) :
    Sure M I (prepareNearFloatForCharge allowFloatRaise) := by
  -- a sample that fails counts as 0
  have hsample : ∀ {channel : AdcChannel}, OpKeeps M I (.readPair channel.register) →
      Sure M I (readAdcUv channel) :=
    fun h => (unwrapOr_sure (readAdc_keeps c h) 0).bind fun _ => Sure.pure _
  refine (hsample (c.pair .vbat (by decide))).bind fun vbatUv => ?_
  refine (hsample t.vinPair).bind fun vinUv => ?_
  refine (unwrapOr_sure (read_keeps c.toSteady (by decide)) 0).bind fun fault1 => ?_
  refine Sure.get_bind fun p m hI => ?_
  simp only
  cases p.taperSetpointUa vbatUv vinUv (decide (fault1 &&& Regs.fault1VbatOv ≠ 0)) with
  -- not near the float voltage: nothing is written
  | none => exact Sure.pure ()
  | some tapered =>
      refine (Sure.when fun hraise => raiseFloatAtCeiling_sure c (f ?_) _ _).bind fun _ => ?_
      · exact (Bool.and_eq_true _ _).mp hraise |>.2
      refine Sure.when fun hlow => discard_sure (t.taper p m tapered _ hI ?_)
      simpa using hlow

/-- Near the float voltage the current is tapered and the float may be raised. -/
theorem prepareNearFloatForCharge_keeps (c : Settled M I) (t : TaperRules M I)
    (allowFloatRaise : Bool) (f : allowFloatRaise = true → FaultRules M I) :
    Proc.Keeps M I (prepareNearFloatForCharge allowFloatRaise) :=
  (prepareNearFloatForCharge_sure c t allowFloatRaise f).keeps

/-! ### Configuration and reset -/

/-- What the register steps of `configure` ask for beyond the calm ones. -/
structure SetupRules (M : Machine BusEffect) (I : Pump → M.State → Prop) : Prop
    extends FaultRules M I where
  reverse : ∀ field, Proc.Keeps M I (update Regs.sysCtrl (bit 2) 0 field)
  adc : ∀ value, OpKeeps M I (.write Regs.adcCtrl value)
  limit : ∀ p m code current, I p m → encodeIinLimit p.config.iinLimitUa = .ok code →
    OpKeeps M I (.write Regs.iinCtrl (mergeBits current 0x7F code))

/-- What `configure` asks for beyond the calm steps. -/
structure ConfigureRules (M : Machine BusEffect) (I : Pump → M.State → Prop) : Prop
    extends SetupRules M I where
  began : OpKeeps M I (.mark .configureBegin)
  ended : OpKeeps M I (.mark .configured)
  standby : Proc.Keeps M I (setOpMode .standby)

/-- The first half of the configuration writes the setpoints and thresholds. -/
theorem configureThresholds_keeps (c : Settled M I) (r : SetupRules M I) :
    Proc.Keeps M I configureThresholds := by
  refine Proc.Keeps.get_bind fun p m hI => ?_
  refine (c.writeVerified (by decide) _ _).bind fun _ => ?_
  refine (c.update (by decide) _ _ _).bind fun _ => ?_
  refine Proc.Keeps.ofExcept_bind fun code hcode => ?_
  refine (update_keeps c.toSteady (by decide) fun current => r.limit p m code current hI hcode).bind
    fun _ => ?_
  refine (c.writeVerified (by decide) _ _).bind fun _ => ?_
  refine (update_keeps c.toSteady (by decide) fun current => r.adc _).bind fun _ => ?_
  refine (c.update (by decide) _ _ _).bind fun _ => ?_
  exact c.update (by decide) _ _ _

/-- The protections are fault masks and housekeeping. -/
theorem configureProtections_keeps (c : Settled M I) (r : SetupRules M I) :
    Proc.Keeps M I configureProtections := by
  refine Proc.Keeps.get.bind fun pump => ?_
  refine (r.fault _ _ _ (by decide)).bind fun _ => ?_
  refine (r.fault _ _ _ (by decide)).bind fun _ => ?_
  refine (c.update (by decide) _ _ _).bind fun _ => ?_
  refine (c.update (by decide) _ _ _).bind fun _ => ?_
  refine (c.update (by decide) _ _ _).bind fun _ => ?_
  refine (c.update (by decide) _ _ _).bind fun _ => ?_
  refine (c.update (by decide) _ _ _).bind fun _ => ?_
  refine (c.update (by decide) _ _ _).bind fun _ => ?_
  exact r.reverse _

/-- The second half writes the timers and the converter. -/
theorem configureTimers_faults (c : Settled M I)
    (hadc : ∀ value, OpKeeps M I (.write Regs.adcCtrl value)) :
    Faults M I configureTimers := by
  have hupdate : ∀ {addr}, addr ∈ housekeeping → ∀ mask value field,
      Faults M I (update addr mask value field) :=
    fun haddr mask value field => c.update_faults haddr mask value field
  have hmode : ∀ mask value field, Faults M I (update Regs.adcCtrl mask value field) :=
    fun mask value field => update_faults c.toSteady (by decide) fun _ => hadc _
  refine Faults.get_bind fun pump => ?_
  refine (hupdate (by decide) _ _ _).bind fun _ => (hupdate (by decide) _ _ _).bind fun _ => ?_
  refine (hmode _ _ _).bind fun _ => (hmode _ _ _).bind fun _ => ?_
  refine (c.writeVerified_faults (by decide) _ _).bind fun _ => (hmode _ _ _).bind fun _ => ?_
  refine (hupdate (by decide) _ _ _).bind fun _ => ?_
  exact c.writeVerified_faults (by decide) _ _

/-- The steps of `configure`, once it has begun. -/
theorem configureSteps_keeps (c : Modes M I) (r : SetupRules M I)
    (hstandby : Proc.Keeps M I (setOpMode .standby)) (hended : OpKeeps M I (.mark .configured)) :
    Proc.Keeps M I (do
      configureThresholds
      configureProtections
      setOpMode .standby
      update Regs.faultCtrl (bit 4) 0 "enable_vac_ov"
      configureTimers
      Proc.modify fun p => { p with state := .configured }
      mark .configured : PumpM Unit) := by
  -- the groups of writes in their order
  refine (configureThresholds_keeps c.toSettled r).bind fun _ => ?_
  refine (configureProtections_keeps c.toSettled r).bind fun _ => ?_
  refine hstandby.bind fun _ => (r.fault _ _ _ (by decide)).bind fun _ => ?_
  refine (configureTimers_faults c.toSettled r.adc).keeps.bind fun _ => ?_
  exact Proc.Keeps.bind (Proc.Keeps.modify c.configured) fun _ => mark_keeps hended

/-- A configuration begins with its mark and ends with another. -/
theorem configure_keeps (c : Modes M I) (r : ConfigureRules M I) :
    Proc.Keeps M I configure := by
  refine ensureOpen_keeps.bind fun _ => (mark_keeps r.began).bind fun _ => ?_
  exact configureSteps_keeps c r.toSetupRules r.standby r.ended

/-- A reset unlocks the chip, sets one bit, and waits. -/
theorem softReset_keeps (c : Modes M I)
    (h : ∀ current, OpKeeps M I (.write Regs.bcOp2 (current ||| bit 0))) :
    Proc.Keeps M I softReset := by
  refine (write_keeps c.toSteady (c.write _ (by decide) _)).bind fun _ => ?_
  refine ((read_keeps c.toSteady (by decide)).unwrapOr 0).bind fun current => ?_
  exact (write_keeps c.toSteady (h current)).bind fun _ => Proc.Keeps.modify c.probed

/-- The converter is set by one read-modify-write. -/
theorem setAdcMode_keeps (q : Steady M I) {mode : AdcMode}
    (h : ∀ current, OpKeeps M I
      (.write Regs.adcCtrl (mergeBits current (0x07 <<< 5) (mode.code <<< 5)))) :
    Proc.Keeps M I (setAdcMode mode) :=
  update_keeps q (by decide) h

/-! ### Recovery of the 5 V bypass -/

/-- The budget of resets is a matter of the session. -/
theorem checkPorBudget_keeps (q : Steady M I) (vinNow : Nat) :
    Proc.Keeps M I (checkPorBudget vinNow) := by
  refine Proc.Keeps.get.bind fun pump => ?_
  cases hprev : pump.porVinUv with
  | none => exact Proc.Keeps.pure ()
  | some prev =>
      refine ((read_keeps q (by decide)).unwrapOr 0).bind fun fault1 => ?_
      refine Proc.Keeps.ite (fun _ => ?_) fun _ => Proc.Keeps.pure ()
      exact ((read_keeps q (by decide)).unwrapOr 0).bind fun rawStatus => Proc.Keeps.fail _

/-- The bypass at 5 V is preceded by its fault mask. -/
theorem arm5vBypassFaultMask_keeps (c : Settled M I)
    (hfault : ∀ value, OpKeeps M I (.write Regs.faultCtrl value)) :
    Proc.Keeps M I arm5vBypassFaultMask :=
  (update_keeps c.toSteady (by decide) fun _ => hfault _).bind fun _ => clearLatchedFaults_keeps c

/-- The first stage asks for 1:1 behind the masks. -/
theorem recoverMasked_keeps (c : Modes M I)
    (hfault : ∀ value, OpKeeps M I (.write Regs.faultCtrl value))
    (hbypass : Proc.Keeps M I (setOpMode .bypass)) : Proc.Keeps M I recoverMasked := by
  refine Proc.Keeps.bind (Proc.Keeps.modify fun p m h => c.bypassStage p m 3 h) fun _ => ?_
  refine (arm5vBypassFaultMask_keeps c.toSettled hfault).discard.bind fun _ => ?_
  refine hbypass.bind fun _ => ?_
  refine (settleAndReadStatus_keeps c).bind fun st => Proc.Keeps.ite (fun _ => ?_) fun _ => ?_
  · exact Proc.Keeps.bind (Proc.Keeps.modify c.configured) fun _ => Proc.Keeps.pure _
  · have hunmask : Proc.Keeps M I
        (update Regs.faultCtrl Regs.faultCtrlMask5vBypass 0 "unmask_after_failed_bypass") :=
      update_keeps c.toSteady (by decide) fun _ => hfault _
    exact hunmask.discard.bind fun _ => Proc.Keeps.fail _

/-- The third stage samples, tapers, unmasks and asks for 1:1 again. -/
theorem recoverClean_keeps (c : Modes M I) (t : TaperRules M I)
    (hfault : ∀ value, OpKeeps M I (.write Regs.faultCtrl value))
    (hbypass : Proc.Keeps M I (setOpMode .bypass)) : Proc.Keeps M I recoverClean := by
  refine hbypass.bind fun _ => (settleAndReadStatus_keeps c).bind fun st => ?_
  refine Proc.Keeps.ite (fun _ => ?_) fun _ => recoverMasked_keeps c hfault hbypass
  refine Proc.Keeps.bind (Proc.Keeps.modify c.configured) fun _ => ?_
  exact (prepareNearFloatForCharge_keeps c.toSettled t false nofun).bind fun _ =>
    Proc.Keeps.pure _

/-- It follows a configuration whose result is dropped. -/
theorem recoverConfigured_keeps (c : Modes M I) (t : TaperRules M I)
    (hconfigure : Proc.Keeps M I configure) (hclean : Proc.Keeps M I recoverClean) :
    Proc.Keeps M I recoverConfigured := by
  refine hconfigure.discard.bind fun _ => ?_
  refine ((readAdc_keeps c.toSettled t.vinPair).unwrapOr 0).bind fun vin => ?_
  refine (readAdcUv_keeps c.toSettled (c.pair .vbat (by decide))).bind fun vbat => ?_
  exact Proc.Keeps.ite (fun _ => Proc.Keeps.fail _) fun _ => hclean

/-- And that follows the reset of the second stage. -/
theorem resetAndRecover_keeps (c : Modes M I) (hreset : Proc.Keeps M I softReset)
    (hrest : Proc.Keeps M I recoverConfigured) : Proc.Keeps M I resetAndRecover := by
  refine hreset.discard.bind fun _ =>
    Proc.Keeps.bind (Proc.Keeps.modify fun p m h => c.bypassStage p m 2 h) fun _ => ?_
  exact c.delay.perform.bind fun _ => hrest

/-- The recovery is entered at 5 V only, within its budget. -/
theorem recover5vBypass_keeps (c : Calm M I)
    (hvin : OpKeeps M I (.readPair AdcChannel.vin.register))
    (hrest : Proc.Keeps M I resetAndRecover) : Proc.Keeps M I recover5vBypass := by
  refine (readAdcUv_keeps c.toSettled hvin).bind fun vinNow => ?_
  refine (checkPorBudget_keeps c.toSteady vinNow).bind fun _ => ?_
  exact (c.modify (by simp [Pump.Continues])).bind fun _ => hrest

/-- The way into 1:1 samples the input and asks for the mode. -/
theorem enableBypass_keeps (c : Modes M I)
    (hvin : OpKeeps M I (.readPair AdcChannel.vin.register))
    (hbypass : Proc.Keeps M I (setOpMode .bypass)) : Proc.Keeps M I enableBypass := by
  refine (readAdc_keeps c.toSettled hvin).bind fun vin => ?_
  refine (readAdcUv_keeps c.toSettled (c.pair .vbat (by decide))).bind fun vbat => ?_
  refine Proc.Keeps.ite (fun _ => Proc.Keeps.fail _) fun _ => ?_
  exact hbypass.bind fun _ => confirmMode_keeps c _ c.configured

/-! ### Charge start and stop -/

/-- What a charge start or stop asks for beyond the calm steps: the mode writes, the taper,
and the two ways into 1:1. -/
structure ChargeRules (M : Machine BusEffect) (I : Pump → M.State → Prop) : Prop
    extends TaperRules M I, FaultRules M I where
  reverse : ∀ field, Proc.Keeps M I (update Regs.sysCtrl (bit 2) 0 field)
  standby : Proc.Keeps M I (setOpMode .standby)
  switching : Proc.Keeps M I (setOpMode .switching)
  enableBypass : Proc.Keeps M I enableBypass
  recover : Proc.Keeps M I recover5vBypass

/-- If 2:1 is refused, 1:1 is tried. -/
theorem enableSwitchingOrBypass_keeps (c : Moves M I) (r : ChargeRules M I) :
    Proc.Keeps M I enableSwitchingOrBypass := by
  refine (enableSwitching_keeps c r.switching).attempt.bind fun first => ?_
  cases first with
  | ok mode => exact Proc.Keeps.pure mode
  | error switchingError =>
      refine r.enableBypass.attempt.bind fun second => ?_
      cases second with
      | ok mode => exact Proc.Keeps.pure mode
      | error _ => exact Proc.Keeps.fail _

/-- Before 2:1 the over-voltage detector of the input is masked. -/
theorem prepareElevated_keeps (c : Settled M I) (t : TaperRules M I) (f : FaultRules M I)
    (want : OpMode) : Proc.Keeps M I (prepareElevated want) := by
  refine (prepareNearFloatForCharge_keeps c t true fun _ => f).bind fun _ => ?_
  refine (clearLatchedFaults_keeps c).discard.bind fun _ => ?_
  exact Proc.Keeps.when fun _ => (f.fault _ _ _ (by decide)).discard

/-- The mode wanted, by whichever way leads into it. -/
theorem requestMode_keeps (c : Moves M I) (r : ChargeRules M I) (want : OpMode) :
    Proc.Keeps M I (requestMode want) := by
  cases want with
  | unknown => exact Proc.Keeps.fail _
  | standby => exact Proc.Keeps.fail _
  | switching => exact enableSwitching_keeps c r.switching
  | bypass =>
      refine Proc.Keeps.bind (Proc.Keeps.modify fun p m h => c.bypassStage p m 1 h) fun _ => ?_
      refine r.enableBypass.attempt.bind fun first => ?_
      cases first with
      | ok mode => exact Proc.Keeps.pure mode
      | error _ => exact r.recover

/-- A start prepares, requests, and recovers at 5 V. -/
theorem startCharging_keeps (c : Moves M I) (r : ChargeRules M I) (want : OpMode) :
    Proc.Keeps M I (startCharging want) := by
  refine Proc.Keeps.get.bind fun pump => ?_
  refine (Proc.Keeps.when fun _ => (c.update (by decide) _ _ _).discard).bind fun _ => ?_
  refine Proc.Keeps.bind (Proc.Keeps.modify fun p m h => c.bypassStage p m 0 h) fun _ => ?_
  refine (Proc.Keeps.when fun _ => ?_).bind fun _ => ?_
  · exact prepareElevated_keeps c.toSettled r.toTaperRules r.toFaultRules want
  refine (requestMode_keeps c r want).attempt.bind fun result => ?_
  cases result with
  | ok mode =>
      refine Proc.Keeps.bind (Proc.Keeps.modify fun p m h => ?_) fun _ => ?_
      · have hmode := c.opMode p m mode h
        -- the state is switching only for the mode of that name
        by_cases hswitching : mode = .switching
        · rw [if_pos hswitching]
          exact c.switching _ m hmode
        · rw [if_neg hswitching]
          exact c.configured _ m hmode
      refine (Proc.Keeps.when fun _ => ?_).bind fun _ => Proc.Keeps.pure mode
      exact prepareNearFloatForCharge_keeps c.toSettled r.toTaperRules false nofun
  | error err =>
      exact (Proc.Keeps.when fun _ => r.standby.discard).bind fun _ => Proc.Keeps.fail err

/-- A stop is a request for standby, and bookkeeping. -/
theorem stopCharging_keeps (c : Calm M I) (hstandby : Proc.Keeps M I (setOpMode .standby)) :
    Proc.Keeps M I stopCharging := by
  refine (c.modify (by simp [Pump.Continues])).bind fun _ => hstandby.bind fun _ => ?_
  refine (settleAndReadStatus_keeps c.toModes).bind fun st => ?_
  exact (c.modify (by simp [Pump.Continues])).bind fun _ => Proc.Keeps.pure _

/-- The decision takes a sample of the input and one of the cell. -/
theorem chargeFromSamples_keeps (c : Moves M I) (r : ChargeRules M I) :
    Proc.Keeps M I chargeFromSamples := by
  refine ((readAdc_keeps c.toSettled r.vinPair).unwrapOr 0).bind fun vin => ?_
  refine (readAdcUv_keeps c.toSettled (c.pair .vbat (by decide))).bind fun vbat => ?_
  cases chargeMode vin vbat with
  | none => exact r.standby.discard.bind fun _ => Proc.Keeps.fail _
  | some want => exact startCharging_keeps c r want

/-- Either way, a start or a stop. -/
theorem setCharging_keeps (c : Calm M I) (r : ChargeRules M I) (on : Bool) :
    Proc.Keeps M I (setCharging on) := by
  refine (r.reverse _).bind fun _ => Proc.Keeps.ite (fun _ => ?_) fun _ => ?_
  · exact stopCharging_keeps c r.standby
  · exact chargeFromSamples_keeps c.toMoves r

/-- The register write of a client is a write on an open session. -/
theorem writeRegister_keeps (c : Modes M I) {addr : RegAddr} {value : Byte}
    (h : OpKeeps M I (.write addr value)) : Proc.Keeps M I (writeRegister addr value) := by
  refine ensureOpen_keeps.bind fun _ => Proc.Keeps.ite (fun _ => ?_) fun _ => ?_
  · exact write_keeps c.toSteady h
  · refine (write_keeps c.toSteady h).bind fun _ => ?_
    by_cases haddr : addr = Regs.safetySts
    · rw [haddr]
      exact verifyWrite_keeps c.toRetries c.safety _ _
    · exact verifyWrite_keeps c.toRetries (c.read addr haddr) _ _

/-- A session that is closed puts the chip into standby, if it can. -/
theorem close_keeps
    (h : Proc.Keeps M I
      (update Regs.sysCtrl OpMode.sysCtrlMask Regs.sysCtrlStandbyEn "close_standby"))
    (hclosed : ∀ p m, I p m → I { p with state := .closed, opMode := .standby } m) :
    Proc.Keeps M I close := by
  refine Proc.Keeps.get.bind fun pump => Proc.Keeps.when fun _ => ?_
  exact h.discard.bind fun _ => Proc.Keeps.modify hclosed

end

end Ln8000
