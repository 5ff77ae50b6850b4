import NabuCharger.Core.Session

/-!
# `Proofs.DetectTiming`: the clock and the reruns of a detection

A detection has a start time and a rerun counter. Both are reset by `reinit` only. Three laws
speak of them, over a whole run of calls.

* A detection step reports the time since its attempt began, in the state `detecting`. An
  attempt begins after `open`, `reinit` or a completed detection. The start time outlives a
  completed detection and a fault, so the law holds in a run whose detection steps find it
  cleared or are in the middle of a detection (`perAttempt`).
* A rerun for a timeout should give APSD a full window. The code leaves the start time alone, so
  the next incomplete poll reruns or fails at once: the law holds exactly in the runs whose
  polls come a window later (`fullWindow_iff`).
* Reruns are bounded by their budget, and so are the steps that answer `pending` once the time
  is up (`bounded_detection`). This one holds as it stands.

`attemptStart` and `rerunAt` keep the two times a caller would keep, from the calls alone.
-/

set_option autoImplicit false

namespace ChargerCore

open Effectful

/-- The time a detection step polled at. -/
def pollTime (turn : CoreTurn) : Option Nat := (clocks turn.trace).head?

/-- The time a detection step that answered `pending` reported. -/
def pendingOf : Except ChargerError Answer → Option Nat
  | .ok (.detection (.pending elapsedMs _)) => some elapsedMs
  | .ok (.detection (.ready _)) => none
  | .ok (.plan _) => none
  | .ok (.monitor _) => none
  | .ok .done => none
  | .error _ => none

/-- The time a detection step that gave up reported. -/
def waitedOf : Except ChargerError Answer → Option Nat
  | .ok _ => none
  | .error (.detectionTimeout waitedMs) => some waitedMs
  | .error _ => none

/-- A detection step that identified an adapter. -/
def completes (turn : CoreTurn) : Bool :=
  match turn.result with
  | .ok (.detection (.ready _)) => true
  | _ => false

/-- A monotone clock. The state is its last reading. -/
def steadyClock : Machine ChargerEffect where
  State := Nat
  allow last
    | .nowMs => fun (now : Nat) => last ≤ now
    | .read _ => fun _ => True
    | .write _ _ => fun _ => True
    | .reset => fun _ => True
    | .name => fun _ => True
    | .event _ => fun _ => True
  require _ _ := True
  next last
    | .nowMs => fun (now : Nat) => now
    | .read _ => fun _ => last
    | .write _ _ => fun _ => last
    | .reset => fun _ => last
    | .name => fun _ => last
    | .event _ => fun _ => last

instance (t : List (Event ChargerEffect)) (now : Nat) : Decidable (steadyClock.Allowed now t) :=
  @Machine.decidableAllowed _ steadyClock
    (fun last o answer =>
      match o with
      | .nowMs => Nat.decLe last answer
      | .read _ => isTrue trivial
      | .write _ _ => isTrue trivial
      | .reset => isTrue trivial
      | .name => isTrue trivial
      | .event _ => isTrue trivial) now t

/-- The readings of a monotone clock lie between its ends. -/
theorem steadyClock_bounds {t : List (Event ChargerEffect)} : ∀ {last : Nat},
    steadyClock.Allowed last t → last ≤ steadyClock.after last t ∧
      ∀ now ∈ clocks t, last ≤ now ∧ now ≤ steadyClock.after last t := by
  -- induction on the trace: the clock is read in order, so each reading lies between the ends
  induction t with
  | nil => exact fun _ => ⟨Nat.le_refl _, fun now hmem => nomatch hmem⟩
  | cons e t ih =>
      intro last hallow
      obtain ⟨hend, hrest⟩ := ih hallow.2
      obtain ⟨o, answer⟩ := e
      cases o with
      | nowMs =>
          have hlast : last ≤ (answer : Nat) := hallow.1
          refine ⟨Nat.le_trans hlast hend, ?_⟩
          intro now hmem
          rcases List.mem_cons.1 hmem with rfl | hmem
          · exact ⟨hlast, hend⟩
          · exact ⟨Nat.le_trans hlast (hrest now hmem).1, (hrest now hmem).2⟩
      | read addr => exact ⟨hend, hrest⟩
      | write addr value => exact ⟨hend, hrest⟩
      | reset => exact ⟨hend, hrest⟩
      | name => exact ⟨hend, hrest⟩
      | event record => exact ⟨hend, hrest⟩

/-- A poll under a monotone clock. -/
theorem steadyClock_poll {t : List (Event ChargerEffect)} {last now : Nat}
    (hallow : steadyClock.Allowed last t) (hpoll : (clocks t).head? = some now) :
    last ≤ now ∧ now ≤ steadyClock.after last t :=
  (steadyClock_bounds hallow).2 now (List.mem_of_head? hpoll)

/-! ### The time of an attempt -/

/-- When the attempt that is running began: at the poll of its first step. -/
def attemptStart (start : Option Nat) (turn : CoreTurn) : Option Nat :=
  match turn.op with
  | .reinit => none
  | .detectStep => if completes turn then none else start.or (pollTime turn)
  | .apply _ => start
  | .monitor => start
  | .close => start

/-- How long the attempt of a step has been running at its poll. -/
def attemptTime (start : Option Nat) (turn : CoreTurn) : Option Nat :=
  (pollTime turn).map fun now => now - start.getD now

/-- A detection step that starts a detection or is in the middle of one. -/
def Unspent (turn : CoreTurn) : Prop :=
  turn.op = .detectStep → turn.start.state = .closed ∨ turn.start.detectStartedMs = none ∨
    turn.start.state = .detecting

/-- A detection step that reports the time of its attempt: `pending` in the state `detecting`,
and a timeout only when that time is up. -/
def PerAttempt (start : Option Nat) (turn : CoreTurn) : Prop :=
  turn.op = .detectStep →
    (∀ elapsed ∈ pendingOf turn.result,
      turn.finish.state = .detecting ∧ attemptTime start turn = some elapsed) ∧
    ∀ waited ∈ waitedOf turn.result,
      turn.start.config.detectTimeoutMs ≤ waited ∧ attemptTime start turn = some waited

instance (turn : CoreTurn) : Decidable (Unspent turn) :=
  inferInstanceAs (Decidable (_ → _ ∨ _ ∨ _))

instance (start : Option Nat) (turn : CoreTurn) : Decidable (PerAttempt start turn) :=
  inferInstanceAs (Decidable (_ → (∀ elapsed ∈ pendingOf turn.result, _) ∧
    ∀ waited ∈ waitedOf turn.result, _))

/-- The start time the session keeps, against the one of the attempt. -/
structure Timed (s : Charger) (start : Option Nat) : Prop where
  fresh : s.detectStartedMs = none → start = none
  running : s.state = .detecting → s.detectStartedMs = start

/-- A session that is not in a detection, with the start time as it was. -/
theorem Timed.aside {s s' : Charger} {start : Option Nat} (h : Timed s start)
    (hstarted : s'.detectStartedMs = s.detectStartedMs)
    (hstate : s'.state = .detecting → s.state = .detecting) : Timed s' start where
  fresh hnone := h.fresh (hstarted.symm.trans hnone)
  running hdetecting := by
    rw [hstarted]
    exact h.running (hstate hdetecting)

/-- A session outside a detection that keeps no other start time than the attempt's. -/
theorem Timed.of_ne {s : Charger} {start : Option Nat} (hstate : s.state ≠ .detecting)
    (hfresh : s.detectStartedMs = none → start = none) : Timed s start :=
  ⟨hfresh, fun hdetecting => absurd hdetecting hstate⟩

/-- Link errors are no timeouts. -/
theorem LinkError.waitedOf {err : ChargerError} (h : LinkError err) :
    waitedOf (.error err) = none := by
  cases h <;> rfl

/-- The answers of a detection step: pending with its time in the state it polls in, a timeout
with its time, or neither. -/
theorem DetectExit.answers {s s' : Charger} {now : Nat} {t : List (Event ChargerEffect)}
    {r : Except ChargerError Detection} (h : DetectExit s now t r s') :
    (pendingOf (r.map .detection) = some (now - s.startedAt now) ∧
        waitedOf (r.map .detection) = none ∧ s'.state = s.polling) ∨
      (pendingOf (r.map .detection) = none ∧ s'.state ≠ .detecting ∧
        ∀ waited ∈ waitedOf (r.map .detection),
          s.config.detectTimeoutMs ≤ waited ∧ waited = now - s.startedAt now) := by
  have hlost {err : ChargerError} (hlink : LinkError err) (hstate : s'.state = .faulted) :
      s'.state ≠ .detecting ∧ ∀ waited ∈ waitedOf (.error err),
        s.config.detectTimeoutMs ≤ waited ∧ waited = now - s.startedAt now := by
    refine ⟨by rw [hstate]; decide, fun waited hmem => ?_⟩
    rw [hlink.waitedOf] at hmem
    nomatch hmem
  -- the exits that wait, and the exits that are done with the attempt
  cases h with
  | linkLost hlink _ _ _ hstate => exact .inr ⟨rfl, hlost hlink hstate⟩
  | ready _ _ _ hstate =>
      exact .inr ⟨rfl, by rw [hstate]; decide, fun waited hmem => nomatch hmem⟩
  | waiting _ _ _ _ _ hstate => exact .inl ⟨rfl, rfl, hstate⟩
  | rerun _ _ _ _ _ _ _ hresult =>
      rcases hresult with ⟨n, rfl, hstate⟩ | ⟨err, rfl, hlink, hstate⟩
      · exact .inl ⟨rfl, rfl, hstate⟩
      · exact .inr ⟨rfl, hlost hlink hstate⟩
  | timedOut _ _ htime _ _ hstate =>
      refine .inr ⟨rfl, by rw [hstate]; decide, fun waited hmem => ?_⟩
      cases hmem
      exact ⟨htime, rfl⟩
  | rejected herr _ _ _ hstate =>
      refine .inr ⟨rfl, by rw [hstate]; decide, fun waited hmem => ?_⟩
      rcases herr with ⟨raw, rfl⟩ | ⟨raw, rfl⟩ <;> nomatch hmem

/-- A completed detection is `ready`, so a pending one is not complete. -/
theorem completes_of_pendingOf {turn : CoreTurn} {elapsed : Nat}
    (h : pendingOf turn.result = some elapsed) : completes turn = false := by
  rw [completes]
  match hresult : turn.result with
  | .ok (.detection (.pending _ _)) => rfl
  | .ok (.detection (.ready _)) =>
      rw [hresult] at h
      nomatch h
  | .ok (.plan _) => rfl
  | .ok (.monitor _) => rfl
  | .ok .done => rfl
  | .error _ => rfl

/-- A step that finds its start time cleared, or is in a detection, polls in `detecting` and
measures from the start of its attempt. -/
theorem Timed.of_unspent {s : Charger} {start : Option Nat} (h : Timed s start) (now : Nat)
    (hunspent : s.detectStartedMs = none ∨ s.state = .detecting) :
    s.polling = .detecting ∧ s.startedAt now = start.getD now := by
  rcases hunspent with hnone | hdetecting
  · rw [Charger.polling, if_pos hnone, Charger.startedAt, hnone, h.fresh hnone]
    exact ⟨rfl, rfl⟩
  · rw [Charger.polling, hdetecting, Charger.startedAt, h.running hdetecting]
    exact ⟨ite_self _, rfl⟩

/-- The step: it reports the time of its attempt, and the two start times go on together. -/
theorem CallSpec.attempts_perAttempt {s s' : Charger} {t : List (Event ChargerEffect)} {op : Call}
    {r : Except ChargerError Answer} {start : Option Nat} (h : CallSpec s t op r s')
    (hs : Timed s start) (hunspent : Unspent ⟨op, s, t, r, s'⟩) :
    PerAttempt start ⟨op, s, t, r, s'⟩ ∧ Timed s' (attemptStart start ⟨op, s, t, r, s'⟩) := by
  have hother (hop : op ≠ .detectStep) : PerAttempt start ⟨op, s, t, r, s'⟩ :=
    fun heq => absurd heq hop
  -- one case per call; only a poll can wait or time out
  cases h with
  | refused hclosed ht =>
      subst ht
      refine ⟨fun _ => ⟨fun _ hmem => (nomatch hmem), fun _ hmem => (nomatch hmem)⟩, ?_⟩
      refine .of_ne (by rw [hclosed]; decide) fun hnone => ?_
      rw [hs.fresh hnone]
      cases op <;> rfl
  | closeAgain => exact ⟨hother (by decide), hs⟩
  | @detectStep r _ now hopen h =>
      have hpoll : pollTime ⟨.detectStep, s, t, r.map .detection, s'⟩ = some now := h.polled
      obtain ⟨hpolling, hstarted⟩ := hs.of_unspent now ((hunspent rfl).resolve_left hopen)
      -- a poll is judged by the start its attempt recorded, which the charger still holds
      have htime : attemptTime start ⟨.detectStep, s, t, r.map .detection, s'⟩ =
          some (now - s.startedAt now) := by
        rw [attemptTime, hpoll, hstarted]
        rfl
      have hkept : s'.detectStartedMs ≠ none := by
        rw [h.started]
        nofun
      rcases h.ends.answers with ⟨hpending, hwaited, hstate⟩ | ⟨hpending, hstate, hwaited⟩
      · refine ⟨fun _ => ⟨fun elapsed hmem => ?_, fun waited hmem => ?_⟩, ?_⟩
        · cases hpending.symm.trans hmem
          exact ⟨hstate.trans hpolling, htime⟩
        · nomatch hwaited.symm.trans hmem
        · refine ⟨fun hnone => absurd hnone hkept, fun _ => ?_⟩
          rw [attemptStart, completes_of_pendingOf hpending, hpoll, h.started, hstarted]
          cases start <;> rfl
      · refine ⟨fun _ => ⟨fun elapsed hmem => ?_, fun waited hmem => ?_⟩, ?_⟩
        · nomatch hpending.symm.trans hmem
        · obtain ⟨htimeout, rfl⟩ := hwaited waited hmem
          exact ⟨htimeout, htime⟩
        · exact .of_ne hstate fun hnone => absurd hnone hkept
  | apply _ h =>
      refine ⟨hother nofun, hs.aside h.aside.started fun hdetecting => ?_⟩
      rcases h.ends with ⟨plan, -, -, hstate, -⟩ | ⟨err, -, hstate, -⟩ <;>
        rw [hstate] at hdetecting <;> nomatch hdetecting
  | monitor _ h =>
      refine ⟨hother (by decide), hs.aside h.aside.started fun hdetecting => ?_⟩
      cases h.ends with
      | failed _ hstate =>
          rw [hstate] at hdetecting
          nomatch hdetecting
      | detached _ _ hstate => exact hstate.symm.trans hdetecting
      | answered _ hstate => exact hstate.symm.trans hdetecting
  | reinit _ h =>
      refine ⟨hother (by decide), .of_ne ?_ fun _ => rfl⟩
      cases h.ends with
      | resetFailed _ _ _ hstate => rw [hstate]; decide
      | probed _ _ hstate => rw [hstate]; decide
  | close _ h =>
      refine ⟨hother (by decide), hs.aside h.aside.started fun hdetecting => ?_⟩
      rw [h.state] at hdetecting
      nomatch hdetecting

/-- A pending step is in the state `detecting` exactly when it started the detection or was in
the middle of it. -/
theorem CallSpec.pending_iff {s s' : Charger} {t : List (Event ChargerEffect)} {op : Call}
    {r : Except ChargerError Answer} (h : CallSpec s t op r s')
    (hpending : pendingOf r ≠ none) :
    s'.state = .detecting ↔ Unspent ⟨op, s, t, r, s'⟩ := by
  -- only a poll can answer pending
  cases h with
  | refused => exact absurd rfl hpending
  | closeAgain => exact absurd rfl hpending
  | @detectStep r _ _ hopen h =>
      rcases h.ends.answers with ⟨-, -, hstate⟩ | ⟨hnone, -⟩
      · have hunspent : Unspent ⟨.detectStep, s, t, r.map .detection, s'⟩ ↔
            s.detectStartedMs = none ∨ s.state = .detecting :=
          ⟨fun hstep => (hstep rfl).resolve_left hopen, fun hfound _ => .inr hfound⟩
        rw [hunspent, hstate, Charger.polling]
        split <;> rename_i hstarted <;> simp [hstarted]
      · exact absurd hnone hpending
  | apply _ h =>
      rcases h.ends with ⟨plan, rfl, -⟩ | ⟨err, rfl, -⟩ <;> exact absurd rfl hpending
  | monitor _ h => cases h.ends <;> exact absurd rfl hpending
  | reinit _ h =>
      rename_i r _
      cases r <;> exact absurd rfl hpending
  | close _ h =>
      rw [h.returns] at hpending
      exact absurd rfl hpending

/-- Where every detection step starts a detection or is in the middle of one, the times are
those of the attempts. A pending step that does neither is in another state than
`detecting`. -/
theorem perAttempt [LoopFuel] {config : ChargerConfig} {opening : List (Event ChargerEffect)}
    {s₀ s : Charger} {turns : List CoreTurn} (h : Reaches config opening s₀ turns s) :
    ((∀ turn ∈ turns, Unspent turn) → EveryStep attemptStart PerAttempt none turns) ∧
      ∀ turn ∈ turns, pendingOf turn.result ≠ none →
        (turn.finish.state = .detecting ↔ Unspent turn) := by
  constructor
  · intro hunspent
    obtain ⟨-, hidle, -, hfresh, -⟩ := Charger.openSession_yields h.opened
    refine h.calls.everyStep (M := .free ChargerEffect) (I := fun s _ start => Timed s start)
      (P := fun _ turn => Unspent turn)
      (fun _ _ _ _ _ _ _ hrun hs _ hP => (run_yields hrun).attempts_perAttempt hs hP) ()
      none (.of_ne (by rw [hidle]; decide) fun _ => rfl) (Machine.allowed_free _ _) ?_
    exact (everyStep_const none).2 hunspent
  · intro turn hmem
    exact (run_yields (h.calls.yields_of_mem turn hmem)).pending_iff

/-- A bench on which a port is identified at its second poll. -/
def slowPort : Bench := ⟨[(1, 0), (0, 10), (1, 20)], patternDcp, 0, [], []⟩

/-- A bench on which a port is identified and is gone five seconds later. -/
def lostPort : Bench := ⟨[(1, 0), (1, 5000), (0, 5000)], patternDcp, 0, [], []⟩

/-- A session on the slow port in which every attempt keeps to its own window. -/
theorem perAttempt_slowPort : ∃ opening s₀ turns s,
    @Reaches ⟨0⟩ .forNabu opening s₀ turns s ∧ turns.length = 2 ∧
      EveryStep attemptStart PerAttempt none turns := by
  obtain ⟨opening, s₀, turns, s, hreach, hlength, hunspent⟩ := @Bench.exists_reaches ⟨0⟩
    (fun _ turns _ => turns.length = 2 ∧ ∀ turn ∈ turns, Unspent turn) _ slowPort .forNabu
    [.detectStep, .detectStep] (by decide +kernel)
  exact ⟨opening, s₀, turns, s, hreach, hlength, (@perAttempt ⟨0⟩ _ _ _ _ _ hreach).1 hunspent⟩

/-- The first step of the second detection is in the state `ready` and reports five seconds,
the time since the first detection began. -/
theorem not_perAttempt : ∃ opening s₀ turns s,
    @Reaches ⟨0⟩ .forNabu opening s₀ turns s ∧
      turns.map (fun turn => pendingOf turn.result) = [none, some 5000] ∧ s.state = .ready ∧
      ¬EveryStep attemptStart PerAttempt none turns :=
  @Bench.exists_reaches ⟨0⟩
    (fun _ turns s => turns.map (fun turn => pendingOf turn.result) = [none, some 5000] ∧
      s.state = .ready ∧ ¬EveryStep attemptStart PerAttempt none turns) _ lostPort .forNabu
    [.detectStep, .detectStep] (by decide +kernel)

/-! ### The window of a rerun -/

/-- When the last rerun for a timeout was made in the attempt that is running. -/
def rerunAt (last : Option Nat) (turn : CoreTurn) : Option Nat :=
  match turn.op with
  | .reinit => none
  | .detectStep =>
      if completes turn then none
      else if "timeout" ∈ rerunReasons turn.trace then pollTime turn
      else last
  | .apply _ => last
  | .monitor => last
  | .close => last

/-- A detection step that found its time to be up: it reruns APSD for it, or gives up. -/
def TimesOut (turn : CoreTurn) : Prop :=
  turn.op = .detectStep ∧
    ("timeout" ∈ rerunReasons turn.trace ∨ waitedOf turn.result ≠ none)

/-- A step comes a full window after the last rerun. -/
def AfterWindow (last : Option Nat) (turn : CoreTurn) : Prop :=
  ∀ r ∈ last, ∃ now ∈ pollTime turn, r + turn.start.config.detectTimeoutMs ≤ now

/-- A step times out only a full window after the last rerun. -/
def FullWindow (last : Option Nat) (turn : CoreTurn) : Prop :=
  TimesOut turn → AfterWindow last turn

/-- A detection step that reads the detection as incomplete. -/
def FindsIncomplete (turn : CoreTurn) : Prop :=
  turn.op = .detectStep ∧ ∃ status ∈ statusReads turn.trace, ¬Complete status

/-- A step finds the detection incomplete only a full window after the last rerun. -/
def PollsLate (last : Option Nat) (turn : CoreTurn) : Prop :=
  FindsIncomplete turn → AfterWindow last turn

instance (last : Option Nat) (turn : CoreTurn) : Decidable (AfterWindow last turn) :=
  inferInstanceAs (Decidable (∀ r ∈ last, ∃ now ∈ pollTime turn, _))

instance (turn : CoreTurn) : Decidable (TimesOut turn) :=
  inferInstanceAs (Decidable (_ ∧ (_ ∨ _)))

instance (turn : CoreTurn) : Decidable (FindsIncomplete turn) :=
  inferInstanceAs (Decidable (_ ∧ ∃ status ∈ statusReads turn.trace, ¬Complete status))

instance (last : Option Nat) (turn : CoreTurn) : Decidable (FullWindow last turn) :=
  inferInstanceAs (Decidable (_ → _))

instance (last : Option Nat) (turn : CoreTurn) : Decidable (PollsLate last turn) :=
  inferInstanceAs (Decidable (_ → _))

/-- After a rerun for a timeout the time of the detection stays up. -/
structure Overdue (s : Charger) (now : Nat) (last : Option Nat) : Prop where
  overdue : ∀ r ∈ last, ∃ started ∈ s.detectStartedMs,
    s.config.detectTimeoutMs ≤ r - started ∧ r ≤ now

/-- Nothing is overdue while no rerun has been asked for. -/
theorem Overdue.none {s : Charger} {now : Nat} : Overdue s now none :=
  ⟨fun _ hmem => nomatch hmem⟩

/-- Time goes on, and the session keeps its start time. -/
theorem Overdue.later {s s' : Charger} {now now' : Nat} {last : Option Nat}
    (h : Overdue s now last) (hnow : now ≤ now') (hconfig : s'.config = s.config)
    (hstarted : s'.detectStartedMs = s.detectStartedMs) : Overdue s' now' last := by
  refine ⟨fun r hmem => ?_⟩
  obtain ⟨started, hmem', htime, hr⟩ := h.overdue r hmem
  rw [hconfig, hstarted]
  exact ⟨started, hmem', htime, Nat.le_trans hr hnow⟩

/-- Once the time is up, a step times out exactly when it reads an incomplete status. -/
theorem DetectExit.timesOut_iff {s s' : Charger} {now : Nat} {t : List (Event ChargerEffect)}
    {r : Except ChargerError Detection} (h : DetectExit s now t r s')
    (hup : s.config.detectTimeoutMs ≤ now - s.startedAt now) :
    ("timeout" ∈ rerunReasons t ∨ waitedOf (r.map .detection) ≠ none) ↔
      ∃ status ∈ statusReads t, ¬Complete status := by
  have hquiet {err : Except ChargerError Answer} (hwaited : waitedOf err = none)
      (hreasons : rerunReasons t = []) :
      ¬("timeout" ∈ rerunReasons t ∨ waitedOf err ≠ none) := by
    rw [hreasons, hwaited]
    simp
  have hsettled (hstatus : ∀ status ∈ statusReads t, Complete status) :
      ¬∃ status ∈ statusReads t, ¬Complete status :=
    fun ⟨status, hmem, hpending⟩ => hpending (hstatus status hmem)
  -- a timeout shows as its reason or its error, and both need an incomplete status
  cases h with
  | linkLost hlink hstatus hreasons =>
      exact iff_of_false (hquiet hlink.waitedOf hreasons) (hsettled hstatus)
  | ready hstatus hreasons => exact iff_of_false (hquiet rfl hreasons) (hsettled hstatus)
  | waiting _ _ htime => omega
  | @rerun status _ _ _ hstatus hreason _ hreasons _ _ _ hresult =>
      have hwaited : waitedOf (r.map .detection) = none := by
        rcases hresult with ⟨n, rfl, -⟩ | ⟨err, rfl, hlink, -⟩
        · rfl
        · exact hlink.waitedOf
      rw [hreasons, hstatus, hwaited]
      -- a rerun for want of an adapter bit has a complete status, so it is no timeout
      rcases hreason with ⟨hpending, -, rfl⟩ | ⟨hcomplete, rfl⟩
      · exact iff_of_true (.inl (List.mem_singleton_self _))
          ⟨status, List.mem_singleton_self _, hpending⟩
      · simpa using hcomplete
  | timedOut hstatus hpending =>
      refine iff_of_true (.inr nofun) ⟨_, ?_, hpending⟩
      rw [hstatus]
      exact List.mem_singleton_self _
  | rejected herr hstatus hreasons =>
      refine iff_of_false (hquiet ?_ hreasons) (hsettled hstatus)
      rcases herr with ⟨raw, rfl⟩ | ⟨raw, rfl⟩ <;> rfl

/-- A step reruns for a timeout when the time of the detection is up. -/
theorem DetectExit.up_of_rerun {s s' : Charger} {now : Nat} {t : List (Event ChargerEffect)}
    {r : Except ChargerError Detection} (h : DetectExit s now t r s')
    (hrerun : "timeout" ∈ rerunReasons t) :
    s.config.detectTimeoutMs ≤ now - s.startedAt now := by
  have hnone (hreasons : rerunReasons t = []) : False := by
    rw [hreasons] at hrerun
    nomatch hrerun
  cases h with
  | linkLost _ _ hreasons => exact (hnone hreasons).elim
  | ready _ hreasons => exact (hnone hreasons).elim
  | waiting _ _ _ hreasons => exact (hnone hreasons).elim
  | rerun _ hreason _ hreasons =>
      rcases hreason with ⟨-, hup, -⟩ | ⟨-, rfl⟩
      · exact hup
      · rw [hreasons] at hrerun
        simp at hrerun
  | timedOut _ _ _ hreasons => exact (hnone hreasons).elim
  | rejected _ _ hreasons => exact (hnone hreasons).elim

/-- The step: it waits a window before it times out exactly when it polls a window late. -/
theorem CallSpec.step_fullWindow {s s' : Charger} {t : List (Event ChargerEffect)} {op : Call}
    {r : Except ChargerError Answer} {before : Nat} {last : Option Nat}
    (h : CallSpec s t op r s') (hs : Overdue s before last)
    (hclock : steadyClock.Allowed before t) :
    (PollsLate last ⟨op, s, t, r, s'⟩ ↔ FullWindow last ⟨op, s, t, r, s'⟩) ∧
      Overdue s' (steadyClock.after before t) (rerunAt last ⟨op, s, t, r, s'⟩) := by
  have hafter : before ≤ steadyClock.after before t := (steadyClock_bounds hclock).1
  have hother (hop : op ≠ .detectStep) :
      PollsLate last ⟨op, s, t, r, s'⟩ ↔ FullWindow last ⟨op, s, t, r, s'⟩ :=
    iff_of_true (fun hfinds => absurd hfinds.1 hop) fun htimes => absurd htimes.1 hop
  -- one case per call; a poll is where a rerun without its full window would show
  cases h with
  | refused hclosed ht =>
      subst ht
      refine ⟨iff_of_true ?_ ?_, ?_⟩
      · rintro ⟨-, status, hmem, -⟩
        cases hmem
      · rintro ⟨-, hmem | hwaited⟩
        · cases hmem
        · exact absurd rfl hwaited
      · cases op with
        | reinit => exact .none
        | detectStep => exact hs
        | apply adapter => exact hs
        | monitor => exact hs
        | close => exact hs
  | closeAgain _ ht =>
      subst ht
      exact ⟨hother (by decide), hs⟩
  | @detectStep r _ now hopen h =>
      obtain ⟨hbefore, hnow⟩ := steadyClock_poll hclock h.polled
      have hpoll : pollTime ⟨.detectStep, s, t, r.map .detection, s'⟩ = some now := h.polled
      constructor
      · rw [PollsLate, FullWindow, FindsIncomplete, TimesOut]
        cases last with
        | none =>
            exact iff_of_true (fun _ r hmem => by cases hmem) fun _ r hmem => by cases hmem
        | some r =>
            obtain ⟨started, hstarted, htime, hr⟩ := hs.overdue r rfl
            -- the time limit was up when the rerun was made, and the start has not moved since
            have hup : s.config.detectTimeoutMs ≤ now - s.startedAt now := by
              have hsome : s.detectStartedMs = some started := hstarted
              rw [Charger.startedAt, hsome, Option.getD_some]
              omega
            rw [h.ends.timesOut_iff hup]
      · rw [rerunAt]
        dsimp only
        split
        · exact .none
        · split
          · rename_i hrerun
            rw [hpoll]
            refine ⟨fun r hmem => ?_⟩
            cases hmem
            rw [h.config, h.started]
            exact ⟨_, rfl, h.ends.up_of_rerun hrerun, hnow⟩
          · refine ⟨fun r hmem => ?_⟩
            obtain ⟨started, hstarted, htime, hr⟩ := hs.overdue r hmem
            have hsome : s.detectStartedMs = some started := hstarted
            rw [h.config, h.started, Charger.startedAt, hsome]
            exact ⟨started, rfl, htime, Nat.le_trans hr hafter⟩
  | apply _ h =>
      exact ⟨hother (fun heq => by cases heq), hs.later hafter h.aside.config h.aside.started⟩
  | monitor _ h => exact ⟨hother (by decide), hs.later hafter h.aside.config h.aside.started⟩
  | reinit _ h => exact ⟨hother (by decide), .none⟩
  | close _ h => exact ⟨hother (by decide), hs.later hafter h.aside.config h.aside.started⟩

/-- Every rerun for a timeout is given its window in a run exactly when no detection step of
the run reads an incomplete status within a window of the rerun before it. -/
theorem fullWindow_iff [LoopFuel] {config : ChargerConfig} {opening : List (Event ChargerEffect)}
    {s₀ s : Charger} {turns : List CoreTurn} (h : Reaches config opening s₀ turns s)
    (hclock : steadyClock.Allowed (0 : Nat) (turnExchanges turns)) :
    EveryStep rerunAt FullWindow none turns ↔ EveryStep rerunAt PollsLate none turns :=
  (h.calls.everyStep_iff (I := fun s (before : Nat) last => Overdue s before last)
    (fun _ _ _ _ _ _ _ hrun hs hallow => (run_yields hrun).step_fullWindow hs hallow)
    (0 : Nat) none .none hclock).symm

/-- A bench on which no port is identified, polled when the time is up and once more. -/
def emptyPort (third : Nat) : Bench :=
  ⟨[(1, 0), (0, 3000), (0, third), (0, third)], 0, 0, [], []⟩

/-- A session on an empty port that reruns twice, both times on a timeout. -/
theorem fullWindow_iff_emptyPort : ∃ opening s₀ turns s,
    @Reaches ⟨0⟩ .forNabu opening s₀ turns s ∧
      turns.map (fun turn => rerunReasons turn.trace) = [[], ["timeout"], ["timeout"]] ∧
      EveryStep rerunAt FullWindow none turns := by
  obtain ⟨opening, s₀, turns, s, hreach, hreruns, hclock, hlate⟩ := @Bench.exists_reaches ⟨0⟩
    (fun _ turns _ =>
      turns.map (fun turn => rerunReasons turn.trace) = [[], ["timeout"], ["timeout"]] ∧
        steadyClock.Allowed (0 : Nat) (turnExchanges turns) ∧
        EveryStep rerunAt PollsLate none turns) _ (emptyPort 6000) .forNabu
    [.detectStep, .detectStep, .detectStep] (by decide +kernel)
  exact ⟨opening, s₀, turns, s, hreach, hreruns,
    (@fullWindow_iff ⟨0⟩ _ _ _ _ _ hreach hclock).2 hlate⟩

/-- Both reruns are spent on consecutive polls, 50 ms apart. -/
theorem not_fullWindow : ∃ opening s₀ turns s,
    @Reaches ⟨0⟩ .forNabu opening s₀ turns s ∧
      steadyClock.Allowed (0 : Nat) (turnExchanges turns) ∧
      turns.map (fun turn => (rerunReasons turn.trace, pollTime turn)) =
        [([], some 0), (["timeout"], some 3000), (["timeout"], some 3050)] ∧
      ¬EveryStep rerunAt FullWindow none turns :=
  @Bench.exists_reaches ⟨0⟩
    (fun _ turns _ => steadyClock.Allowed (0 : Nat) (turnExchanges turns) ∧
      turns.map (fun turn => (rerunReasons turn.trace, pollTime turn)) =
        [([], some 0), (["timeout"], some 3000), (["timeout"], some 3050)] ∧
      ¬EveryStep rerunAt FullWindow none turns) _ (emptyPort 3050) .forNabu
    [.detectStep, .detectStep, .detectStep] (by decide +kernel)

/-! ### The budget of reruns -/

/-- The successful reruns since the session opened or was reinitialized. -/
def rerunsSince (n : Nat) (turn : CoreTurn) : Nat :=
  (if turn.op = .reinit then 0 else n) + rerunWrites turn.trace

/-- A detection step that answers `pending`. -/
def isPending (turn : CoreTurn) : Bool := (pendingOf turn.result).isSome

/-- A detection step writes `CMD_APSD` only against its budget, which the counter keeps. -/
theorem DetectExit.reruns {s s' : Charger} {now : Nat} {t : List (Event ChargerEffect)}
    {r : Except ChargerError Detection} (h : DetectExit s now t r s')
    (hs : s.reruns ≤ s.config.maxDetectReruns) :
    s.reruns + rerunWrites t ≤ s'.reruns ∧ s'.reruns ≤ s.config.maxDetectReruns := by
  cases h with
  | linkLost _ _ _ hwrites _ _ hreruns => omega
  | ready _ _ hwrites _ _ hreruns => omega
  | waiting _ _ _ _ hwrites _ _ hreruns => omega
  | rerun _ _ hbudget _ hwrites _ hreruns => omega
  | timedOut _ _ _ _ hwrites _ _ hreruns => omega
  | rejected _ _ _ hwrites _ _ hreruns => omega

/-- Once the time is up, a detection step answers `pending` only with a rerun. -/
theorem DetectExit.reruns_of_pending {s s' : Charger} {now : Nat}
    {t : List (Event ChargerEffect)} {r : Except ChargerError Detection}
    (h : DetectExit s now t r s') (hup : s.config.detectTimeoutMs ≤ now - s.startedAt now)
    (hpending : pendingOf (r.map .detection) ≠ none) : s'.reruns = s.reruns + 1 := by
  cases h with
  | linkLost => exact absurd rfl hpending
  | ready => exact absurd rfl hpending
  | waiting _ _ htime => omega
  | rerun _ _ _ _ _ _ hreruns => exact hreruns
  | timedOut => exact absurd rfl hpending
  | rejected => exact absurd rfl hpending

/-- The counter bounds the reruns since the last reinitialization, and the budget bounds the
counter. -/
theorem CallSpec.reruns {s s' : Charger} {t : List (Event ChargerEffect)} {op : Call}
    {r : Except ChargerError Answer} {n : Nat} (h : CallSpec s t op r s') (hn : n ≤ s.reruns)
    (hs : s.reruns ≤ s.config.maxDetectReruns) :
    rerunsSince n ⟨op, s, t, r, s'⟩ ≤ s'.reruns ∧ s'.reruns ≤ s'.config.maxDetectReruns ∧
      (op ≠ .reinit → s.reruns ≤ s'.reruns) := by
  rw [h.config]
  have haside (hop : op ≠ .reinit) (h : Aside s t s') :
      rerunsSince n ⟨op, s, t, r, s'⟩ ≤ s'.reruns ∧ s'.reruns ≤ s.config.maxDetectReruns ∧
        (op ≠ .reinit → s.reruns ≤ s'.reruns) := by
    rw [rerunsSince, if_neg hop, h.writes, h.reruns]
    exact ⟨hn, hs, fun _ => Nat.le_refl _⟩
  -- one case per call: a rerun is counted when its bit is written, and a reset starts over
  cases h with
  | refused _ ht =>
      subst ht
      refine ⟨?_, hs, fun _ => Nat.le_refl _⟩
      show (if op = .reinit then 0 else n) + 0 ≤ s.reruns
      split <;> omega
  | closeAgain _ ht =>
      subst ht
      exact ⟨hn, hs, fun _ => Nat.le_refl _⟩
  | detectStep _ h =>
      obtain ⟨hcount, hbudget⟩ := h.ends.reruns hs
      refine ⟨?_, hbudget, fun _ => by omega⟩
      show n + rerunWrites t ≤ s'.reruns
      omega
  | apply _ h => exact haside nofun h.aside
  | monitor _ h => exact haside (by decide) h.aside
  | reinit _ h =>
      refine ⟨?_, ?_, fun hop => absurd rfl hop⟩
      · show 0 + rerunWrites t ≤ s'.reruns
        cases h.ends with
        | resetFailed _ _ hwrites => omega
        | probed _ hprobe => rw [hprobe.writes]; exact Nat.zero_le _
      · cases h.ends with
        | resetFailed _ _ _ _ _ _ hreruns => omega
        | probed _ _ _ _ _ hreruns => omega
  | close _ h => exact haside (by decide) h.aside

/-- A call that answers `pending` once the time is up makes a rerun. -/
theorem CallSpec.reruns_of_pending {s s' : Charger} {t : List (Event ChargerEffect)} {op : Call}
    {r : Except ChargerError Answer} (h : CallSpec s t op r s')
    (hup : ∀ now ∈ (clocks t).head?, ∀ started ∈ s'.detectStartedMs,
      s.config.detectTimeoutMs ≤ now - started)
    (hpending : pendingOf r ≠ none) : s'.reruns = s.reruns + 1 := by
  cases h with
  | refused => exact absurd rfl hpending
  | closeAgain => exact absurd rfl hpending
  | detectStep _ h => exact h.ends.reruns_of_pending (hup _ h.polled _ h.started) hpending
  | apply _ h =>
      rcases h.ends with ⟨plan, rfl, -⟩ | ⟨err, rfl, -⟩ <;> exact absurd rfl hpending
  | monitor _ h => cases h.ends <;> exact absurd rfl hpending
  | reinit _ h =>
      rename_i r _
      cases r <;> exact absurd rfl hpending
  | close _ h =>
      rw [h.returns] at hpending
      exact absurd rfl hpending

/-- Only a reinitialization clears a start time. -/
theorem CallSpec.started {s s' : Charger} {t : List (Event ChargerEffect)} {op : Call}
    {r : Except ChargerError Answer} {started : Nat} (h : CallSpec s t op r s')
    (hop : op ≠ .reinit) (hstarted : s.detectStartedMs = some started) :
    s'.detectStartedMs = s.detectStartedMs := by
  cases h with
  | refused => rfl
  | closeAgain => rfl
  | detectStep _ h => rw [h.started, Charger.startedAt, hstarted, Option.getD_some]
  | apply _ h => exact h.aside.started
  | monitor _ h => exact h.aside.started
  | reinit => exact absurd rfl hop
  | close _ h => exact h.aside.started

/-- Every answer `pending` once the time is up is paid for with a rerun. -/
theorem pending_le [LoopFuel] {turns : List CoreTurn} {s s' : Charger} {r : Nat}
    (h : History Call.run s turns s') : ∀ before, Overdue s before (some r) →
    s.reruns ≤ s.config.maxDetectReruns → (∀ turn ∈ turns, turn.op ≠ .reinit) →
    steadyClock.Allowed before (turnExchanges turns) →
      s.reruns + turns.countP isPending ≤ s.config.maxDetectReruns := by
  -- induction on the session: once overdue, a poll that stays pending costs a rerun of the budget
  induction h with
  | done s => exact fun before _ hs _ _ => hs
  | @step op s s₁ s' t result turns hrun _ ih =>
      intro before hoverdue hs hops hclock
      rw [turnExchanges_cons] at hclock
      obtain ⟨hfirst, hrest⟩ := steadyClock.allowed_append.1 hclock
      have hspec := run_yields hrun
      have hop : op ≠ .reinit := hops _ (List.mem_cons_self ..)
      obtain ⟨-, hbudget, hgrows⟩ := hspec.reruns (Nat.zero_le _) hs
      obtain ⟨started, hstarted, htime, hr⟩ := hoverdue.overdue r rfl
      have hsome : s.detectStartedMs = some started := hstarted
      have hsame := hspec.started hop hsome
      have hlate : Overdue s₁ (steadyClock.after before t) (some r) :=
        hoverdue.later (steadyClock_bounds hfirst).1 hspec.config hsame
      have htail := ih _ hlate hbudget (fun turn hmem => hops turn (List.mem_cons_of_mem _ hmem))
        hrest
      rw [hspec.config] at htail
      -- the attempt keeps its start, so it stays overdue
      have hup : ∀ now ∈ (clocks t).head?, ∀ started ∈ s₁.detectStartedMs,
          s.config.detectTimeoutMs ≤ now - started := by
        intro now hpoll started' hmem
        have hbefore := (steadyClock_poll hfirst hpoll).1
        cases (hsame.trans hsome).symm.trans hmem
        omega
      rw [List.countP_cons]
      split
      · rename_i hpending
        have hpaid := hspec.reruns_of_pending hup (Option.isSome_iff_ne_none.1 hpending)
        omega
      · have := hgrows hop
        omega

/-- From the first step on that finds the time up, the answers `pending` keep to the budget. -/
theorem pending_le_of_up [LoopFuel] {turn : CoreTurn} {later : List CoreTurn} {s s' : Charger}
    {before started now : Nat} (h : History Call.run s (turn :: later) s')
    (hs : s.reruns ≤ s.config.maxDetectReruns)
    (hclock : steadyClock.Allowed before (turnExchanges (turn :: later)))
    (hpoll : pollTime turn = some now) (hstarted : turn.finish.detectStartedMs = some started)
    (hup : s.config.detectTimeoutMs ≤ now - started)
    (hops : ∀ other ∈ turn :: later, other.op ≠ .reinit) :
    (turn :: later).countP isPending ≤ s.config.maxDetectReruns := by
  rw [turnExchanges_cons] at hclock
  obtain ⟨hfirst, hlast⟩ := steadyClock.allowed_append.1 hclock
  cases h with
  | @step op _ s₁ _ t r _ hrun hlater =>
      have hspec := run_yields hrun
      obtain ⟨-, hnext, hgrows⟩ := hspec.reruns (Nat.zero_le _) hs
      -- the first poll is at or past the limit, from where `pending_le` counts the later ones
      have hoverdue : Overdue s₁ (steadyClock.after before t) (some now) := by
        refine ⟨fun now' hmem => ?_⟩
        cases hmem
        rw [hspec.config]
        exact ⟨started, hstarted, hup, (steadyClock_poll hfirst hpoll).2⟩
      have htail := pending_le hlater _ hoverdue hnext
        (fun other hmem => hops other (List.mem_cons_of_mem _ hmem)) hlast
      rw [hspec.config] at htail
      rw [List.countP_cons]
      split
      · rename_i hpending
        have hpaid : s₁.reruns = s.reruns + 1 := by
          refine hspec.reruns_of_pending (fun now' hpoll' started' hmem => ?_)
            (Option.isSome_iff_ne_none.1 hpending)
          cases hpoll.symm.trans hpoll'
          cases hstarted.symm.trans hmem
          exact hup
        omega
      · have := hgrows (hops _ (List.mem_cons_self ..))
        omega

/-- The reruns since the last reinitialization keep to the budget. So do the answers `pending`
from the first step on that finds the time up, until the next reinitialization. -/
theorem bounded_detection [LoopFuel] {config : ChargerConfig}
    {opening : List (Event ChargerEffect)} {s₀ s : Charger} {turns : List CoreTurn}
    (h : Reaches config opening s₀ turns s)
    (hclock : steadyClock.Allowed (0 : Nat) (turnExchanges turns)) :
    turns.foldl rerunsSince (rerunWrites opening) ≤ config.maxDetectReruns ∧
      ∀ before turn later started now, turns = before ++ turn :: later →
        pollTime turn = some now → turn.finish.detectStartedMs = some started →
        config.detectTimeoutMs ≤ now - started → (∀ other ∈ turn :: later, other.op ≠ .reinit) →
          (turn :: later).countP isPending ≤ config.maxDetectReruns := by
  obtain ⟨hconfig, -, -, -, hreruns, -, hwrites⟩ := Charger.openSession_yields h.opened
  -- The counter lies between the reruns made and the budget, through the whole run.
  have hkept {turns : List CoreTurn} {s : Charger} (h : History Call.run s₀ turns s) :
      turns.foldl rerunsSince (rerunWrites opening) ≤ s.reruns ∧
        s.reruns ≤ s.config.maxDetectReruns ∧ s.config = config := by
    refine h.keeps (M := .free ChargerEffect)
      (I := fun s _ n => n ≤ s.reruns ∧ s.reruns ≤ s.config.maxDetectReruns ∧ s.config = config)
      (fun op s t r s' _ n hrun hI _ => ?_) () (rerunWrites opening) ?_ (Machine.allowed_free _ _)
    · have hspec := run_yields hrun
      obtain ⟨hcount, hbudget, -⟩ := hspec.reruns hI.1 hI.2.1
      exact ⟨hcount, hbudget, hspec.config.trans hI.2.2⟩
    · rw [hwrites, hreruns]
      exact ⟨Nat.zero_le _, Nat.zero_le _, hconfig⟩
  constructor
  · obtain ⟨hcount, hbudget, hsame⟩ := hkept h.calls
    rw [← hsame]
    exact Nat.le_trans hcount hbudget
  · rintro before turn later started now rfl hpoll hstarted hup hops
    obtain ⟨middle, hbefore, hafter⟩ := h.calls.split
    obtain ⟨-, hbudget, hsame⟩ := hkept hbefore
    rw [← hsame] at hup ⊢
    rw [turnExchanges_append] at hclock
    exact pending_le_of_up hafter hbudget (steadyClock.allowed_append.1 hclock).2 hpoll hstarted
      hup hops

/-- With two reruns, two of the steps after three seconds are pending. The third gives up. -/
theorem bounded_detection_emptyPort : ∃ opening s₀ first later s,
    @Reaches ⟨0⟩ .forNabu opening s₀ (first :: later) s ∧
      (first :: later).foldl rerunsSince (rerunWrites opening) ≤ 2 ∧
      later.countP isPending ≤ 2 ∧ later.map (fun turn => waitedOf turn.result) =
        [none, none, some 3050] := by
  obtain ⟨opening, s₀, turns, s, hreach, hclock, hops, hseen, hwaited⟩ :=
    @Bench.exists_reaches ⟨0⟩
      (fun _ turns _ => steadyClock.Allowed (0 : Nat) (turnExchanges turns) ∧
        (∀ turn ∈ turns, turn.op ≠ .reinit) ∧
        turns.map (fun turn => (pollTime turn, turn.finish.detectStartedMs)) =
          [(some 0, some 0), (some 3000, some 0), (some 3050, some 0), (some 3050, some 0)] ∧
        turns.map (fun turn => waitedOf turn.result) = [none, none, none, some 3050]) _
      (emptyPort 3050) .forNabu [.detectStep, .detectStep, .detectStep, .detectStep]
      (by decide +kernel)
  obtain ⟨first, rest, rfl, -, hrest⟩ := List.map_eq_cons_iff.1 hseen
  obtain ⟨second, later, rfl, hsecond, -⟩ := List.map_eq_cons_iff.1 hrest
  rw [Prod.mk.injEq] at hsecond
  obtain ⟨hwrites, hpending⟩ := @bounded_detection ⟨0⟩ _ _ _ _ _ hreach hclock
  exact ⟨opening, s₀, first, second :: later, s, hreach, hwrites,
    hpending [first] second later 0 3000 rfl hsecond.1 hsecond.2 (by decide)
      (fun other hmem => hops other (List.mem_cons_of_mem _ hmem)), List.tail_eq_of_cons_eq hwaited⟩

end ChargerCore
