import NabuCharger.Kmdf.Bench
import NabuCharger.Kmdf.DriverRules
import NabuCharger.Kmdf.MarkedDriver

/-!
# `Proofs.RateLimit`: how often the driver negotiates by itself

Over every run of the driver whose clock does not run backwards, two re-elevations are at
least a minute apart, no delay of the re-elevation is longer than five minutes, and within a
five-volt episode no delay is shorter than the one before it. Two SUPERUSER retries are at
least two seconds apart, and at most thirty lie between two negotiations that did not end
in usbin-unavailable (`rate_limited`).

The watch `paceWatch` remembers when the last re-elevation and the last retry were decided
on, by the reading of the clock the decision was taken with. The invariant `Paced` says how
far the schedules of the driver are ahead of it: whatever resets or rewrites a schedule, an
open one still names a time that is late enough. A tick moves the schedule before the watch
is told (`Decided`), and is bound by its decision until the negotiation begins (`Ready`).
-/

set_option autoImplicit false

namespace Kmdf

open Effectful Ln8000

/-! ### The watch -/

/-- What the marks of a run have shown. -/
structure Pace where
  /-- The last reading of the clock. -/
  clock : Nat
  reelevatedAt : Option Nat
  retriedAt : Option Nat
  /-- Retries since a negotiation last ended in anything but usbin-unavailable. -/
  retries : Nat
  /-- When the next re-elevation is due, zero while no five-volt episode is open. -/
  nextMs : Nat
  /-- The delay it was scheduled with. -/
  delayMs : Nat
  deriving DecidableEq, Repr

namespace Pace

/-- Before the first entry point. -/
def start : Pace where
  clock := 0
  reelevatedAt := none
  retriedAt := none
  retries := 0
  nextMs := 0
  delayMs := 0

/-- The tick has moved its schedule, or left it as it was. -/
def scheduled (p : Pace) (nextMs : Nat) : Pace :=
  if nextMs = p.nextMs then p else { p with nextMs := nextMs, delayMs := nextMs - p.clock }

/-- A negotiation was decided on, with the last reading of the clock. -/
def negotiating (p : Pace) : Cause → Pace
  | .reelevate => { p with reelevatedAt := some p.clock }
  | .retry => { p with retriedAt := some p.clock, retries := p.retries + 1 }
  | _ => p

/-- A negotiation has ended. -/
def negotiated (p : Pace) (code : Int) : Pace :=
  if code = hvdcpErrUsbinUnavailable then p else { p with retries := 0 }

/-- The clock moves on its readings, the rest on the marks of the driver. -/
def next (p : Pace) : (o : MarkedEffect.Op) → MarkedEffect.Resp o → Pace
  | .inl (.inr .now), ms => { p with clock := ms }
  | .inr (.scheduled nextMs), _ => p.scheduled nextMs
  | .inr (.negotiating cause), _ => p.negotiating cause
  | .inr (.negotiated code), _ => p.negotiated code
  | _, _ => p

/-- The clock does not run backwards, nor past its last reading. -/
def allow (p : Pace) : (o : MarkedEffect.Op) → MarkedEffect.Resp o → Prop
  | .inl (.inr .now) => fun (ms : Nat) => p.clock ≤ ms ∧ ms ≤ clockMaxMs
  | _ => fun _ => True

/-- A new delay is at most five minutes, and within an episode not shorter than the last. -/
def Schedulable (p : Pace) (nextMs : Nat) : Prop :=
  nextMs ≠ p.nextMs → nextMs ≠ 0 →
    nextMs - p.clock ≤ 300000 ∧ (p.nextMs ≠ 0 → p.delayMs ≤ nextMs - p.clock)

/-- A minute has passed since the last re-elevation, and two seconds since the last retry,
which was not the thirtieth. -/
def Negotiable (p : Pace) : Cause → Prop
  | .reelevate => ∀ t, p.reelevatedAt = some t → t + 60000 ≤ p.clock
  | .retry => (∀ t, p.retriedAt = some t → t + 2000 ≤ p.clock) ∧ p.retries < 30
  | _ => True

/-- What the limits ask of a schedule and of a negotiation. -/
def require (p : Pace) : MarkedEffect.Op → Prop
  | .inr (.scheduled nextMs) => p.Schedulable nextMs
  | .inr (.negotiating cause) => p.Negotiable cause
  | _ => True

section
variable (p : Pace) (nextMs : Nat)

/-- A schedule leaves the clock. -/
@[simp] theorem scheduled_clock : (p.scheduled nextMs).clock = p.clock := by
  unfold scheduled
  split <;> rfl

/-- A schedule leaves the last re-elevation. -/
@[simp] theorem scheduled_reelevatedAt :
    (p.scheduled nextMs).reelevatedAt = p.reelevatedAt := by
  unfold scheduled
  split <;> rfl

/-- A schedule leaves the last retry. -/
@[simp] theorem scheduled_retriedAt : (p.scheduled nextMs).retriedAt = p.retriedAt := by
  unfold scheduled
  split <;> rfl

/-- A schedule leaves the number of retries. -/
@[simp] theorem scheduled_retries : (p.scheduled nextMs).retries = p.retries := by
  unfold scheduled
  split <;> rfl

/-- After a schedule its time is the next one, moved or not. -/
@[simp] theorem scheduled_nextMs : (p.scheduled nextMs).nextMs = nextMs := by
  unfold scheduled
  split
  · next hsame => exact hsame.symm
  · rfl

/-- A new time gives the delay to it. -/
theorem scheduled_delayMs {p : Pace} {nextMs : Nat} (h : nextMs ≠ p.nextMs) :
    (p.scheduled nextMs).delayMs = nextMs - p.clock := by
  rw [scheduled, if_neg h]

end

end Pace

/-- The watch over the marked runs. -/
abbrev paceWatch : Machine MarkedEffect where
  State := Pace
  allow := Pace.allow
  require := Pace.require
  next := Pace.next

/-! ### The invariant -/

/-- The schedules are far enough ahead of what has happened. -/
structure Paced (sch : Schedule) (p : Pace) : Prop where
  next : p.nextMs = sch.nextMs
  idle : sch.nextMs = 0 → sch.backoffMs = 0
  first : sch.backoffMs = 0 ∨ reElevateFirstMs ≤ sch.backoffMs
  longest : sch.backoffMs ≤ reElevateBackoffMaxMs
  delay : sch.nextMs ≠ 0 → p.delayMs ≤ nextBackoffMs sch.backoffMs
  reelevated : ∀ t, p.reelevatedAt = some t →
    t ≤ p.clock ∧ (sch.nextMs ≠ 0 → t + reElevateFirstMs ≤ sch.nextMs)
  retried : ∀ t, p.retriedAt = some t →
    t ≤ p.clock ∧ (sch.retryNextMs ≠ 0 → t + hvdcpSuperuserRetryMs ≤ sch.retryNextMs)
  pending : sch.retryPending = true → sch.retryNextMs ≠ 0
  retries : p.retries ≤ sch.retryAttempts
  attempts : sch.retryAttempts ≤ hvdcpSuperuserRetryMax

/-- A fresh context is paced. -/
theorem Paced.start : Paced Context.new.schedule Pace.start where
  next := rfl
  idle _ := rfl
  first := .inl rfl
  longest := Nat.zero_le _
  delay h := absurd rfl h
  reelevated _ h := nomatch h
  retried _ h := nomatch h
  pending h := nomatch h
  retries := Nat.le_refl _
  attempts := Nat.zero_le _

/-- Time passes. -/
theorem Paced.later {sch : Schedule} {p : Pace} (h : Paced sch p) {ms : Nat}
    (hms : p.clock ≤ ms) : Paced sch { p with clock := ms } where
  next := h.next
  idle := h.idle
  first := h.first
  longest := h.longest
  delay := h.delay
  reelevated t ht := ⟨Nat.le_trans (h.reelevated t ht).1 hms, (h.reelevated t ht).2⟩
  retried t ht := ⟨Nat.le_trans (h.retried t ht).1 hms, (h.retried t ht).2⟩
  pending := h.pending
  retries := h.retries
  attempts := h.attempts

/-- A retry is due. -/
def Schedule.RetryDue (sch : Schedule) (now : Nat) : Prop :=
  sch.retryPending = true ∧ sch.retryAttempts < hvdcpSuperuserRetryMax ∧ sch.retryNextMs ≤ now

/-- The tick has moved the schedule, and the watch is not told yet. -/
def Decided (wants : Wants) (sch' : Schedule) (p : Pace) : Prop :=
  ∃ sch, Paced sch p ∧ sch.Looks p.clock wants.reelevate sch' ∧
    (wants.retry = true → sch.RetryDue p.clock)

/-- What the tick wants may be done now. -/
structure Ready (wants : Wants) (sch : Schedule) (p : Pace) : Prop where
  paced : Paced sch p
  reelevate : wants.reelevate = true →
    p.Negotiable .reelevate ∧ p.clock + reElevateFirstMs ≤ sch.nextMs
  retry : wants.retry = true → p.Negotiable .retry ∧ sch.RetryDue p.clock

/-! ### The steps of the schedules -/

variable {sch sch' : Schedule} {p : Pace}

/-- The move of a tick is one the watch admits. -/
theorem Schedule.Looks.schedulable {due : Bool} (h : Paced sch p)
    (hlook : sch.Looks p.clock due sch') : p.Schedulable sch'.nextMs := by
  intro hmoved hopen
  have hnext := h.next
  cases hlook with
  | kept => exact absurd h.next.symm hmoved
  | closed => exact absurd rfl hopen
  | opened hclosed =>
      have hfirst : reElevateFirstMs = 60000 := rfl
      refine ⟨?_, fun hwas => absurd (h.next.trans hclosed) hwas⟩
      show p.clock + reElevateFirstMs - p.clock ≤ 300000
      omega
  -- the new delay is at most the longest, and at least the last one
  | fired hwas hdue =>
      have hlongest := nextBackoffMs_le sch.backoffMs
      have hmax : reElevateBackoffMaxMs = 300000 := rfl
      have hdelay := h.delay hwas
      show p.clock + nextBackoffMs sch.backoffMs - p.clock ≤ 300000 ∧
        (p.nextMs ≠ 0 → p.delayMs ≤ p.clock + nextBackoffMs sch.backoffMs - p.clock)
      exact ⟨by omega, fun _ => by omega⟩

/-- A schedule that names a time at least a minute from now, or none. -/
theorem Paced.moved (h : Paced sch p) {nextMs backoffMs : Nat}
    (hidle : nextMs = 0 → backoffMs = 0)
    (hfirst : backoffMs = 0 ∨ reElevateFirstMs ≤ backoffMs)
    (hlongest : backoffMs ≤ reElevateBackoffMaxMs)
    (hlate : nextMs ≠ 0 → p.clock + reElevateFirstMs ≤ nextMs)
    (hdelay : nextMs ≠ 0 → (p.scheduled nextMs).delayMs ≤ nextBackoffMs backoffMs) :
    Paced { sch with nextMs := nextMs, backoffMs := backoffMs } (p.scheduled nextMs) where
  next := Pace.scheduled_nextMs p nextMs
  idle := hidle
  first := hfirst
  longest := hlongest
  delay := hdelay
  reelevated t ht := by
    rw [Pace.scheduled_reelevatedAt] at ht
    rw [Pace.scheduled_clock]
    have hpast := (h.reelevated t ht).1
    exact ⟨hpast, fun hopen => Nat.le_trans (Nat.add_le_add_right hpast _) (hlate hopen)⟩
  retried t ht := by
    rw [Pace.scheduled_retriedAt] at ht
    rw [Pace.scheduled_clock]
    exact h.retried t ht
  pending := h.pending
  retries := by
    rw [Pace.scheduled_retries]
    exact h.retries
  attempts := h.attempts

/-- The schedule after the move is as far ahead. -/
theorem Schedule.Looks.paced {due : Bool} (h : Paced sch p)
    (hlook : sch.Looks p.clock due sch') : Paced sch' (p.scheduled sch'.nextMs) := by
  have hnext := h.next
  have hfirst : reElevateFirstMs = 60000 := rfl
  -- the schedule stays, opens an episode, fires and backs off, or closes the episode
  cases hlook with
  | kept =>
      rw [Pace.scheduled, if_pos h.next.symm]
      exact h
  | opened hclosed =>
      -- a new time is later than the clock, so it is not the one before
      have hmoved : p.clock + reElevateFirstMs ≠ p.nextMs := by omega
      refine h.moved (by omega) h.first h.longest (fun _ => Nat.le_refl _) fun _ => ?_
      rw [Pace.scheduled_delayMs hmoved, Nat.add_sub_cancel_left, h.idle hclosed]
      exact Nat.le_refl _
  | fired hopen hdue =>
      obtain ⟨hlong, hgrows⟩ := le_nextBackoffMs h.first h.longest
      have hmost := nextBackoffMs_le sch.backoffMs
      have hmoved : p.clock + nextBackoffMs sch.backoffMs ≠ p.nextMs := by omega
      refine h.moved (by omega) (.inr hlong) hmost (fun _ => by omega) fun _ => ?_
      rw [Pace.scheduled_delayMs hmoved, Nat.add_sub_cancel_left]
      exact (le_nextBackoffMs (.inr hlong) hmost).2
  | closed =>
      exact h.moved (fun _ => rfl) (.inl rfl) (Nat.zero_le _) (fun hopen => absurd rfl hopen)
        fun hopen => absurd rfl hopen

/-- A move leaves the retry alone. -/
theorem Schedule.Looks.retryDue {due : Bool} {now : Nat} (hlook : sch.Looks now due sch')
    (h : sch.RetryDue now) : sch'.RetryDue now := by
  cases hlook <;> exact h

/-- A retry that is due comes late enough, and is not the thirty-first. -/
theorem Schedule.RetryDue.negotiable (h : Paced sch p) (hdue : sch.RetryDue p.clock) :
    p.Negotiable .retry := by
  obtain ⟨hpending, hattempts, hnow⟩ := hdue
  have hretries := h.retries
  have hmax : hvdcpSuperuserRetryMax = 30 := rfl
  have hpause : hvdcpSuperuserRetryMs = 2000 := rfl
  refine ⟨fun t ht => ?_, by omega⟩
  have hlate := (h.retried t ht).2 (h.pending hpending)
  omega

/-- A re-elevation that is due comes late enough, and the next one as well. -/
theorem Schedule.Looks.negotiable (h : Paced sch p) (hlook : sch.Looks p.clock true sch') :
    p.Negotiable .reelevate ∧ p.clock + reElevateFirstMs ≤ sch'.nextMs := by
  have hfirst : reElevateFirstMs = 60000 := rfl
  cases hlook with
  | fired hopen hdue =>
      refine ⟨fun t ht => ?_, ?_⟩
      · have hlate := (h.reelevated t ht).2 hopen
        omega
      · exact Nat.add_le_add_left (le_nextBackoffMs h.first h.longest).1 _

/-- Once the watch is told of the move, the tick is ready for what it wants. -/
theorem Decided.ready {wants : Wants} (h : Decided wants sch' p) :
    Ready wants sch' (p.scheduled sch'.nextMs) := by
  obtain ⟨sch, hpaced, hlook, hretry⟩ := h
  refine ⟨hlook.paced hpaced, fun hwants => ?_, fun hwants => ?_⟩
  · rw [hwants] at hlook
    rw [Pace.Negotiable, Pace.scheduled_reelevatedAt, Pace.scheduled_clock]
    exact hlook.negotiable hpaced
  · rw [Pace.Negotiable, Pace.scheduled_retriedAt, Pace.scheduled_clock, Pace.scheduled_retries]
    exact ⟨(hretry hwants).negotiable hpaced, hlook.retryDue (hretry hwants)⟩

/-- A retry begins: it is counted, and the next one comes two seconds later. -/
theorem Paced.retry (h : Paced sch p) (hdue : sch.RetryDue p.clock) {ms : Nat}
    (hms : p.clock ≤ ms) (hmax : ms ≤ clockMaxMs) :
    Paced
      { sch with
        retryAttempts := satAdd 32 sch.retryAttempts 1
        retryNextMs := satAdd 64 ms hvdcpSuperuserRetryMs }
      { p.negotiating .retry with clock := ms } := by
  -- the clock and the attempts are far from their largest words, so nothing saturates
  have hnext : satAdd 64 ms hvdcpSuperuserRetryMs = ms + hvdcpSuperuserRetryMs :=
    satAdd_clock hmax (by decide)
  have hthirty : hvdcpSuperuserRetryMax = 30 := rfl
  have hattempts : sch.retryAttempts < hvdcpSuperuserRetryMax := hdue.2.1
  have hcount : satAdd 32 sch.retryAttempts 1 = sch.retryAttempts + 1 := by
    have hword : wordMax 32 = 4294967295 := by decide
    rw [satAdd, hword, Nat.min_eq_left (by omega)]
  have hretries := h.retries
  rw [hnext, hcount]
  exact
    { next := h.next
      idle := h.idle
      first := h.first
      longest := h.longest
      delay := h.delay
      reelevated := fun t ht =>
        ⟨Nat.le_trans (h.reelevated t ht).1 hms, (h.reelevated t ht).2⟩
      retried := by
        intro t ht
        obtain rfl : p.clock = t := Option.some.inj ht
        exact ⟨hms, fun _ => Nat.add_le_add_right hms _⟩
      pending := fun _ => by
        have hpause : hvdcpSuperuserRetryMs = 2000 := rfl
        show ms + hvdcpSuperuserRetryMs ≠ 0
        omega
      retries := Nat.succ_le_succ hretries
      attempts := hattempts }

/-- A re-elevation begins, and the next one is a minute away. -/
theorem Paced.reelevate (h : Paced sch p) (hlate : p.clock + reElevateFirstMs ≤ sch.nextMs) :
    Paced sch (p.negotiating .reelevate) where
  next := h.next
  idle := h.idle
  first := h.first
  longest := h.longest
  delay := h.delay
  reelevated t ht := by
    obtain rfl : p.clock = t := Option.some.inj ht
    exact ⟨Nat.le_refl _, fun _ => hlate⟩
  retried := h.retried
  pending := h.pending
  retries := h.retries
  attempts := h.attempts

/-- A negotiation ends, and the retries are counted anew unless it found no way to the
PMIC. -/
theorem Paced.negotiated (h : Paced sch p) (code : Int) :
    Paced sch (p.negotiated code) ∧
      (shouldScheduleSuperuserRetry code = false → (p.negotiated code).retries = 0) := by
  rw [Pace.negotiated, shouldScheduleSuperuserRetry]
  by_cases hcode : code = hvdcpErrUsbinUnavailable
  · rw [if_pos hcode]
    exact ⟨h, fun hnot => absurd hcode (of_decide_eq_false hnot)⟩
  · rw [if_neg hcode]
    exact ⟨{ h with retries := Nat.zero_le _ }, fun _ => rfl⟩

/-- The retry is switched off. -/
theorem Paced.notPending (h : Paced sch p) : Paced { sch with retryPending := false } p :=
  { h with pending := nofun }

/-- The retry is switched on, with the time it had. -/
theorem Paced.keepPending (h : Paced sch p) (hnext : sch.retryNextMs ≠ 0) :
    Paced { sch with retryPending := true } p :=
  { h with pending := fun _ => hnext }

/-- The retry is switched on, two seconds from now. -/
theorem Paced.newPending (h : Paced sch p) {ms : Nat} (hms : p.clock ≤ ms)
    (hmax : ms ≤ clockMaxMs) :
    Paced
      { sch with
        retryPending := true
        retryNextMs := satAdd 64 ms hvdcpSuperuserRetryMs }
      { p with clock := ms } := by
  have hnext : satAdd 64 ms hvdcpSuperuserRetryMs = ms + hvdcpSuperuserRetryMs :=
    satAdd_clock hmax (by decide)
  have hpause : hvdcpSuperuserRetryMs = 2000 := rfl
  -- a later clock keeps every bound already held
  have hlater := h.later hms
  rw [hnext]
  refine { hlater with retried := fun t ht => ?_, pending := fun _ => ?_ }
  · have hpast := (hlater.retried t ht).1
    exact ⟨hpast, fun _ => Nat.add_le_add_right hpast _⟩
  · show ms + hvdcpSuperuserRetryMs ≠ 0
    omega

/-- The schedule of the retry is cleared, and nothing is counted. -/
theorem Paced.cleared (h : Paced sch p) (hretries : p.retries = 0) :
    Paced { sch with retryPending := false, retryAttempts := 0, retryNextMs := 0 } p :=
  { h with
    retried := fun t ht => ⟨(h.retried t ht).1, fun hnext => absurd rfl hnext⟩
    pending := nofun
    retries := Nat.le_of_eq hretries
    attempts := Nat.zero_le _ }

/-! ### The driver between its negotiations -/

/-- The invariant, of the state of the driver. -/
abbrev PacedDriver (s : DriverState) (p : Pace) : Prop := Paced s.schedule p

/-- The watch hears nothing of the pump's bus. -/
theorem keeps_pace {ε α : Type} {J : Pump → Pace → Prop} (hJ : ∀ q q' p, J q p → J q' p)
    (x : Proc BusEffect ε Pump α) : Proc.Keeps paceWatch.onLeft.onLeft J x :=
  Proc.Keeps.deaf (fun _ _ => trivial) (fun _ _ _ => rfl) hJ

/-- An exchange on the bus leaves the pace alone. -/
theorem opKeeps_pace {J : Pump → Pace → Prop} {o : BusOp} :
    OpKeeps paceWatch.onLeft.onLeft J o :=
  fun _ _ h => ⟨trivial, fun _ _ => h⟩

/-- Of the host it hears the clock alone. -/
theorem hostKeeps_paced (o : HostOp) : HostKeeps paceWatch.onLeft PacedDriver o := by
  intro s p h
  cases o with
  | now => exact ⟨trivial, fun ms hms => Paced.later h hms.1⟩
  | spmi o => exact ⟨trivial, fun _ _ => h⟩
  | pollGauge => exact ⟨trivial, fun _ _ => h⟩
  | readChargeRegs => exact ⟨trivial, fun _ _ => h⟩
  | writeFccRaw raw => exact ⟨trivial, fun _ _ => h⟩
  | initializeBattery => exact ⟨trivial, fun _ _ => h⟩
  | point q => exact ⟨trivial, fun _ _ => h⟩

/-- Every step of the driver that marks nothing keeps the pace. -/
theorem driver_paced : DriverRules paceWatch.onLeft PacedDriver where
  frame s s' p h hs := by
    show Paced s'.schedule p
    rw [h.schedule]
    exact hs
  host o _ := hostKeeps_paced o
  calm _ :=
    { session := fun _ _ _ _ h => h
      reset := opKeeps_pace
      read := fun _ _ => opKeeps_pace
      safety := opKeeps_pace
      delay := opKeeps_pace
      write := fun _ _ _ => opKeeps_pace
      pair := fun _ _ => opKeeps_pace }
  vinPair _ := opKeeps_pace

section
variable [LoopFuel]

/-- A charge start marks nothing. -/
theorem start_paced : StartRules paceWatch.onLeft (heldOf PacedDriver) where
  toHeldRules := driver_paced.held
  charge _ :=
    { vinPair := opKeeps_pace
      taper := fun _ _ _ _ _ _ => keeps_pace (fun _ _ _ h => h) _
      fault := fun _ _ _ _ => keeps_pace (fun _ _ _ h => h) _
      reverse := fun _ => keeps_pace (fun _ _ _ h => h) _
      standby := keeps_pace (fun _ _ _ h => h) _
      switching := keeps_pace (fun _ _ _ h => h) _
      enableBypass := keeps_pace (fun _ _ _ h => h) _
      recover := keeps_pace (fun _ _ _ h => h) _ }
  configure _ := keeps_pace (fun _ _ _ h => h) _
  softReset _ := keeps_pace (fun _ _ _ h => h) _

omit [LoopFuel] in
/-- Whatever the pump does in the borrow. -/
theorem onPump_paced {ε α : Type} (x : Proc BusEffect ε Pump α) :
    Proc.Keeps paceWatch.onLeft (heldOf PacedDriver) (onPump x) :=
  onPump_keeps fun _ => keeps_pace (fun _ _ _ h => h) x

omit [LoopFuel] in
/-- A point of the driver is none of the marks. -/
theorem point_paced {J : Held → Pace → Prop} (q : Point) :
    Proc.Keeps paceWatch.onLeft J (point q : HeldM Unit) :=
  Proc.Keeps.perform fun _ _ h => ⟨trivial, fun _ _ => h⟩

/-- A landing marks nothing. -/
theorem land_paced : LandRules paceWatch.onLeft PacedDriver where
  toDriverRules := driver_paced
  start := start_paced
  five := Proc.Keeps.get.bind fun _ => (point_paced _).bind fun _ => (onPump_paced _).discard

/-- A negotiation with its landing keeps the pace. -/
theorem runHvdcpAndLand_paced :
    Proc.Keeps paceWatch.onLeft PacedDriver runHvdcpAndLand :=
  ⟨fun s p h => land_paced.runHvdcpAndLand_wp (hostKeeps_paced (.point .landing)) s p h⟩

/-! ### The tick decides -/

/-- The guard keeps the pace, and never fails. -/
theorem protect_paced (obs : Observation) (s : Held) (p : Pace) (hs : heldOf PacedDriver s p) :
    (protect obs).wp paceWatch.onLeft (fun outcome s' p' =>
      ∃ changed, outcome = .ok changed ∧ heldOf PacedDriver s' p') s p := by
  have h := driver_paced.held
  have hfree : Held.Strikeless (heldOf PacedDriver) := fun _ _ _ hs => hs
  refine h.protect_wp hfree (A := fun _ => heldOf PacedDriver) (K := fun _ => heldOf PacedDriver)
    (fun _ _ _ hs => ⟨trivial, fun _ _ => hs⟩) ?_ (fun _ _ _ _ _ _ hs => hs) h s p hs
  intro inputs s p _ _ hstrikes _ hs
  exact applyGuard_wp hfree (fun _ _ _ => keeps_pace (fun _ _ _ h => h) _)
    (fun _ => keeps_pace (fun _ _ _ h => h) _) (fun _ => keeps_pace (fun _ _ _ h => h) _) s p
    hstrikes hs

/-- What the end of a tick leaves: a decision, or nothing. -/
def TickEnded : Option Wants → Schedule → Pace → Prop
  | none, sch, p => Paced sch p
  | some wants, sch, p => Decided wants sch p

omit [LoopFuel] in
/-- The decision is taken with the reading it is bound to. -/
theorem dueWants_decided (d : Decision) (s : Held) (p : Pace) (hs : Paced s.schedule p) :
    (dueWants d).wp paceWatch.onLeft (fun outcome s' p' =>
      ∃ wants, outcome = .ok wants ∧ Decided wants s'.schedule p') s p := by
  refine (Proc.wp_get_bind (M := paceWatch.onLeft) s p _ _).2 ?_
  refine (Proc.wp_perform_bind (M := paceWatch.onLeft) s p (Sum.inr HostOp.now) _ _).2
    ⟨trivial, ?_⟩
  intro (ms : Nat) hms
  refine (Proc.wp_modify_bind s _ _ _ _).2 ((Proc.wp_pure _ _ _ _).2 ⟨_, rfl, ?_⟩)
  refine ⟨s.schedule, hs.later hms.1, ?_, fun hretry => ?_⟩
  · exact scheduleReelevation_looks s.toContext d.reelevateOwns hms.2
  · simp only [superuserRetryDue, Bool.and_eq_true, decide_eq_true_eq] at hretry
    exact ⟨hretry.1.1, hretry.1.2, hretry.2⟩

/-- A tick ends with a decision whose schedule and negotiation the limits allow. -/
theorem tickOnPump_decided (gauge : GaugePoll) (s : Held) (p : Pace)
    (hs : heldOf PacedDriver s p) :
    (tickOnPump gauge).wp paceWatch.onLeft (fun outcome s' p' =>
      ∃ wants, outcome = .ok wants ∧ TickEnded wants s'.schedule p') s p := by
  have h := driver_paced.held
  have hwake : ∀ obs, Proc.Keeps paceWatch.onLeft (heldOf PacedDriver) (keepAdcAwake obs) := by
    intro obs
    refine keepAdcAwake_keeps (fun _ _ => keeps_pace (fun _ _ _ h => h) _) ?_ ?_ obs
    · exact fun _ _ _ _ hs => hs
    · exact fun _ _ _ hs => ⟨trivial, fun _ _ => hs⟩
  refine h.tickOnPump_wp (L := fun _ => heldOf PacedDriver) (fun _ => h)
    (fun obs s p hs => (hwake obs).run s p hs) ?_ (fun s p hs => ⟨none, rfl, hs⟩) gauge s p hs
  intro obs s p hs
  -- only the last step of the tick looks at the schedules
  have hwalk : ∀ d, Proc.Keeps paceWatch.onLeft (heldOf PacedDriver) (walkWindow d) :=
    h.walkWindow (fun _ _ _ _ _ hs => hs) fun _ => keeps_pace (fun _ _ _ h => h) _
  refine act_wp_due (K := fun _ => heldOf PacedDriver) (protect_paced obs) (fun _ => h)
    (fun _ => hwalk) start_paced ?_ s p hs
  intro _ d s p hs
  refine Proc.wp_mono (dueWants_decided d s p hs) ?_
  rintro outcome s p ⟨wants, rfl, hdecided⟩
  exact ⟨some wants, rfl, hdecided⟩

/-! ### The negotiations -/

omit [LoopFuel] in
/-- A program that is not marked keeps to the watch as it keeps to what the watch sees. -/
theorem inl_paced {α : Type} {x : DriverM α}
    (hx : Proc.Keeps paceWatch.onLeft PacedDriver x) :
    Proc.Keeps paceWatch PacedDriver (x.inl : MarkedM α) :=
  Proc.Keeps.inl hx

omit [LoopFuel] in
/-- The outcome of a negotiation arms the next retry two seconds ahead, or clears the count. -/
theorem scheduleOrClear_paced (code : Int) (s : DriverState) (p : Pace)
    (hs : PacedDriver s p) (hcount : shouldScheduleSuperuserRetry code = false → p.retries = 0) :
    (scheduleOrClearSuperuserRetry code).wp paceWatch.onLeft
      (fun _ s' p' => PacedDriver s' p') s p := by
  refine (Proc.wp_get_bind (M := paceWatch.onLeft) s p _ _).2 ?_
  refine Proc.wp_ite (fun _ => ?_) fun hclear => ?_
  · refine Proc.wp_ite (fun _ => ?_) fun _ => ?_
    · exact (Proc.wp_modify (M := paceWatch.onLeft) s p _ _).2 hs.notPending
    · refine (Proc.wp_modify_bind (M := paceWatch.onLeft) s p _ _ _).2 ?_
      -- a schedule that is already set is kept
      by_cases hnext : s.hvdcpRetryNextMs = 0
      · rw [Proc.when, if_pos (beq_iff_eq.2 hnext)]
        refine (Proc.wp_perform_bind (M := paceWatch.onLeft) _ p (Sum.inr HostOp.now) _ _).2
          ⟨trivial, ?_⟩
        intro (ms : Nat) hms
        exact (Proc.wp_modify (M := paceWatch.onLeft) _ _ _ _).2 (hs.newPending hms.1 hms.2)
      · rw [Proc.when, if_neg (mt beq_iff_eq.1 hnext)]
        exact (Proc.wp_pure (M := paceWatch.onLeft) _ _ _ _).2 (hs.keepPending hnext)
  · exact (Proc.wp_modify (M := paceWatch.onLeft) s p _ _).2
      (hs.cleared (hcount (Bool.eq_false_of_not_eq_true hclear)))

/-- A negotiation, from its first point to the retry it schedules or clears. -/
theorem negotiation_paced {α : Type} {rest : Int → MarkedM α}
    (hrest : ∀ code, Proc.Keeps paceWatch PacedDriver (rest code)) :
    Proc.Keeps paceWatch PacedDriver (do
      let code ← (runHvdcpAndLand.inl : MarkedM Int)
      Proc.mark (.negotiated code)
      ((scheduleOrClearSuperuserRetry code).inl : MarkedM Unit)
      rest code) := by
  refine (inl_paced runHvdcpAndLand_paced).bind fun code => ⟨fun s p hs => ?_⟩
  refine (Proc.wp_perform_bind (M := paceWatch) s p (Sum.inr (DriverMark.negotiated code)) _ _).2
    ⟨trivial, fun _ _ => ?_⟩
  -- the mark of the negotiation clears the retry count where no retry is due
  obtain ⟨hpaced, hcount⟩ := Paced.negotiated hs code
  refine (Proc.wp_bind (M := paceWatch) _ _ _ _ _).2 ((Proc.wp_inl _ paceWatch _ _ _).2 ?_)
  refine Proc.wp_mono (scheduleOrClear_paced code s _ hpaced hcount) ?_
  rintro (e | _) s p hs
  · nomatch e
  · exact (hrest code).run s p hs

/-- An input edge arms the first negotiation, which no limit concerns. -/
theorem armHvdcpInputEdge_paced :
    Proc.Keeps paceWatch PacedDriver (armHvdcpInputEdge.inl : MarkedM Unit) :=
  inl_paced driver_paced.armHvdcpInputEdge

/-- What is due is done, and the schedule is as far ahead again. -/
theorem markedDue_paced (wants : Wants) (s : DriverState) (p : Pace)
    (hs : Ready wants s.schedule p) :
    (markedDue wants).wp paceWatch (fun _ s' p' => PacedDriver s' p') s p := by
  have hland : ∀ {rest : Int → MarkedM Unit},
      (∀ code, Proc.Keeps paceWatch PacedDriver (rest code)) → ∀ s p, PacedDriver s p → (do
        let code ← (runHvdcpAndLand.inl : MarkedM Int)
        Proc.mark (.negotiated code)
        ((scheduleOrClearSuperuserRetry code).inl : MarkedM Unit)
        rest code).wp paceWatch (fun _ s' p' => PacedDriver s' p') s p :=
    fun hrest s p hs => (negotiation_paced hrest).run s p hs
  refine (Proc.wp_get_bind (M := paceWatch) s p _ _).2 ?_
  refine Proc.wp_ite (fun _ => (Proc.wp_pure (M := paceWatch) _ s p ()).2 hs.paced) fun _ => ?_
  refine Proc.wp_ite (fun _ => ?_) fun _ => ?_
  · -- a new input
    refine (Proc.wp_perform_bind (M := paceWatch) s p
      (Sum.inr (DriverMark.negotiating .replug)) _ _).2 ⟨trivial, fun _ _ => ?_⟩
    refine (Proc.wp_modify_bind (M := paceWatch) s _ _ _ _).2 ?_
    exact hland (fun _ => armHvdcpInputEdge_paced) _ _ hs.paced
  refine Proc.wp_ite (fun hretry => ?_) fun _ => ?_
  · -- the retry is counted, and the next one put off
    obtain ⟨hnegotiable, hdue⟩ := hs.retry hretry
    refine (Proc.wp_perform_bind (M := paceWatch) s p
      (Sum.inr (DriverMark.negotiating .retry)) _ _).2 ⟨hnegotiable, fun _ _ => ?_⟩
    refine (Proc.wp_modify_bind (M := paceWatch) s _ _ _ _).2 ?_
    refine (Proc.wp_bind (M := paceWatch) _ _ _ _ _).2 ((Proc.wp_inl _ paceWatch _ _ _).2 ?_)
    refine (Proc.wp_perform (M := paceWatch.onLeft) _ _ (Sum.inr HostOp.now) _).2
      ⟨trivial, ?_⟩
    intro (ms : Nat) hms
    refine (Proc.wp_modify_bind (M := paceWatch) _ _ _ _ _).2 ?_
    have hpaced := hs.paced.retry hdue hms.1 hms.2
    exact hland (fun _ => Proc.Keeps.when fun _ => armHvdcpInputEdge_paced) _ _ hpaced
  refine Proc.wp_ite (fun hreelevate => ?_) fun _ => ?_
  · obtain ⟨hnegotiable, hlate⟩ := hs.reelevate hreelevate
    refine (Proc.wp_perform_bind (M := paceWatch) s p
      (Sum.inr (DriverMark.negotiating .reelevate)) _ _).2 ⟨hnegotiable, fun _ _ => ?_⟩
    exact hland (fun _ => armHvdcpInputEdge_paced) _ _ (hs.paced.reelevate hlate)
  · exact (Proc.wp_pure (M := paceWatch) _ s p ()).2 hs.paced

omit [LoopFuel] in
/-- Without a decision the watch is told what it knows. -/
theorem Paced.scheduled (h : Paced sch p) : p.scheduled sch.nextMs = p := by
  rw [Pace.scheduled, if_pos h.next.symm]

/-- The watch is told of the move, and what is due is done. -/
theorem markedLandings_paced (wants : Option Wants) (s : DriverState) (p : Pace)
    (hs : TickEnded wants s.schedule p) :
    p.Schedulable s.schedule.nextMs ∧
      (markedLandings wants).wp paceWatch (fun _ s' p' => PacedDriver s' p') s
        (p.scheduled s.schedule.nextMs) := by
  cases wants with
  | none =>
      refine ⟨fun hmoved => absurd (Paced.next hs).symm hmoved, ?_⟩
      rw [Paced.scheduled hs]
      exact (Proc.wp_pure (M := paceWatch) _ s p ()).2 hs
  | some wants =>
      have hready := Decided.ready hs
      obtain ⟨sch, hpaced, hlook, -⟩ := hs
      exact ⟨hlook.schedulable hpaced, markedDue_paced wants s _ hready⟩

/-- A marked tick keeps the pace. The cases are the causes it may negotiate for. -/
theorem markedTick_paced : Proc.Keeps paceWatch PacedDriver markedTick := by
  have hgauge : Proc.Keeps paceWatch PacedDriver
      ((host .pollGauge : DriverM GaugePoll).inl : MarkedM GaugePoll) :=
    inl_paced (hostKeeps_paced .pollGauge).perform
  refine hgauge.bind fun gauge => ⟨fun s p hs => ?_⟩
  refine (Proc.wp_bind (M := paceWatch) _ _ _ _ _).2 ((Proc.wp_inl _ paceWatch _ _ _).2 ?_)
  -- the tick on the pump ends with a decision, or there is no pump and nothing is due
  have hborrow : (withPump (tickOnPump gauge)).wp paceWatch.onLeft (fun outcome s' p' =>
      ∃ wants : Option (Option Wants), outcome = .ok wants ∧
        TickEnded wants.join s'.schedule p') s p := by
    refine withPump_wp_outcome (N := paceWatch.onLeft) (P := PacedDriver) ?_ ?_ s p hs
    · intro s p hs
      refine Proc.wp_mono (tickOnPump_decided gauge s p hs) ?_
      rintro outcome s p ⟨wants, rfl, hended⟩
      exact ⟨some wants, rfl, hended⟩
    · exact fun s p _ hs => ⟨none, rfl, hs⟩
  refine Proc.wp_mono hborrow ?_
  rintro outcome s p ⟨wants, rfl, hended⟩
  -- the new schedule is admissible, and so is the negotiation it makes due
  obtain ⟨hadmitted, hlandings⟩ := markedLandings_paced wants.join s p hended
  rw [Proc.thenWp_ok]
  refine (Proc.wp_get_bind (M := paceWatch) s p _ _).2 ?_
  refine (Proc.wp_perform_bind (M := paceWatch) s p
    (Sum.inr (DriverMark.scheduled s.reElevateNextMs)) _ _).2 ⟨hadmitted, fun _ _ => ?_⟩
  refine (Proc.wp_bind (M := paceWatch) _ _ _ _ _).2 (Proc.wp_mono hlandings ?_)
  rintro (e | _) s p hs
  · nomatch e
  · exact (inl_paced (hostKeeps_paced (.point .tickDone)).perform).run s p hs

omit [LoopFuel] in
/-- A mark the watch takes no note of. -/
theorem mark_paced (cause : Cause)
    (h : ∀ p : Pace, p.Negotiable cause ∧ p.negotiating cause = p) :
    Proc.Keeps paceWatch PacedDriver (Proc.mark (.negotiating cause) : MarkedM Unit) := by
  refine Proc.Keeps.perform fun s p hs => ⟨(h p).1, fun _ _ => ?_⟩
  show PacedDriver s (p.negotiating cause)
  rw [(h p).2]
  exact hs

/-- A commanded negotiation keeps the pace. -/
theorem markedRunHvdcp_paced (command : Nat) :
    Proc.Keeps paceWatch PacedDriver (markedRunHvdcp command) := by
  have hcommand : Proc.Keeps paceWatch PacedDriver (markedCommand command) := by
    refine Proc.Keeps.ite (fun _ => ?_) fun _ => ?_
    · exact Proc.Keeps.get.bind fun s => Proc.Keeps.pure _
    · refine (mark_paced .request fun p => ⟨trivial, rfl⟩).bind fun _ => ?_
      exact negotiation_paced fun code =>
        armHvdcpInputEdge_paced.bind fun _ => Proc.Keeps.pure code
  have hsample := withPump_keeps (driver_paced.held.sampleVbatUv 4000000)
  refine (inl_paced hsample).bind fun vbatUv => hcommand.bind fun code => ?_
  exact Proc.Keeps.get.bind fun s => Proc.Keeps.pure _

/-- The identification and the configuration of a pump leave the driver as it is. -/
theorem preparePump_paced (config : PumpConfig) :
    Proc.Keeps paceWatch.onLeft PacedDriver
      (fun s => (preparePump config).inl.map fun r => (.ok r, s) :
        DriverM (Except Int Pump)) := by
  refine ⟨fun s p hs => ?_⟩
  -- the watch hears no pump transfer
  have hprog := Prog.wp_deaf (N := paceWatch.onLeft.onLeft) (fun _ _ => trivial)
    (fun _ _ _ => rfl) (preparePump config) p
  have hmapped : ((preparePump config).inl.map fun r =>
      ((.ok r, s) : Except Empty (Except Int Pump) × DriverState)).wp paceWatch.onLeft
        (fun out p' => PacedDriver out.2 p') p := by
    refine (Prog.wp_map _ _ _ _).2 ((Prog.wp_inl _ _ _ _).2 (Prog.wp_mono hprog ?_))
    rintro opened p rfl
    exact hs
  unfold Proc.wp
  exact hmapped

/-- Preparing the hardware keeps the pace. -/
theorem markedPrepare_paced (key : Option Registry) (usbinId : Option Nat) :
    Proc.Keeps paceWatch PacedDriver (markedPrepare key usbinId) := by
  refine Proc.Keeps.bind (Proc.Keeps.modify fun s p hs => hs) fun _ => ?_
  refine (inl_paced (preparePump_paced _)).bind fun opened => ?_
  cases opened with
  | error code => exact Proc.Keeps.modify fun s p hs => hs
  | ok pump =>
      refine Proc.Keeps.bind (Proc.Keeps.modify fun s p hs => hs) fun _ => ?_
      refine (mark_paced .prepare fun p => ⟨trivial, rfl⟩).bind fun _ => ?_
      exact negotiation_paced fun code => armHvdcpInputEdge_paced.bind fun _ =>
        Proc.Keeps.when fun _ => inl_paced driver_paced.publishBattery

/-! ### Every entry point, every run -/

/-- Releasing the hardware keeps the pace. -/
theorem releaseHardware_paced : Proc.Keeps paceWatch.onLeft PacedDriver releaseHardware := by
  refine driver_paced.releaseHardware (Q := PacedDriver) ?_ (fun _ _ _ hs => hs)
    fun s p hs => Paced.notPending hs
  intro s p hs
  have hbody : Proc.Keeps paceWatch.onLeft (heldOf PacedDriver) (do
      Proc.discard (onPump standby)
      Proc.discard (onPump close) : HeldM Unit) :=
    (onPump_paced standby).discard.bind fun _ => (onPump_paced close).discard
  exact hbody.run s p hs

/-- Every entry point keeps the schedules ahead. -/
theorem driverOp_paced (op : DriverOp) : Proc.Keeps paceWatch PacedDriver op.marked := by
  -- only the tick, the request and the prepare negotiate
  cases op with
  | tick => exact markedTick_paced
  | getStatus => exact inl_paced driver_paced.handleGetStatus.discard
  | readReg addr => exact inl_paced (driver_paced.handleReadReg addr).discard
  | writeReg addr value =>
      exact inl_paced (driver_paced.handleWriteReg fun _ => opKeeps_pace).discard
  | setLimits iinUa vbatUv =>
      have hcurrent : Proc.Keeps paceWatch.onLeft (heldOf PacedDriver) (setGuardCurrent iinUa) :=
        setGuardCurrent_keeps (fun _ => keeps_pace (fun _ _ _ h => h) _) fun _ _ _ hs => hs
      have hlimits := handleSetLimits_keeps iinUa vbatUv hcurrent fun _ =>
        keeps_pace (fun _ _ _ h => h) _
      exact inl_paced hlimits.discard
  | setMode mode => exact inl_paced (land_paced.handleSetMode mode).discard
  | setCharge on => exact inl_paced (land_paced.handleSetCharge on).discard
  | runHvdcp command => exact (markedRunHvdcp_paced command).discard
  | deviceAdd => exact inl_paced (Proc.Keeps.modify fun s p hs => hs)
  | prepare key usbinId => exact markedPrepare_paced key usbinId
  | release => exact inl_paced releaseHardware_paced

/-- The driver keeps to its rates in every run from the loaded state. The run can be marked at its
negotiations, and however it is marked, it meets the watch for as long as the clock does not run
backwards. -/
theorem rate_limited {log : List (Entry DevEffect DriverState DriverOp)}
    (h : Session DriverOp.run DriverState.new log) :
    (∃ marked, Session DriverOp.marked DriverState.new marked ∧
      marked.map Entry.unmark = log) ∧
      ∀ marked, Session DriverOp.marked DriverState.new marked →
        marked.map Entry.unmark = log → paceWatch.Meets Pace.start (exchanges marked) :=
  ⟨Session.marked DriverOp.unmark_marked h,
    fun _ hmarked _ => hmarked.meets driverOp_paced Pace.start Paced.start⟩

end

/-! ### A run with retries -/

/-- A 5 V input, and no way to the PMIC. -/
def retryingBench : Bench := .around Chip.fiveVolt

/-- The driver is loaded and ticks five times. -/
def retryingOps : List DriverOp :=
  [.deviceAdd, .prepare none none, .tick, .tick, .tick, .tick, .tick]

/-- The log of these entry points. A reading of the clock takes six seconds. -/
def retryingLog : List (Entry DevEffect DriverState DriverOp) :=
  Session.execute (Bench.answerEvery 6000) (@DriverOp.run ⟨0⟩) retryingBench
    DriverState.new retryingOps

/-- The same run with its marks. -/
def markedRetries : List (Entry MarkedEffect DriverState DriverOp) :=
  Session.execute (unanswered (Bench.answerEvery 6000)) (@DriverOp.marked ⟨0⟩)
    retryingBench DriverState.new retryingOps

/-- Every tick retries, and the schedule of the re-elevation moves with a longer delay each
time. -/
theorem rate_limited_retrying :
    markedRetries.map Entry.unmark = retryingLog ∧
      marksOf (exchanges markedRetries) =
        [.negotiating .prepare, .negotiated (-10),
          .scheduled 85000, .negotiating .retry, .negotiated (-10),
          .scheduled 85000, .negotiating .retry, .negotiated (-10),
          .scheduled 145000, .negotiating .retry, .negotiated (-10),
          .scheduled 145000, .negotiating .retry, .negotiated (-10),
          .scheduled 265000, .negotiating .retry, .negotiated (-10)] ∧
      paceWatch.Meets Pace.start (exchanges markedRetries) := by
  have hsession : Session (@DriverOp.run ⟨0⟩) DriverState.new retryingLog :=
    Session.session_execute (E := DevEffect) _ _ retryingOps retryingBench DriverState.new
  have hmarked : Session (@DriverOp.marked ⟨0⟩) DriverState.new markedRetries :=
    Session.session_execute (E := MarkedEffect) _ _ retryingOps retryingBench DriverState.new
  have hlog : markedRetries.map Entry.unmark = retryingLog :=
    Session.execute_unmark (@DriverOp.unmark_marked ⟨0⟩) (Bench.answerEvery 6000) retryingOps
      retryingBench DriverState.new
  exact ⟨hlog, by decide +kernel, (@rate_limited ⟨0⟩ _ hsession).2 markedRetries hmarked hlog⟩

end Kmdf
