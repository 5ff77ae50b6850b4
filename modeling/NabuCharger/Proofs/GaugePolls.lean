import NabuCharger.Kmdf.CallbackBench

/-!
# `Proofs.GaugePolls`: the fuel gauge is read once in a period, whoever polls it

The gauge is polled before the state mutex is taken, so ticks that run at the same time poll it at
the same time. The compare-and-swap gives every period to one of them: the stamps of the windows are
a period apart, and a window is read once at most. A release stops the polls before it takes the
mutex: from then on the gauge is read only by a tick that had seen the flag before.

`pollOrder` is what one call keeps to, read off its own exchanges. `Polled` is what follows for all
of them.
-/

set_option autoImplicit false

namespace Kmdf

open Effectful Ln8000 Wdf

/-! ### One call -/

/-- How far a call has come with its poll. -/
structure Poll where
  /-- It has seen that the gauge may be polled. -/
  seen : Bool
  /-- The window is its own. -/
  won : Bool
  /-- It has read the gauge. -/
  done : Bool

/-- A poll with nothing read, nothing published and no window taken. -/
def Poll.fresh : Poll := ⟨false, false, false⟩

/-- A call takes a window only when the last one is a period old, and reads in its own only. -/
abbrev pollOrder : Machine CallEffect where
  State := Poll
  allow
    | _, .free .now => fun r : Nat => 0 < r
    | _, _ => fun _ => True
  require
    | p, .free (.claim last now) =>
        p.seen = true ∧ 0 < now ∧ (last = 0 ∨ last + gaugePollMs ≤ now)
    | p, .free .read => p.seen = true ∧ p.won = true ∧ p.done = false
    | _, _ => True
  next
    | p, .free .isReady => fun ready : Bool => { p with seen := p.seen || ready }
    | p, .free (.claim _ _) => fun won : Bool => { p with won := p.won || won }
    | p, .free .read => fun _ => { p with done := true }
    | p, _ => fun _ => p

section
variable {α β : Type} {Q : β → Poll → Prop}

/-- A step that holds the lock without polling owes nothing to the poll order. -/
theorem held_bind_unobliged (p : Prog (DevEffect.sum RequestEffect) α)
    {f : α → Prog CallEffect β} (hf : ∀ a m, (f a).wp pollOrder Q m) :
    ∀ m, (p.held.bind f).wp pollOrder Q m := by
  induction p with
  | ret a => exact hf a
  | op o k ih => exact fun m => ⟨trivial, fun r _ => ih r m⟩
  | diverge => exact fun _ => trivial

end

/-- After the poll a call has no obligation any more. -/
theorem enter_unobliged (x : RequestM Bool) (p : Poll) :
    (enter x Callback.after : Prog CallEffect Unit).wp pollOrder (fun _ _ => True) p := by
  -- whatever the body returned, only a taken rundown is given back
  have hleave (taken : Bool) (p : Poll) :
      (leave taken : Prog CallEffect Unit).wp pollOrder (fun _ _ => True) p := by
    cases taken with
    | true => exact ⟨trivial, fun _ _ => trivial⟩
    | false => exact trivial
  have hafter (r : Except Empty Bool) (taken : Bool) (p : Poll) :
      ((Callback.after r).free.bind fun _ => (leave taken : Prog CallEffect Unit)).wp pollOrder
        (fun _ _ => True) p := by
    cases r with
    | error e => exact e.elim
    | ok ready =>
        cases ready with
        | true => exact ⟨trivial, fun _ _ => hleave taken p⟩
        | false => exact hleave taken p
  -- under the lock the body runs in one piece, and owes nothing when it ends
  have hcritical (taken : Bool) (p : Poll) :
      (critical x Callback.after taken : Prog CallEffect Unit).wp pollOrder
        (fun _ _ => True) p := by
    refine ⟨trivial, fun s _ => held_bind_unobliged _ (fun out p => ?_) p⟩
    exact ⟨trivial, fun _ _ => hafter out.1 taken p⟩
  refine ⟨trivial, fun (ready : Bool) _ => ?_⟩
  cases ready with
  | true => exact ⟨trivial, fun _ _ => hcritical true p⟩
  | false => exact hcritical false p

/-- A window that is a period old, or the first one, is taken and read. -/
theorem claimAndRead_ordered {f : GaugePoll → Prog CallEffect Unit}
    (hf : ∀ gauge p, (f gauge).wp pollOrder (fun _ _ => True) p) {last now : Nat} (hnow : 0 < now)
    (hdue : last = 0 ∨ last + gaugePollMs ≤ now) :
    ((claimAndRead last now).free.bind f).wp pollOrder (fun _ _ => True) ⟨true, false, false⟩ := by
  refine ⟨⟨rfl, hnow, hdue⟩, fun (claimed : Bool) _ => ?_⟩
  cases claimed with
  | false => exact hf _ _
  | true =>
      refine ⟨⟨rfl, rfl, rfl⟩, fun (read : Option Byte) _ => ?_⟩
      cases read with
      | none => exact hf _ _
      | some raw => exact hf _ _

/-- The poll of a tick keeps to the order. -/
theorem readGaugeIfDue_ordered {f : GaugePoll → Prog CallEffect Unit}
    (hf : ∀ gauge p, (f gauge).wp pollOrder (fun _ _ => True) p) :
    (readGaugeIfDue.free.bind f).wp pollOrder (fun _ _ => True) Poll.fresh := by
  -- the claim follows only a clock that is a period past the last stamp
  have hlast (now last : Nat) (hnow : 0 < now) :
      ((if last ≠ 0 ∧ now - last < gaugePollMs then .ret .skipped
        else claimAndRead last now : Prog GaugeEffect GaugePoll).free.bind f).wp pollOrder
          (fun _ _ => True) ⟨true, false, false⟩ := by
    split
    · exact hf _ _
    · next hearly =>
        have hperiod : 0 < gaugePollMs := by decide
        exact claimAndRead_ordered hf hnow (by omega)
  refine ⟨trivial, fun (ready : Bool) _ => ?_⟩
  -- not ready or not bound: the callback goes on without the gauge
  cases ready with
  | false => exact hf _ _
  | true =>
      refine ⟨trivial, fun (bound : Bool) _ => ?_⟩
      cases bound with
      | false => exact hf _ _
      | true => exact ⟨trivial, fun now hnow => ⟨trivial, fun last _ => hlast now last hnow⟩⟩

section
variable [LoopFuel]

/-- Each callback keeps the poll order of its own thread. -/
theorem callback_ordered (c : Callback) :
    (guarded c.before c.body Callback.after : Prog CallEffect Unit).wp pollOrder
      (fun _ _ => True) Poll.fresh := by
  cases c with
  | tick => exact readGaugeIfDue_ordered fun _ => enter_unobliged _
  | prepare key usbinId => exact enter_unobliged _ _
  | release => exact ⟨trivial, fun _ _ => enter_unobliged _ _⟩
  | control code input room => exact enter_unobliged _ _

end

/-! ### All calls -/

variable {ι : Type} {log : List (Event (threads ι CallEffect))} {g : GaugeCell} {i : ι}
  {o : CallEffect.Op} {r : CallEffect.Resp o}

/-- The windows that were won, with their stamps. -/
def windows (log : List (Event (threads ι CallEffect))) : List (ι × Nat) :=
  log.filterMap fun
    | ⟨(i, .free (.claim _ now)), (won : Bool)⟩ => if won then some (i, now) else none
    | _ => none

/-- The calls that read the gauge. -/
def readers (log : List (Event (threads ι CallEffect))) : List ι :=
  log.filterMap fun
    | ⟨(i, .free .read), _⟩ => some i
    | _ => none

/-- The windows of a log grow by those of its last event. -/
theorem windows_concat (log : List (Event (threads ι CallEffect)))
    (e : Event (threads ι CallEffect)) :
    windows (log ++ [e]) = windows log ++ windows [e] :=
  List.filterMap_append

/-- The readers of a log grow by those of its last event. -/
theorem readers_concat (log : List (Event (threads ι CallEffect)))
    (e : Event (threads ι CallEffect)) :
    readers (log ++ [e]) = readers log ++ readers [e] :=
  List.filterMap_append

/-- Only a read makes a reader. -/
theorem read_of_mem {j : ι} (h : j ∈ readers [⟨(i, o), r⟩]) : i = j ∧ o = .free .read := by
  cases o with
  | held o => exact absurd h List.not_mem_nil
  | lock o => cases o <;> exact absurd h List.not_mem_nil
  | free o =>
      cases o with
      | read => exact ⟨(List.mem_singleton.1 h).symm, rfl⟩
      | _ => exact absurd h List.not_mem_nil

variable [DecidableEq ι]

/-- How far a call has come in a log. -/
def poll (i : ι) (log : List (Event (threads ι CallEffect))) : Poll :=
  pollOrder.after Poll.fresh (ofThread i log)

/-- The poll of a thread moves only on that thread's events. -/
theorem poll_concat (j : ι) (log : List (Event (threads ι CallEffect)))
    (e : Event (threads ι CallEffect)) : poll j (log ++ [e]) =
      if e.op.1 = j then pollOrder.next (poll j log) e.op.2 e.resp else poll j log := by
  rw [poll, ofThread_concat, Machine.after_append]
  by_cases hij : e.op.1 = j
  · rw [if_pos hij, if_pos hij]
    rfl
  · rw [if_neg hij, if_neg hij]
    rfl

/-- What holds of all polls together. -/
structure Polled (log : List (Event (threads ι CallEffect))) (last : Nat) : Prop where
  spaced : (windows log).Pairwise fun a b => a.2 + gaugePollMs ≤ b.2
  within : ∀ w ∈ windows log, 0 < w.2 ∧ w.2 ≤ last
  won : ∀ i, (poll i log).won = true → ∃ stamp, (i, stamp) ∈ windows log
  once : (readers log).Nodup
  done : ∀ i ∈ readers log, (poll i log).done = true ∧ (poll i log).won = true
  seen : ∀ i, (poll i log).seen = true → ⟨(i, .free .isReady), true⟩ ∈ log

/-- The empty log has no windows and no readers. -/
theorem polled_nil (last : Nat) : Polled ([] : List (Event (threads ι CallEffect))) last where
  spaced := .nil
  within := nofun
  won := nofun
  once := .nil
  done := nofun
  seen := nofun

section
variable {last : Nat}

/-- An exchange that wins no window and is no read. -/
theorem Polled.aside (h : Polled log last) {e : Event (threads ι CallEffect)}
    (hwindows : windows [e] = []) (hreaders : readers [e] = [])
    (hkept : ∀ j, (poll j (log ++ [e])).won = (poll j log).won ∧
      (poll j (log ++ [e])).done = (poll j log).done)
    (hseen : ∀ j, (poll j (log ++ [e])).seen = true →
      ⟨(j, .free .isReady), true⟩ ∈ log ++ [e]) : Polled (log ++ [e]) last := by
  have hw : windows (log ++ [e]) = windows log := by
    rw [windows_concat, hwindows, List.append_nil]
  have hr : readers (log ++ [e]) = readers log := by
    rw [readers_concat, hreaders, List.append_nil]
  -- neither list grows, so every part is the one before
  refine ⟨?_, ?_, fun j hj => ?_, ?_, fun j hj => ?_, hseen⟩
  · rw [hw]
    exact h.spaced
  · rw [hw]
    exact h.within
  · rw [(hkept j).1] at hj
    rw [hw]
    exact h.won j hj
  · rw [hr]
    exact h.once
  · rw [hr] at hj
    rw [(hkept j).1, (hkept j).2]
    exact h.done j hj

/-- An exchange that is not part of a poll. -/
theorem Polled.quiet (h : Polled log last) {e : Event (threads ι CallEffect)}
    (hwindows : windows [e] = []) (hreaders : readers [e] = [])
    (hpoll : ∀ j, poll j (log ++ [e]) = poll j log) : Polled (log ++ [e]) last := by
  refine h.aside hwindows hreaders (fun j => ?_) fun j hj => ?_
  · rw [hpoll]
    exact ⟨rfl, rfl⟩
  · rw [hpoll] at hj
    exact List.mem_append_left _ (h.seen j hj)

/-- The flag is loaded. -/
theorem Polled.isReady (h : Polled log last) (i : ι) (ready : Bool) :
    Polled (log ++ [⟨(i, .free .isReady), ready⟩]) last := by
  refine h.aside rfl rfl (fun j => ?_) fun j hj => ?_
  · rw [poll_concat]
    split <;> exact ⟨rfl, rfl⟩
  · rw [poll_concat] at hj
    split at hj
    -- The caller has seen the flag now or before, anybody else before.
    · next hij =>
        rcases Bool.or_eq_true_iff.1 hj with hbefore | hnow
        · exact List.mem_append_left _ (h.seen j hbefore)
        · subst hij hnow
          exact List.mem_append_right _ (List.mem_singleton_self _)
    · exact List.mem_append_left _ (h.seen j hj)

/-- A window is won: the one before it is a period old. -/
theorem Polled.win (h : Polled log last) (i : ι) {now : Nat} (hnow : 0 < now)
    (hdue : last = 0 ∨ last + gaugePollMs ≤ now) :
    Polled (log ++ [⟨(i, .free (.claim last now)), true⟩]) now := by
  have hw : windows (log ++ [⟨(i, .free (.claim last now)), true⟩]) = windows log ++ [(i, now)] :=
    windows_concat log ⟨(i, .free (.claim last now)), true⟩
  have hr := (readers_concat log ⟨(i, .free (.claim last now)), true⟩).trans (List.append_nil _)
  -- The stamp that is replaced is no earlier than any stamp of a window, so one period covers all.
  have hspaced : ∀ w ∈ windows log, w.2 + gaugePollMs ≤ now := by
    intro w hmem
    obtain ⟨hpositive, hlast⟩ := h.within w hmem
    omega
  have hwon (j : ι) : (poll j (log ++ [⟨(i, .free (.claim last now)), true⟩])).won = true →
      i = j ∨ (poll j log).won = true := by
    rw [poll_concat]
    split
    · next hij => exact fun _ => .inl hij
    · exact .inr
  refine ⟨?_, fun w hmem => ?_, fun j hj => ?_, ?_, fun j hj => ?_, fun j hj => ?_⟩
  · rw [hw, List.pairwise_append]
    refine ⟨h.spaced, List.pairwise_singleton _ _, fun a ha b hb => ?_⟩
    rw [List.mem_singleton.1 hb]
    exact hspaced a ha
  · rw [hw] at hmem
    rcases List.mem_append.1 hmem with hbefore | hlast
    · have hle := hspaced w hbefore
      exact ⟨(h.within w hbefore).1, by omega⟩
    · rw [List.mem_singleton.1 hlast]
      exact ⟨hnow, Nat.le_refl _⟩
  · rw [hw]
    rcases hwon j hj with rfl | hbefore
    · exact ⟨now, List.mem_append_right _ (List.mem_singleton_self _)⟩
    · obtain ⟨stamp, hmem⟩ := h.won j hbefore
      exact ⟨stamp, List.mem_append_left _ hmem⟩
  · rw [hr]
    exact h.once
  · rw [hr] at hj
    obtain ⟨hdone, hbefore⟩ := h.done j hj
    rw [poll_concat]
    split
    · exact ⟨hdone, Bool.or_eq_true_iff.2 (.inl hbefore)⟩
    · exact ⟨hdone, hbefore⟩
  · have hseen : (poll j log).seen = true := by
      rw [poll_concat] at hj
      split at hj <;> exact hj
    exact List.mem_append_left _ (h.seen j hseen)

/-- The gauge is read, in a window of the reader that it has not used. -/
theorem Polled.read (h : Polled log last) (i : ι) (answer : Option Byte)
    (hwon : (poll i log).won = true) (hnot : (poll i log).done = false) :
    Polled (log ++ [⟨(i, .free .read), answer⟩]) last := by
  have hw := (windows_concat log ⟨(i, .free .read), answer⟩).trans (List.append_nil _)
  have hr : readers (log ++ [⟨(i, .free .read), answer⟩]) = readers log ++ [i] :=
    readers_concat log ⟨(i, .free .read), answer⟩
  have hpoll (j : ι) : (poll j (log ++ [⟨(i, .free .read), answer⟩])).won = (poll j log).won ∧
      (poll j (log ++ [⟨(i, .free .read), answer⟩])).seen = (poll j log).seen := by
    rw [poll_concat]
    split <;> exact ⟨rfl, rfl⟩
  refine ⟨?_, ?_, fun j hj => ?_, ?_, fun j hj => ?_, fun j hj => ?_⟩
  · rw [hw]
    exact h.spaced
  · rw [hw]
    exact h.within
  · rw [(hpoll j).1] at hj
    rw [hw]
    exact h.won j hj
  -- A reader is done with its window, and this one is not.
  · have hfirst : i ∉ readers log := by
      intro hmem
      rw [(h.done i hmem).1] at hnot
      cases hnot
    rw [hr]
    exact List.nodup_append.2 ⟨h.once, List.nodup_singleton i, fun a ha b hb hab =>
      hfirst (List.mem_singleton.1 hb ▸ hab ▸ ha)⟩
  · rw [(hpoll j).1, poll_concat]
    rw [hr] at hj
    rcases List.mem_append.1 hj with hbefore | hlast
    · obtain ⟨hdone, hwonj⟩ := h.done j hbefore
      refine ⟨?_, hwonj⟩
      split
      · rfl
      · exact hdone
    · rw [List.mem_singleton.1 hlast, if_pos rfl]
      exact ⟨rfl, hwon⟩
  · rw [(hpoll j).2] at hj
    exact List.mem_append_left _ (h.seen j hj)

end

/-- A call goes on with its poll, or with something else. -/
theorem Polled.step (h : Polled log g.last) (hrequire : pollOrder.require (poll i log) o)
    (hallow : (gaugeMemory ι (DevEffect.sum RequestEffect) DriverState).allow g (i, o) r) :
    Polled (log ++ [⟨(i, o), r⟩])
      ((gaugeMemory ι (DevEffect.sum RequestEffect) DriverState).next g (i, o) r).last := by
  have hother (hsame : ∀ p, pollOrder.next p o r = p) (j : ι) :
      poll j (log ++ [⟨(i, o), r⟩]) = poll j log := by
    rw [poll_concat]
    split
    · exact hsame _
    · rfl
  cases o with
  | held o => exact h.quiet rfl rfl (hother fun _ => rfl)
  | lock o => cases o <;> exact h.quiet rfl rfl (hother fun _ => rfl)
  | free o =>
      cases o with
      | isReady => exact h.isReady i r
      | setReady ready => exact h.quiet rfl rfl (hother fun _ => rfl)
      | device => exact h.quiet rfl rfl (hother fun _ => rfl)
      | now => exact h.quiet rfl rfl (hother fun _ => rfl)
      | last => exact h.quiet rfl rfl (hother fun _ => rfl)
      | claim last now =>
          obtain ⟨_, hnow, hdue⟩ := hrequire
          show Polled _ (if g.last = last then { g with last := now } else g).last
          have hanswer : r = decide (g.last = last) := hallow
          by_cases hlast : g.last = last
          · subst hlast
            rw [decide_eq_true rfl] at hanswer
            subst hanswer
            rw [if_pos rfl]
            exact h.win i hnow hdue
          · -- Somebody else has taken the window.
            rw [decide_eq_false hlast] at hanswer
            subst hanswer
            rw [if_neg hlast]
            refine h.quiet rfl rfl (hother fun p => ?_)
            show { p with won := p.won || false } = p
            rw [Bool.or_false]
      | read => exact h.read i r hrequire.2.1 hrequire.2.2

omit [DecidableEq ι] in
/-- The clock stays past its start, so every stamp is. -/
theorem clock_step (hclock : 0 < g.clock)
    (hallow : (gaugeMemory ι (DevEffect.sum RequestEffect) DriverState).allow g (i, o) r) :
    0 < ((gaugeMemory ι (DevEffect.sum RequestEffect) DriverState).next g (i, o) r).clock ∧
      ∀ p, pollOrder.allow p o r := by
  cases o with
  | held o => exact ⟨hclock, fun _ => trivial⟩
  | lock o => cases o <;> exact ⟨hclock, fun _ => trivial⟩
  | free o =>
      cases o with
      | now =>
          -- the clock never goes back
          have hlater : ∀ now : Nat, g.clock ≤ now → 0 < now := fun _ => Nat.lt_of_lt_of_le hclock
          exact ⟨hlater r hallow, fun _ => hlater r hallow⟩
      | claim last now =>
          refine ⟨?_, fun _ => trivial⟩
          show 0 < (if g.last = last then { g with last := now } else g).clock
          split <;> exact hclock
      | _ => exact ⟨hclock, fun _ => trivial⟩

section
variable [LoopFuel] {calls : ι → Callback} {rest : ι → Prog CallEffect Unit}

/-- Every call keeps to the order of the poll, as long as the clock does. -/
theorem polls_allowed (hclock : 0 < g.clock)
    (h : Interleaving (gaugeMemory ι (DevEffect.sum RequestEffect) DriverState) g
      (callbackThreads calls) log rest) :
    0 < ((gaugeMemory ι (DevEffect.sum RequestEffect) DriverState).after g log).clock ∧
      ∀ i, pollOrder.Allowed Poll.fresh (ofThread i log) := by
  induction h with
  | start => exact ⟨hclock, fun _ => trivial⟩
  | @step log rest i o k r _ _ hallow ih =>
      -- the step of one thread is an exchange of that thread only
      obtain ⟨hstep, hpoll⟩ := clock_step ih.1 hallow
      rw [Machine.after_append]
      refine ⟨hstep, fun j => ?_⟩
      rw [ofThread_concat]
      split
      · exact (Machine.allowed_append _).2 ⟨ih.2 j, hpoll _, trivial⟩
      · rw [List.append_nil]
        exact ih.2 j

/-- The next exchange keeps to the order. -/
theorem ordered_step {k : CallEffect.Resp o → Prog CallEffect Unit} (hclock : 0 < g.clock)
    (h : Interleaving (gaugeMemory ι (DevEffect.sum RequestEffect) DriverState) g
      (callbackThreads calls) log rest) (hrest : rest i = .op o k)
    (hallow : (gaugeMemory ι (DevEffect.sum RequestEffect) DriverState).allow
      ((gaugeMemory ι (DevEffect.sum RequestEffect) DriverState).after g log) (i, o) r) :
    pollOrder.require (poll i log) o := by
  have hnext := Interleaving.step h hrest hallow
  have hmeets := Prog.Steps.meets (hnext.steps i) (callback_ordered (calls i))
  rw [ofThread_concat, if_pos rfl] at hmeets
  exact Machine.Meets.require_at pollOrder hmeets ((polls_allowed hclock h).2 i)

/-- Every interleaving keeps the windows and the stamp together. The induction is on the
interleaving. -/
theorem polled (hclock : 0 < g.clock)
    (h : Interleaving (gaugeMemory ι (DevEffect.sum RequestEffect) DriverState) g
      (callbackThreads calls) log rest) :
    Polled log ((gaugeMemory ι (DevEffect.sum RequestEffect) DriverState).after g log).last := by
  induction h with
  | start => exact polled_nil _
  | @step log rest i o k r hlog hrest hallow ih =>
      rw [Machine.after_append]
      exact ih.step (ordered_step hclock hlog hrest hallow) hallow

end

omit [DecidableEq ι] in
/-- A flag that is cleared and not set again is not seen. -/
theorem not_seen {later : List (Event (threads ι CallEffect))} (i : ι) :
    ∀ {g : GaugeCell}, g.ready = false →
      (gaugeMemory ι (DevEffect.sum RequestEffect) DriverState).Allowed g later →
        (∀ e ∈ later, e.op.2 ≠ .free (.setReady true)) → ⟨(i, .free .isReady), true⟩ ∉ later := by
  -- induction on the rest: without a published reading the flag stays down, so nobody sees it up
  induction later with
  | nil => exact fun _ _ _ => List.not_mem_nil
  | cons e later ih =>
      intro g hready hallowed hnot hmem
      obtain ⟨hallow, hrest⟩ := hallowed
      rcases List.mem_cons.1 hmem with rfl | hlater
      · have hseen : true = g.ready := hallow
        rw [hready] at hseen
        cases hseen
      · refine ih ?_ hrest (fun e' he' => hnot e' (List.mem_cons_of_mem _ he')) hlater
        obtain ⟨⟨j, o⟩, r⟩ := e
        cases o with
        | held o => exact hready
        | lock o => cases o <;> exact hready
        | free o =>
            cases o with
            | setReady ready =>
                cases ready with
                | true => exact absurd rfl (hnot _ (List.mem_cons_self ..))
                | false => rfl
            | claim last now =>
                show (if g.last = last then { g with last := now } else g).ready = false
                split <;> exact hready
            | _ => exact hready

section
variable [LoopFuel] {calls : ι → Callback} {rest : ι → Prog CallEffect Unit}

/-- Once the flag is cleared, the gauge is read only by calls that had seen it set. -/
theorem reads_before_stop (hclock : 0 < g.clock)
    (h : Interleaving (gaugeMemory ι (DevEffect.sum RequestEffect) DriverState) g
      (callbackThreads calls) log rest) :
    ∀ before later, log = before ++ later →
      ((gaugeMemory ι (DevEffect.sum RequestEffect) DriverState).after g before).ready = false →
        (∀ e ∈ later, e.op.2 ≠ .free (.setReady true)) →
          ∀ i ∈ readers later, ⟨(i, .free .isReady), true⟩ ∈ before := by
  induction h with
  | start =>
      intro before later heq _ _ i hi
      rw [(List.append_eq_nil_iff.1 heq.symm).2] at hi
      cases hi
  | @step log rest j o k r hlog hrest hallow ih =>
      intro before later heq hready hnot i hi
      rcases List.eq_nil_or_concat later with rfl | ⟨later, e, rfl⟩
      · cases hi
      -- The last exchange is behind the stop. If it is a read, its caller saw the flag, and behind
      -- the stop nobody does.
      · rw [List.concat_eq_append] at heq hnot hi
        rw [← List.append_assoc, List.append_singleton_inj] at heq
        obtain ⟨rfl, rfl⟩ := heq
        have hnot' := fun e he => hnot e (List.mem_append_left _ he)
        rw [readers_concat] at hi
        rcases List.mem_append.1 hi with hearlier | hlast
        · exact ih before later rfl hready hnot' i hearlier
        · obtain ⟨rfl, rfl⟩ := read_of_mem hlast
          have hseen := (polled hclock hlog).seen j (ordered_step hclock hlog hrest hallow).1
          rcases List.mem_append.1 hseen with hbefore | hlater
          · exact hbefore
          · have hallowed := ((Machine.allowed_append _).1 hlog.allowed).2
            exact absurd hlater (not_seen j hready hallowed hnot')

/-- However ticks and other calls interleave, the windows that were won are a period apart, the
gauge is read once at most in a window and by the call that won it, and after a release has stopped
the polls it is read only by calls that had seen the flag before. -/
theorem gauge_polls {m : Mutex ι DriverState} (hclock : 0 < g.clock)
    (h : Interleaving (driverMemory ι) (m, g) (callbackThreads calls) log rest) :
    (windows log).Pairwise (fun a b => a.2 + gaugePollMs ≤ b.2) ∧ (readers log).Nodup ∧
      (∀ i ∈ readers log, ∃ stamp, (i, stamp) ∈ windows log) ∧
        ∀ before later, log = before ++ later →
          ((gaugeMemory ι (DevEffect.sum RequestEffect) DriverState).after g before).ready = false →
            (∀ e ∈ later, e.op.2 ≠ .free (.setReady true)) →
              ∀ i ∈ readers later, ⟨(i, .free .isReady), true⟩ ∈ before := by
  have hgauge := h.right
  have hpolled := polled hclock hgauge
  exact ⟨hpolled.spaced, hpolled.once, fun i hi => hpolled.won i (hpolled.done i hi).2,
    reads_before_stop hclock hgauge⟩

end

/-- Two ticks load the same stamp, and the first of them takes the window. -/
def twoTicks : List (Fin 2) :=
  scheduleOf [0, 0, 0, 0, 1, 1, 1, 1, 0, 1, 0, 1, 1, 1, 1, 1, 1, 0, 0, 0, 0, 0, 0]

/-- Two threads tick within one window: the second takes it, and only one thread reads the gauge. -/
theorem gauge_polls_two_ticks : ∃ log : List (Event (threads (Fin 2) CallEffect)),
    windows log = [(0, 100)] ∧ owners log = [1, 0] ∧ readers log = [0] ∧ (readers log).Nodup := by
  have hrun : (callLog (fun _ => .tick) ⟨true, 0, 100⟩ [] twoTicks).map (fun ran =>
      decide (windows ran.1 = [(0, 100)]) && decide (owners ran.1 = [1, 0]) &&
        decide (readers ran.1 = [0])) = some true := by decide +kernel
  obtain ⟨⟨log, rest⟩, hlog, hall⟩ := Option.map_eq_some_iff.1 hrun
  simp only [Bool.and_eq_true, decide_eq_true_eq] at hall
  obtain ⟨⟨hwindows, howners⟩, hreaders⟩ := hall
  have hpolls := @gauge_polls (Fin 2) log ⟨true, 0, 100⟩ _ ⟨0⟩ _ rest _ (by decide)
    (interleaving_callLog hlog)
  exact ⟨log, hwindows, howners, hreaders, hpolls.2.1⟩

end Kmdf
