import NabuCharger.Kmdf.VinTrace
import Mathlib.Order.Bounds.Basic

/-!
# `Proofs.Force9vWait`: how long the `FORCE_9V` answer is waited for

The wait samples `Vin` every 50 ms. It ends when two samples in a row are above the 2:1 gate, or
when a sample below it comes at the deadline. The deadline is 1.6 s and moves to 4 s once, at the
first sample that shows the adapter rising.

`Going` is what holds whenever a sample is judged. A sample above the gate is not held against
the deadline, so the wait may pass it by one poll, and no further, since the next sample decides
either way (`Going.on_time`). So the hard cap is never reached, and the polls are enough.
-/

set_option autoImplicit false

namespace Kmdf

open Effectful Ln8000

/-- The wait as a whole: the first sample, and then the polls. -/
def force9vWait : HvdcpM (Int × Int) := do
  let first ← readVin
  waitForce9vRise force9vPolls
    { waited := 0, deadline := force9vSettleMs, extended := false, last := first, peak := first,
      confirm := 0 }

/-- The wait of the negotiation is this one. -/
theorem elevateDcp_eq (bus : Bus) (vbatUv : Nat) : elevateDcp bus vbatUv = (do
    requestForce9v bus
    let _ ← force9vWait
    let after ← readVin
    let (vin, hold) ← confirmHold 4 after 0
    if hold < 2 then
      safeForce5v bus
      Proc.modify fun st => { st with pulseCnt := 0 }
      let vin ← dcpRaise bus (asI32 (targetVbusUv vbatUv)) maxPulseCnt vin
      if vin < force9vRiseUv then
        safeForce5v bus
        Proc.discard (ensureIclAtLeast bus iclRawDcp2a)
      else Proc.discard (ensureIclAtLeast bus iclRawHvdcp21p5a)
    else pure ()) := by
  -- the wait is the first part of the elevation, up to its last poll
  simp only [elevateDcp, force9vWait, Proc.bind_assoc]

namespace Force9vPoll

/-- The state in which the first sample is judged. -/
def start (vin : Int) : Force9vPoll where
  waited := 0
  deadline := force9vSettleMs
  extended := false
  last := vin
  peak := vin
  confirm := 0

/-- The next poll: one more pause, and a sample. -/
def next (poll : Force9vPoll) (vin : Int) : Force9vPoll :=
  { poll with
    waited := satAdd 32 poll.waited force9vPollMs
    last := vin
    peak := max poll.peak vin }

/-- The states in which the samples are judged, from `poll` on. -/
def follow : Force9vPoll → List Int → List Force9vPoll
  | poll, [] => [poll]
  | poll, vin :: rest =>
      match poll.judge with
      | none => [poll]
      | some judged => poll :: follow (judged.next vin) rest

/-- The judgement moves the deadline. -/
def movesDeadline (poll : Force9vPoll) : Bool :=
  match poll.judge with
  | none => false
  | some judged => decide (judged.deadline ≠ poll.deadline)

/-! ### One judgement -/

/-- The wait ends on the second sample above the gate, or on one below it at the deadline. -/
theorem judge_none {poll : Force9vPoll} (h : poll.judge = none) :
    ((switchingMinVinUv : Int) ≤ poll.last ∧ force9vConfirmN ≤ poll.confirm + 1) ∨
      poll.last < switchingMinVinUv ∧ poll.deadline ≤ poll.waited := by
  simp only [judge] at h
  -- over the gate the confirmations decide, under it the deadline
  by_cases hgate : (switchingMinVinUv : Int) ≤ poll.last
  · rw [if_pos hgate] at h
    by_cases hconfirm : force9vConfirmN ≤ poll.confirm + 1
    · exact .inl ⟨hgate, hconfirm⟩
    · rw [if_neg hconfirm] at h
      cases h
  · rw [if_neg hgate, force9vStep] at h
    refine .inr ⟨Int.lt_of_not_ge hgate, ?_⟩
    by_contra hlate
    rw [if_neg (not_or.2 ⟨hgate, hlate⟩)] at h
    by_cases hrise : poll.extended = false ∧ force9vRiseUv ≤ poll.last
    · rw [if_pos hrise] at h
      cases h
    · rw [if_neg hrise] at h
      cases h

/-- It goes on after a first sample above the gate, after one that shows the rise for the first
time, and otherwise before the deadline. -/
theorem judge_some {poll judged : Force9vPoll} (h : poll.judge = some judged) :
    ((switchingMinVinUv : Int) ≤ poll.last ∧ poll.confirm = 0 ∧
      judged = { poll with peak := max poll.peak poll.last, confirm := 1 }) ∨
    (poll.last < switchingMinVinUv ∧ poll.waited < poll.deadline ∧ poll.extended = false ∧
      force9vRiseUv ≤ poll.last ∧ ∃ moved, moved = force9vExtendedDeadline poll.deadline ∧
        judged = { poll with
          peak := max poll.peak poll.last
          confirm := 0
          deadline := moved
          extended := true }) ∨
    poll.last < switchingMinVinUv ∧ poll.waited < poll.deadline ∧
      judged = { poll with peak := max poll.peak poll.last, confirm := 0 } := by
  simp only [judge] at h
  -- a sample above the gate goes on only as the first of its kind
  by_cases hgate : (switchingMinVinUv : Int) ≤ poll.last
  · rw [if_pos hgate] at h
    by_cases hconfirm : force9vConfirmN ≤ poll.confirm + 1
    · rw [if_pos hconfirm] at h
      cases h
    · rw [if_neg hconfirm] at h
      rw [force9vConfirmN] at hconfirm
      have hzero : poll.confirm = 0 := by omega
      rw [hzero] at h
      exact .inl ⟨hgate, hzero, (Option.some.inj h).symm⟩
  · have hbelow := Int.lt_of_not_ge hgate
    rw [if_neg hgate, force9vStep] at h
    -- one below it goes on before the deadline, which the first rise moves out
    by_cases hlate : poll.deadline ≤ poll.waited
    · rw [if_pos (.inr hlate)] at h
      cases h
    · rw [if_neg (not_or.2 ⟨hgate, hlate⟩)] at h
      have hearly := Nat.lt_of_not_le hlate
      by_cases hrise : poll.extended = false ∧ force9vRiseUv ≤ poll.last
      · rw [if_pos hrise] at h
        exact .inr (.inl ⟨hbelow, hearly, hrise.1, hrise.2, _, rfl, (Option.some.inj h).symm⟩)
      · rw [if_neg hrise] at h
        exact .inr (.inr ⟨hbelow, hearly, (Option.some.inj h).symm⟩)

/-! ### What is kept -/

/-- The samples before the newest one are `earlier`, and the wait goes on. -/
structure Going (poll : Force9vPoll) (earlier : List Int) : Prop where
  waited : poll.waited = force9vPollMs * earlier.length
  deadline : poll.deadline = if poll.extended then 4000 else force9vSettleMs
  on_time : poll.waited ≤ poll.deadline + force9vPollMs * poll.confirm
  confirm : poll.confirm = 0 ∨
    poll.confirm = 1 ∧ ∃ before v, earlier = before ++ [v] ∧ (switchingMinVinUv : Int) ≤ v
  peak : IsGreatest {v | v ∈ earlier ++ [poll.last]} poll.peak
  quiet : (∀ v ∈ earlier, v < force9vRiseUv) → poll.extended = false ∧ poll.confirm = 0

/-- A poll that has just begun has no earlier samples to answer for. -/
theorem Going.start (vin : Int) : Going (start vin) [] where
  waited := rfl
  deadline := rfl
  on_time := Nat.zero_le _
  confirm := .inl rfl
  peak := by
    refine ⟨List.mem_singleton_self vin, ?_⟩
    intro v hv
    rw [List.mem_singleton.1 hv]
    exact le_refl vin
  quiet _ := ⟨rfl, rfl⟩

/-- The greatest of a list and of one more. -/
theorem isGreatest_concat {l : List Int} {peak : Int} (h : IsGreatest {v | v ∈ l} peak)
    (vin : Int) :
    IsGreatest {v | v ∈ l ++ [vin]} (max peak vin) := by
  obtain ⟨hmem, hall⟩ := h
  constructor
  · -- the new peak is the old one or the new sample
    rcases max_choice peak vin with heq | heq
    · rw [heq]
      exact List.mem_append_left _ hmem
    · rw [heq]
      exact List.mem_append_right _ (List.mem_singleton_self vin)
  · intro v hv
    rcases List.mem_append.1 hv with hold | hnew
    · exact le_max_of_le_left (hall hold)
    · rw [List.mem_singleton.1 hnew]
      exact le_max_right peak vin

variable {poll judged : Force9vPoll} {earlier : List Int}

/-- The last sample of a poll in progress is never above the peak it recorded. -/
theorem Going.last_le_peak (h : poll.Going earlier) : poll.last ≤ poll.peak :=
  h.peak.2 (List.mem_append_right _ (List.mem_singleton_self _))

/-- The deadline before and after the first rise: whole polls both. -/
theorem Going.deadline_cases (h : poll.Going earlier) :
    poll.extended = false ∧ poll.deadline = 1600 ∨ poll.extended = true ∧ poll.deadline = 4000 := by
  have hdeadline := h.deadline
  cases hextended : poll.extended with
  | false =>
      rw [hextended] at hdeadline
      exact .inl ⟨rfl, hdeadline⟩
  | true =>
      rw [hextended] at hdeadline
      exact .inr ⟨rfl, hdeadline⟩

/-- A wait that goes on has not reached the hard cap. -/
theorem Going.waited_le (h : poll.Going earlier) : poll.waited ≤ 4050 := by
  have htime := h.on_time
  have hdeadline := h.deadline_cases
  have hconfirm : poll.confirm ≤ 1 := by
    rcases h.confirm with hzero | ⟨hone, -⟩
    · omega
    · omega
  rw [force9vPollMs] at htime
  omega

/-- Below the time limit the saturating addition is an addition. -/
theorem satAdd_poll {waited : Nat} (h : waited ≤ 5000) :
    satAdd 32 waited force9vPollMs = waited + 50 := by
  simp only [satAdd, force9vPollMs, wordMax]
  omega

/-- The next poll: one more sample goes to the earlier ones. -/
theorem Going.next (h : poll.Going earlier) (hjudge : poll.judge = some judged) (vin : Int) :
    (judged.next vin).Going (earlier ++ [poll.last]) := by
  have hwaited := h.waited
  have hcap := h.waited_le
  have htime := h.on_time
  have hpeak := isGreatest_concat h.peak vin
  have hmax : max poll.peak poll.last = poll.peak := max_eq_left h.last_le_peak
  have hlater : satAdd 32 poll.waited force9vPollMs = poll.waited + 50 :=
    satAdd_poll (by omega)
  have hlength : poll.waited + 50 = force9vPollMs * (earlier ++ [poll.last]).length := by
    rw [List.length_append, List.length_singleton, hwaited, force9vPollMs]
    omega
  have hquiet : (∀ v ∈ earlier ++ [poll.last], v < force9vRiseUv) →
      poll.extended = false ∧ poll.last < force9vRiseUv := by
    intro hall
    have hearlier := h.quiet fun v hv => hall v (List.mem_append_left _ hv)
    exact ⟨hearlier.1, hall _ (List.mem_append_right _ (List.mem_singleton_self _))⟩
  have hgate : force9vRiseUv < (switchingMinVinUv : Int) := by decide
  have hpoll : force9vPollMs = 50 := rfl
  rcases judge_some hjudge with ⟨habove, hzero, rfl⟩ |
      ⟨hbelow, hearly, hfirst, hrise, moved, hmoved, rfl⟩ | ⟨hbelow, hearly, rfl⟩
  · -- the first sample above the gate
    exact {
      waited := hlater.trans hlength
      deadline := h.deadline
      on_time := by
        show satAdd 32 poll.waited force9vPollMs ≤ poll.deadline + force9vPollMs * 1
        rw [hzero] at htime
        omega
      confirm := .inr ⟨rfl, earlier, poll.last, rfl, habove⟩
      peak := by
        show IsGreatest _ (max (max poll.peak poll.last) vin)
        rw [hmax]
        exact hpeak
      quiet := fun hall => by
        have hlast := (hquiet hall).2
        omega }
  · -- the first rise: the deadline moves
    have hold : poll.deadline = 1600 := by
      rw [h.deadline, hfirst]
      rfl
    have hnew : moved = 4000 := by
      rw [hmoved, hold]
      rfl
    exact {
      waited := hlater.trans hlength
      deadline := hnew
      on_time := by
        show satAdd 32 poll.waited force9vPollMs ≤ moved + 0
        omega
      confirm := .inl rfl
      peak := by
        show IsGreatest _ (max (max poll.peak poll.last) vin)
        rw [hmax]
        exact hpeak
      quiet := fun hall => by
        have hlast := (hquiet hall).2
        omega }
  · -- a sample below the gate, before the deadline: both are whole polls
    have hwhole : poll.waited + 50 ≤ poll.deadline := by
      have hdeadline := h.deadline_cases
      rw [hpoll] at hwaited
      omega
    exact {
      waited := hlater.trans hlength
      deadline := h.deadline
      on_time := by
        show satAdd 32 poll.waited force9vPollMs ≤ poll.deadline + 0
        omega
      confirm := .inl rfl
      peak := by
        show IsGreatest _ (max (max poll.peak poll.last) vin)
        rw [hmax]
        exact hpeak
      quiet := fun hall => ⟨(hquiet hall).1, rfl⟩ }

/-- The deadline moves only for the first rise. -/
theorem Going.moves (h : poll.Going earlier) (hjudge : poll.judge = some judged) :
    (if poll.movesDeadline then 1 else 0) + (if poll.extended then 1 else 0) =
      if judged.extended then 1 else 0 := by
  have hdeadline := h.deadline
  rw [movesDeadline, hjudge]
  rcases judge_some hjudge with ⟨-, -, rfl⟩ | ⟨-, -, hfirst, -, moved, hmoved, rfl⟩ | ⟨-, -, rfl⟩
  · simp
  · have hlater : moved ≠ poll.deadline := by
      rw [hmoved, hdeadline, hfirst]
      decide
    simp [hlater, hfirst]
  · simp

/-- Judging a poll does not advance its clock. -/
theorem judged_waited (hjudge : poll.judge = some judged) : judged.waited = poll.waited := by
  rcases judge_some hjudge with ⟨-, -, rfl⟩ | ⟨-, -, -, -, _, -, rfl⟩ | ⟨-, -, rfl⟩
  · rfl
  · rfl
  · rfl

/-- Following a sample list judges the poll and goes on with the next sample. -/
theorem follow_cons (hjudge : poll.judge = some judged) (vin : Int) (rest : List Int) :
    poll.follow (vin :: rest) = poll :: (judged.next vin).follow rest := by
  rw [follow, hjudge]

end Force9vPoll

/-! ### The whole wait -/

open Force9vPoll

section
variable {s s' : HvdcpState} {t : List (Event HvdcpEffect)}

/-- The loop ends in a state that its judgement stops. -/
theorem waitForce9vRise_yields (fuel : Nat) : ∀ {poll : Force9vPoll} {earlier : List Int}
    {t : List (Event HvdcpEffect)} {r : Except HvdcpError (Int × Int)}, poll.Going earlier →
    (waitForce9vRise fuel poll).Yields s t r s' →
    ∃ final before, (poll.follow (vinReads t)).getLast? = some final ∧ final.Going before ∧
      final.judge = none ∧ before ++ [final.last] = earlier ++ poll.last :: vinReads t ∧
      r = .ok (final.last, final.peak) ∧ final.waited = poll.waited + sleptMs t ∧
      (poll.follow (vinReads t)).countP movesDeadline + (if poll.extended then 1 else 0) ≤ 1 := by
  -- induction on the fuel: a poll ends here, or sleeps once and follows the next sample
  induction fuel with
  | zero => exact fun _ h => nomatch h
  | succ fuel ih =>
      intro poll earlier t r hgoing h
      rw [waitForce9vRise] at h
      cases hjudge : poll.judge with
      | none =>
          rw [hjudge] at h
          obtain ⟨rfl, rfl, -⟩ := h.pure_cases
          -- the poll that stops does not move its deadline
          have hstays : movesDeadline poll = false := by
            rw [movesDeadline, hjudge]
          have hpeak : max poll.peak poll.last = poll.peak := max_eq_left hgoing.last_le_peak
          refine ⟨poll, earlier, rfl, hgoing, hjudge, rfl, ?_, rfl, ?_⟩
          · rw [hpeak]
          · rw [vinReads_nil, follow, List.countP_singleton, hstays, if_neg Bool.false_ne_true]
            split
            · exact Nat.le_refl 1
            · exact Nat.zero_le 1
      | some judged =>
          have hcap := hgoing.waited_le
          rw [hjudge] at h
          dsimp only at h
          rw [judged_waited hjudge, if_neg (by rw [force9vHardCapMs]; omega)] at h
          obtain ⟨rest, rfl, hread⟩ := sleepMs_bind_cases h
          obtain ⟨vin, rest, rfl, hrest⟩ := readVin_bind_cases hread
          have hmoves := hgoing.moves hjudge
          have hnext : judged.next vin =
              { judged with
                waited := satAdd 32 poll.waited force9vPollMs
                last := vin
                peak := max judged.peak vin } := by
            rw [next, judged_waited hjudge]
          rw [← hnext] at hrest
          obtain ⟨final, before, hlast, hfinal, hstop, hsamples, hresult, hslept, hcount⟩ :=
            ih (hgoing.next hjudge vin) hrest
          refine ⟨final, before, ?_, hfinal, hstop, ?_, hresult, ?_, ?_⟩
          · show (poll.follow (vin :: vinReads rest)).getLast? = some final
            rw [follow_cons hjudge, List.getLast?_cons, hlast]
            rfl
          · show before ++ [final.last] = earlier ++ poll.last :: vin :: vinReads rest
            rw [hsamples, List.append_assoc]
            rfl
          · show final.waited = poll.waited + (force9vPollMs + sleptMs (⟨.readVin, vin⟩ :: rest))
            have hpause : (judged.next vin).waited = poll.waited + 50 := by
              rw [hnext]
              exact satAdd_poll (by omega)
            rw [hslept, hpause, sleptMs_readVin, force9vPollMs, Nat.add_assoc]
          · show (poll.follow (vin :: vinReads rest)).countP movesDeadline + _ ≤ 1
            have hkept : (judged.next vin).extended = judged.extended := rfl
            rw [hkept] at hcount
            rw [follow_cons hjudge, List.countP_cons]
            omega

/-- The polls are enough, whatever the samples. -/
theorem waitForce9vRise_returns (fuel : Nat) : ∀ {poll : Force9vPoll} {earlier : List Int},
    poll.Going earlier → 4050 < poll.waited + force9vPollMs * fuel →
    Proc.Returns (waitForce9vRise fuel poll) := by
  -- each poll uses 50 ms of the 4050, so the fuel outlasts the deadline
  induction fuel with
  | zero =>
      intro poll earlier hgoing hfuel
      have hcap := hgoing.waited_le
      omega
  | succ fuel ih =>
      intro poll earlier hgoing hfuel
      have hcap := hgoing.waited_le
      rw [waitForce9vRise]
      cases hjudge : poll.judge with
      | none => exact .pure _
      | some judged =>
          dsimp only
          refine .ite (.pure _) (.bind (.perform _) fun _ => .bind (.perform _) fun vin => ?_)
          have hpause : (judged.next vin).waited = poll.waited + 50 := by
            rw [next, judged_waited hjudge]
            exact satAdd_poll (by omega)
          refine ih (hgoing.next hjudge vin) ?_
          show 4050 < (judged.next vin).waited + force9vPollMs * fuel
          rw [hpause]
          rw [force9vPollMs] at hfuel ⊢
          omega

/-- The wait returns on every stream of samples. It sleeps for the hard cap at most and moves its
deadline at most once. Without a rise it sleeps for the first deadline. Before its deadline and
the cap, it ends only on two samples in a row above the gate. Its second answer is the greatest
sample. -/
theorem force9v_wait : Proc.Returns force9vWait ∧
    ∀ {s s' : HvdcpState} {t : List (Event HvdcpEffect)} {r : Except HvdcpError (Int × Int)},
      force9vWait.Yields s t r s' →
      ∃ first rest last peak, vinReads t = first :: rest ∧ r = .ok (last, peak) ∧
        sleptMs t ≤ 5000 ∧
        ((start first).follow rest).countP movesDeadline ≤ 1 ∧
        ((∀ v ∈ vinReads t, v < 5600000) → sleptMs t = 1600) ∧
        (∀ final ∈ ((start first).follow rest).getLast?,
          sleptMs t < final.deadline → sleptMs t < 5000 →
            ∃ before v, vinReads t = before ++ [v, last] ∧ 8000000 ≤ v ∧ 8000000 ≤ last) ∧
        IsGreatest {v | v ∈ vinReads t} peak := by
  constructor
  · -- the fuel of the wait is enough for the extended deadline
    have hpolls : 4050 < 0 + force9vPollMs * force9vPolls := by decide
    refine .bind (.perform _) fun first => ?_
    exact waitForce9vRise_returns _ (Going.start first) hpolls
  · intro s s' t r h
    obtain ⟨first, rest, rfl, hrest⟩ := readVin_bind_cases h
    obtain ⟨final, before, hlast, hfinal, hstop, hsamples, hresult, hslept, hcount⟩ :=
      waitForce9vRise_yields _ (Going.start first) hrest
    have hreads : vinReads (⟨.readVin, first⟩ :: rest) = before ++ [final.last] := hsamples.symm
    have hzero : final.waited = sleptMs rest := hslept.trans (Nat.zero_add _)
    have hcap := hfinal.waited_le
    have hgate : (switchingMinVinUv : Int) = 8000000 := rfl
    refine ⟨first, vinReads rest, final.last, final.peak, rfl, hresult, ?_, ?_, ?_, ?_, ?_⟩
    · rw [sleptMs_readVin]
      omega
    · exact Nat.le_of_add_right_le hcount
    · -- without a sample that rises the deadline is the first one
      intro hlow
      rw [hreads] at hlow
      have hbefore := hfinal.quiet fun v hv => hlow v (List.mem_append_left _ hv)
      have hnewest := hlow _ (List.mem_append_right _ (List.mem_singleton_self _))
      have htime := hfinal.on_time
      rw [hfinal.deadline, hbefore.1, hbefore.2] at htime
      have htime : final.waited ≤ 1600 := htime
      rw [sleptMs_readVin]
      rcases judge_none hstop with ⟨habove, -⟩ | ⟨-, hlate⟩
      · omega
      · rw [hfinal.deadline, hbefore.1] at hlate
        have hlate : 1600 ≤ final.waited := hlate
        omega
    · -- an end before the deadline was confirmed by two samples above the gate
      intro final' hmem hearly _
      rw [Option.mem_def, hlast] at hmem
      cases hmem
      rw [sleptMs_readVin] at hearly
      rcases judge_none hstop with ⟨habove, hconfirm⟩ | ⟨-, hlate⟩
      · rw [force9vConfirmN] at hconfirm
        rcases hfinal.confirm with hnone | ⟨-, before', v, rfl, hbefore⟩
        · omega
        · refine ⟨before', v, ?_, hbefore, habove⟩
          rw [hreads, List.append_assoc]
          rfl
      · omega
    · rw [hreads]
      exact hfinal.peak

end

end Kmdf
