import NabuCharger.Kmdf.VinTrace

/-!
# `Proofs.Qc35Outcome`: the QC3.5 authentication against its policy

`qc35AuthenticateOutcome` decides an authentication from three samples. The driver's sequence takes
many more: one before every pulse of the preparation, and one for every poll of its two waits.

The samples of a run are read here as a parser would read them. `firstIn` is a wait, `prepped` the
preparation, and each says what it answers and which samples it leaves to what comes next. The
program does the same, whatever follows it (`waitVinWindow_firstIn`,
`prepQc35DetectWindow_detected`). The latch does not show, since a pulse it keeps back still
succeeds.
-/

set_option autoImplicit false

namespace Kmdf

open Effectful Ln8000

/-! ### The samples the decision is about -/

/-- The first of the next `polls` samples in the window, and the samples after it. -/
def firstIn (pred : Int → Bool) : Nat → List Int → Option Int × List Int
  | 0, vins => (none, vins)
  | _ + 1, [] => (none, [])
  | polls + 1, vin :: rest => if pred vin then (some vin, rest) else firstIn pred polls rest

/-- Polls a wait has left when it has `leftMs` left. -/
def waitPolls (leftMs : Nat) : Nat := (leftMs + (qc35VinPollMs - 1)) / qc35VinPollMs + 1

/-- The samples after the preparation, which pulses until a sample is in the window. Without a
value it was given up on. -/
def prepped : Nat → Int → List Int → Option (List Int)
  | 0, _, vins => some vins
  | budget + 1, vin, vins =>
      if qc35DetectWindow vin then some vins
      else
        match vins with
        | [] => none
        | next :: rest =>
            if decideQc35AuthAttempt next ≠ .attempt then none else prepped budget next rest

/-- The sample the wait for the detect window returns, and the samples after it. There is none when
the preparation was given up on or the wait timed out. -/
def detected : List Int → Option Int × List Int
  | [] => (none, [])
  | vin :: rest =>
      if decideQc35AuthAttempt vin ≠ .attempt then (none, rest)
      else
        match prepped qc35PrepMaxInc vin rest with
        | none => (none, [])
        | some rest => firstIn qc35DetectWindow (waitPolls qc35DetectTimeoutMs) rest

/-- The sample the wait for the capability window returns. -/
def capability (vins : List Int) : Option Int :=
  match detected vins with
  | (none, _) => none
  | (some _, rest) => (firstIn qc35CapWindow (waitPolls qc35CapTimeoutMs) rest).1

/-- In the window there is nothing to prepare. -/
theorem prepped_inside {budget : Nat} {vin : Int} {vins : List Int}
    (h : qc35DetectWindow vin = true) : prepped budget vin vins = some vins := by
  cases budget with
  | zero => rfl
  | succ budget => cases vins <;> exact if_pos h

/-- Outside it, the sample after the pulse decides. -/
theorem prepped_outside {budget : Nat} {vin next : Int} {rest : List Int}
    (h : ¬qc35DetectWindow vin = true) : prepped (budget + 1) vin (next :: rest) =
      if decideQc35AuthAttempt next ≠ .attempt then none else prepped budget next rest :=
  if_neg h

/-- What a wait returns is in its window. -/
theorem pred_of_firstIn {pred : Int → Bool} {polls : Nat} {vins rest : List Int} {vin : Int}
    (h : firstIn pred polls vins = (some vin, rest)) : pred vin = true := by
  induction polls generalizing vins with
  | zero => cases h
  | succ polls ih =>
      cases vins with
      | nil => cases h
      | cons next later =>
          rw [firstIn] at h
          -- the wait ends on the first sample that satisfies it
          by_cases hwindow : pred next = true
          · rw [if_pos hwindow] at h
            cases h
            exact hwindow
          · rw [if_neg hwindow] at h
            exact ih h

/-- A detected sample lies in the detection window. -/
theorem window_of_detected {vins rest : List Int} {det : Int}
    (h : detected vins = (some det, rest)) : qc35DetectWindow det = true := by
  cases vins with
  | nil => cases h
  | cons vin later =>
      rw [detected] at h
      -- the attempt is skipped, or ends in a wait for the window
      by_cases hskip : decideQc35AuthAttempt vin ≠ .attempt
      · rw [if_pos hskip] at h
        cases h
      · rw [if_neg hskip] at h
        cases hprep : prepped qc35PrepMaxInc vin later with
        | none =>
            rw [hprep] at h
            cases h
        | some left =>
            rw [hprep] at h
            exact pred_of_firstIn h

/-- After a detection the capability is the first later sample inside its window. -/
theorem capability_of_detected {vins rest : List Int} {det : Int}
    (h : detected vins = (some det, rest)) :
    capability vins = (firstIn qc35CapWindow (waitPolls qc35CapTimeoutMs) rest).1 := by
  rw [capability, h]

/-- One poll less is left after each wait. -/
theorem waitPolls_step {timeoutMs waited : Nat} (h : waited < timeoutMs) :
    waitPolls (timeoutMs - waited) = waitPolls (timeoutMs - (waited + qc35VinPollMs)) + 1 := by
  simp only [waitPolls, qc35VinPollMs]
  omega

/-! ### The programs -/

section
variable {s s' : HvdcpState} {t : List (Event HvdcpEffect)}

/-- A wait takes its samples off the stream as `firstIn` does. -/
theorem waitVinWindow_firstIn {ε : Type} {timeoutMs : Nat} {pred : Int → Bool}
    (htimeout : timeoutMs ≤ 1000) (fuel : Nat) : ∀ {waited : Nat}
    {t : List (Event HvdcpEffect)} {r : Except ε (Option Int)},
    (waitVinWindow timeoutMs pred fuel waited).Yields s t r s' →
    ∃ seen, r = .ok seen ∧ ∀ later,
      firstIn pred (waitPolls (timeoutMs - waited)) (vinReads t ++ later) = (seen, later) := by
  -- induction on the fuel: each poll samples once, and the window or the time ends the loop
  induction fuel with
  | zero => exact fun h => nomatch h
  | succ fuel ih =>
      intro waited t r h
      obtain ⟨vin, rest, rfl, hrest⟩ := readVin_bind_cases h
      by_cases hwindow : pred vin = true
      · rw [if_pos hwindow] at hrest
        obtain ⟨rfl, hok, -⟩ := hrest.pure_cases
        refine ⟨some vin, hok, fun later => ?_⟩
        show (if pred vin then (some vin, later) else _) = _
        rw [if_pos hwindow]
      rw [if_neg hwindow] at hrest
      by_cases hlate : timeoutMs ≤ waited
      · rw [if_pos hlate] at hrest
        obtain ⟨rfl, hok, -⟩ := hrest.pure_cases
        refine ⟨none, hok, fun later => ?_⟩
        rw [Nat.sub_eq_zero_of_le hlate]
        show (if pred vin then (some vin, later) else (none, later)) = _
        rw [if_neg hwindow]
      · rw [if_neg hlate] at hrest
        have hearly := Nat.lt_of_not_le hlate
        -- far below the largest word, so the clock of the loop does not saturate
        have hpause : satAdd 32 waited qc35VinPollMs = waited + qc35VinPollMs := by
          simp only [satAdd, wordMax, qc35VinPollMs]
          omega
        obtain ⟨rest, rfl, hloop⟩ := sleepMs_bind_cases hrest
        rw [hpause] at hloop
        obtain ⟨seen, hok, hseen⟩ := ih hloop
        refine ⟨seen, hok, fun later => ?_⟩
        rw [waitPolls_step hearly]
        show (if pred vin then _ else firstIn pred _ (vinReads rest ++ later)) = _
        rw [if_neg hwindow, hseen later]

/-- The preparation takes its samples off the stream as `prepped` does. -/
theorem prepPulses_prepped {bus : Bus} (budget : Nat) : ∀ {vin : Int} {s : HvdcpState}
    {t : List (Event HvdcpEffect)} {r : Except Unit Unit},
    (prepPulses bus budget vin).Yields s t r s' → WorkingBus t → ∀ later,
      prepped budget vin (vinReads t ++ later) = r.toOption.map fun _ => later := by
  -- induction on the budget of pulses: stop inside the window, or pulse and sample again
  induction budget with
  | zero =>
      intro vin s t r h _ later
      obtain ⟨rfl, rfl, -⟩ := h.pure_cases
      rfl
  | succ budget ih =>
      intro vin s t r h hbus later
      rw [prepPulses] at h
      by_cases hwindow : qc35DetectWindow vin = true
      · rw [if_pos hwindow] at h
        obtain ⟨rfl, rfl, -⟩ := h.pure_cases
        exact prepped_inside hwindow
      rw [if_neg hwindow] at h
      obtain ⟨t₁, t₂, _, s₁, rfl, hpulse, hrest⟩ | ⟨e, -, hfail⟩ := h.bind_cases
      · obtain ⟨hfirst, hbus⟩ := workingBus_append.1 hbus
        obtain ⟨next, rest, rfl, hnext⟩ := readVin_bind_cases hrest
        rw [vinReads_append, (pulseAuthStep_ok hpulse hfirst).2]
        show prepped (budget + 1) vin (next :: (vinReads rest ++ later)) = _
        rw [prepped_outside hwindow]
        by_cases hskip : decideQc35AuthAttempt next ≠ .attempt
        · rw [if_pos hskip] at hnext ⊢
          obtain ⟨rfl, rfl, -⟩ := hnext.fail_cases
          rfl
        · rw [if_neg hskip] at hnext ⊢
          exact ih hnext hbus.tail later
      · cases (pulseAuthStep_ok hfail hbus).1

/-- So does the whole way to the detect window. -/
theorem prepQc35DetectWindow_detected {bus : Bus} {r : Except Unit Int}
    (h : (prepQc35DetectWindow bus).Yields s t r s') (hbus : WorkingBus t) :
    ∃ vin rest, vinReads t = vin :: rest ∧ ∀ later,
      (∀ seen, r = .ok seen → decideQc35AuthAttempt vin = .attempt ∧
        detected (vinReads t ++ later) = (some seen, later)) ∧
      (r = .error () → (detected (vinReads t ++ later)).1 = none) := by
  obtain ⟨vin, rest, rfl, hrest⟩ := readVin_bind_cases h
  refine ⟨vin, vinReads rest, rfl, fun later => ?_⟩
  have hcons : vinReads (⟨.readVin, vin⟩ :: rest) ++ later = vin :: (vinReads rest ++ later) := rfl
  rw [hcons, detected]
  -- the first sample decides whether there is an attempt at all
  by_cases hskip : decideQc35AuthAttempt vin ≠ .attempt
  · rw [if_pos hskip] at hrest ⊢
    obtain ⟨-, rfl, -⟩ := hrest.fail_cases
    exact ⟨fun _ hok => (by cases hok), fun _ => rfl⟩
  rw [if_neg hskip] at hrest ⊢
  have hattempt : decideQc35AuthAttempt vin = .attempt := not_not.1 hskip
  obtain ⟨t₁, t₂, _, s₁, rfl, hprep, hwait⟩ | ⟨e, rfl, hprep⟩ := hrest.bind_cases
  · obtain ⟨hworks, -⟩ := workingBus_append.1 hbus.tail
    have hprepped := prepPulses_prepped qc35PrepMaxInc hprep hworks (vinReads t₂ ++ later)
    rw [vinReads_append, List.append_assoc, hprepped]
    obtain ⟨t₃, t₄, seen, s₂, rfl, hseen, hanswer⟩ | ⟨e, -, hfail⟩ := hwait.bind_cases
    · obtain ⟨_, hok, hfirst⟩ := waitVinWindow_firstIn (by decide) _ hseen
      cases hok
      -- the wait for the window found a sample, or ran out of polls
      cases seen with
      | some v =>
          obtain ⟨rfl, rfl, -⟩ := hanswer.pure_cases
          rw [List.append_nil]
          refine ⟨fun seen hok => ⟨hattempt, ?_⟩, fun hfail => (by cases hfail)⟩
          cases hok
          exact hfirst later
      | none =>
          obtain ⟨rfl, rfl, -⟩ := hanswer.fail_cases
          rw [List.append_nil]
          refine ⟨fun _ hok => (by cases hok), fun _ => ?_⟩
          exact congrArg Prod.fst (hfirst later)
    · obtain ⟨_, hok, -⟩ := waitVinWindow_firstIn (by decide) _ hfail
      cases hok
  · rw [prepPulses_prepped qc35PrepMaxInc hprep hbus.tail later]
    exact ⟨fun _ hok => (by cases hok), fun _ => rfl⟩

/-- The outcome when both waits returned a sample. -/
theorem outcome_of_samples {vin det cap : Int} (hattempt : decideQc35AuthAttempt vin = .attempt)
    (hdet : qc35DetectWindow det = true) (hcap : qc35CapWindow cap = true) (powerW : Nat) :
    qc35AuthenticateOutcome vin (some det) (some cap) = .authenticated powerW ↔
      qc35PowerLimitW cap = some powerW := by
  simp only [qc35AuthenticateOutcome, hattempt, hdet, hcap]
  cases qc35PowerLimitW cap with
  | none => simp
  | some power => simp

/-- Without a sample from a wait there is no authentication. -/
theorem outcome_of_none (vin : Int) (cap : Option Int) (powerW : Nat) :
    qc35AuthenticateOutcome vin none cap ≠ .authenticated powerW := by
  rw [qc35AuthenticateOutcome]
  cases decideQc35AuthAttempt vin with
  | attempt => exact fun h => (by cases h)
  | skipVinTooHigh => exact fun h => (by cases h)
  | skipVinInvalid => exact fun h => (by cases h)

/-- Without a capability sample the outcome is no authentication. -/
theorem outcome_of_timeout (vin : Int) (det : Option Int) (powerW : Nat) :
    qc35AuthenticateOutcome vin det none ≠ .authenticated powerW := by
  cases det with
  | none => exact outcome_of_none vin none powerW
  | some det =>
      rw [qc35AuthenticateOutcome]
      cases decideQc35AuthAttempt vin with
      | attempt => cases hdet : qc35DetectWindow det <;> simp
      | skipVinTooHigh => exact fun h => (by cases h)
      | skipVinInvalid => exact fun h => (by cases h)

/-- The last part: confirms the class of the source, if it has one. -/
def confirmClass (bus : Bus) : Option Nat → AuthM Nat
  | none => Proc.fail ()
  | some powerW => do
      pulseTrain bus qc35ConfirmPulses
      Proc.discard (ensureIclAtLeast bus (qc35IclRaw powerW))
      pure powerW

/-- What follows the preparation. -/
def requestCapability (bus : Bus) : AuthM Nat := do
  pulseTrain bus qc35SrcCapPulses
  let seen ← waitVinWindow qc35CapTimeoutMs qc35CapWindow (vinPolls qc35CapTimeoutMs) 0
  match seen with
  | none =>
      let _ ← readVin
      Proc.fail ()
  | some capVin => confirmClass bus (qc35PowerLimitW capVin)

/-- The attempt is its three stages in order. -/
theorem attemptQc35Authenticate_eq (bus : Bus) : attemptQc35Authenticate bus =
    Proc.discard (ensureIclFloor500ma bus) >>= fun _ =>
      prepQc35DetectWindow bus >>= fun _ => requestCapability bus :=
  rfl

/-- On a working bus the confirmation succeeds with the class it was given, and with no other. -/
theorem confirmClass_ok {bus : Bus} {class? : Option Nat} {r : Except Unit Nat}
    (h : (confirmClass bus class?).Yields s t r s') (hbus : WorkingBus t) (powerW : Nat) :
    r = .ok powerW ↔ class? = some powerW := by
  cases class? with
  | none =>
      obtain ⟨-, rfl, -⟩ := h.fail_cases
      simp
  | some power =>
      obtain ⟨t₁, t₂, _, s₁, rfl, -, hrest⟩ | ⟨e, -, hfail⟩ := h.bind_cases
      · obtain ⟨t₃, t₄, _, s₂, rfl, -, hpure⟩ | ⟨e, -, hvote⟩ := hrest.bind_cases
        · obtain ⟨-, rfl, -⟩ := hpure.pure_cases
          simp
        · obtain ⟨hok, -⟩ := hvote.discard_cases
          cases hok
      · -- on a working bus the confirming pulses do not fail
        cases (pulseTrain_ok hfail hbus).1

/-- After the preparation it is the class of the sample that the second wait returns. -/
theorem requestCapability_ok {bus : Bus} {r : Except Unit Nat}
    (h : (requestCapability bus).Yields s t r s') (hbus : WorkingBus t) (powerW : Nat) :
    r = .ok powerW ↔
      ∃ cap, (firstIn qc35CapWindow (waitPolls qc35CapTimeoutMs) (vinReads t)).1 = some cap ∧
        qc35PowerLimitW cap = some powerW := by
  obtain ⟨t₁, t₂, _, s₁, rfl, htrain, hrest⟩ | ⟨e, -, hfail⟩ := h.bind_cases
  · obtain ⟨hfirst, hlater⟩ := workingBus_append.1 hbus
    rw [vinReads_append, (pulseTrain_ok htrain hfirst).2, List.nil_append]
    obtain ⟨t₃, t₄, seen, s₂, rfl, hwait, hanswer⟩ | ⟨e, -, hfail⟩ := hrest.bind_cases
    · obtain ⟨_, hok, hseen⟩ := waitVinWindow_firstIn (by decide) _ hwait
      cases hok
      have hseen := hseen (vinReads t₄)
      rw [Nat.sub_zero] at hseen
      rw [vinReads_append, hseen]
      -- without an answer the adapter is checked once more, and the attempt fails
      cases seen with
      | none =>
          obtain ⟨_, _, -, hmiss⟩ := readVin_bind_cases hanswer
          obtain ⟨-, rfl, -⟩ := hmiss.fail_cases
          simp
      | some cap =>
          rw [confirmClass_ok hanswer (workingBus_append.1 hlater).2]
          simp
    · obtain ⟨_, hok, -⟩ := waitVinWindow_firstIn (by decide) _ hfail
      cases hok
  · cases (pulseTrain_ok hfail hbus).1

/-! #### They return -/

/-- A pulse of the authentication returns. -/
theorem pulseAuthStep_returns (bus : Bus) (pulse : Qc35AuthPulse) :
    Proc.Returns (pulseAuthStep bus pulse) := by
  refine .bind (.attempt ?_) fun result => ?_
  · cases pulse with
    | inc => exact returns_pulseIncGap bus _
    | dec => exact returns_pulseDecGap bus _
  · cases result with
    | ok _ => exact .pure ()
    | error _ => exact .fail ()

/-- The pulse train returns, by induction on the pulses. -/
theorem pulseTrain_returns (bus : Bus) (pulses : List Qc35AuthPulse) :
    Proc.Returns (pulseTrain bus pulses) := by
  induction pulses with
  | nil => exact .pure ()
  | cons pulse rest ih => exact .bind (pulseAuthStep_returns bus pulse) fun _ => ih

/-- The polls of a wait are enough. -/
theorem waitVinWindow_returns {ε : Type} {timeoutMs : Nat} (pred : Int → Bool)
    (htimeout : timeoutMs ≤ 1000) (fuel : Nat) : ∀ {waited : Nat},
    waitPolls (timeoutMs - waited) ≤ fuel →
    Proc.Returns (waitVinWindow (ε := ε) timeoutMs pred fuel waited) := by
  -- each poll uses up a pause of the timeout, so the fuel outlasts it
  induction fuel with
  | zero =>
      exact fun hfuel => absurd hfuel (Nat.not_succ_le_zero _)
  | succ fuel ih =>
      intro waited hfuel
      refine .bind (.perform _) fun vin => .ite (.pure _) ?_
      by_cases hlate : timeoutMs ≤ waited
      · rw [if_pos hlate]
        exact .pure _
      · rw [if_neg hlate]
        have hearly := Nat.lt_of_not_le hlate
        have hpause : satAdd 32 waited qc35VinPollMs = waited + qc35VinPollMs := by
          simp only [satAdd, wordMax, qc35VinPollMs]
          omega
        refine .bind (.perform _) fun _ => ih ?_
        rw [hpause]
        rw [waitPolls_step hearly] at hfuel
        omega

/-- The preparation returns, by induction on its budget of pulses. -/
theorem prepPulses_returns (bus : Bus) (budget : Nat) :
    ∀ vin, Proc.Returns (prepPulses bus budget vin) := by
  induction budget with
  | zero => exact fun _ => .pure ()
  | succ budget ih =>
      intro vin
      refine .ite (.pure ()) (.bind (pulseAuthStep_returns bus _) fun _ => ?_)
      exact .bind (.perform _) fun next => .ite (.fail ()) (ih next)

/-- The whole attempt returns, stage by stage. -/
theorem attemptQc35Authenticate_returns (bus : Bus) :
    Proc.Returns (attemptQc35Authenticate bus) := by
  refine .bind (.discard (returns_closed.ensureIclFloor500ma bus)) fun _ => ?_
  refine .bind ?_ fun _ => .bind (pulseTrain_returns bus _) fun _ => ?_
  · refine .bind (.perform _) fun vin => .ite (.fail ()) ?_
    refine .bind (prepPulses_returns bus _ vin) fun _ => ?_
    refine .bind (waitVinWindow_returns _ (by decide) _ (by decide)) fun seen => ?_
    cases seen with
    | none => exact .fail ()
    | some vin => exact .pure vin
  · refine .bind (waitVinWindow_returns _ (by decide) _ (by decide)) fun seen => ?_
    -- the capability may be missing or name no class; each way returns
    cases seen with
    | none => exact .bind (.perform _) fun _ => .fail ()
    | some capVin =>
        cases hclass : qc35PowerLimitW capVin with
        | none =>
            simp only [hclass]
            exact .fail ()
        | some powerW =>
            simp only [hclass]
            refine .bind (pulseTrain_returns bus _) fun _ => ?_
            exact .bind (.discard (returns_closed.ensureIclAtLeast bus _)) fun _ => .pure powerW

/-- The sequence returns on every stream of samples. Whatever the latch, on a bus that does not
fail it authenticates exactly the sources the policy does, by the first sample and those that its
two waits return. -/
theorem authenticate_iff_outcome (bus : Bus) : Proc.Returns (attemptQc35Authenticate bus) ∧
    ∀ {s s' : HvdcpState} {t : List (Event HvdcpEffect)} {r : Except Unit Nat},
      (attemptQc35Authenticate bus).Yields s t r s' → WorkingBus t →
      ∃ vin rest, vinReads t = vin :: rest ∧ ∀ powerW,
        r = .ok powerW ↔
          qc35AuthenticateOutcome vin (detected (vinReads t)).1 (capability (vinReads t)) =
            .authenticated powerW := by
  refine ⟨attemptQc35Authenticate_returns bus, fun h hbus => ?_⟩
  rw [attemptQc35Authenticate_eq] at h
  obtain ⟨t₁, t₂, _, s₁, rfl, hfloor, hrest⟩ | ⟨e, -, hfloor⟩ := h.bind_cases
  · obtain ⟨-, hbus⟩ := workingBus_append.1 hbus
    obtain ⟨-, out, hout⟩ := hfloor.discard_cases
    -- raising the current floor samples nothing, so the attempt starts at the first sample
    have hquiet : vinReads t₁ = [] := silent_closed.ensureIclFloor500ma bus _ _ _ _ hout
    rw [vinReads_append, hquiet, List.nil_append]
    obtain ⟨t₃, t₄, det, s₂, rfl, hprep, hrequest⟩ | ⟨e, rfl, hprep⟩ := hrest.bind_cases
    · obtain ⟨hworks, hlater⟩ := workingBus_append.1 hbus
      obtain ⟨vin, rest, hreads, hdetected⟩ := prepQc35DetectWindow_detected hprep hworks
      obtain ⟨hattempt, hseen⟩ := (hdetected (vinReads t₄)).1 det rfl
      refine ⟨vin, rest ++ vinReads t₄, ?_, fun powerW => ?_⟩
      · rw [vinReads_append, hreads]
        rfl
      · rw [requestCapability_ok hrequest hlater, vinReads_append,
          capability_of_detected hseen, hseen]
        have hdet := window_of_detected hseen
        -- the outcome of the policy on the samples, with and without a capability
        cases hcap : firstIn qc35CapWindow (waitPolls qc35CapTimeoutMs) (vinReads t₄) with
        | mk found left =>
            cases found with
            | none =>
                refine iff_of_false (fun hfound => ?_) (outcome_of_timeout vin (some det) powerW)
                obtain ⟨cap, hnone, -⟩ := hfound
                cases hnone
            | some cap =>
                have hwindow := pred_of_firstIn hcap
                refine Iff.trans ?_ (outcome_of_samples hattempt hdet hwindow powerW).symm
                simp
    · obtain ⟨vin, rest, hreads, hdetected⟩ := prepQc35DetectWindow_detected hprep hbus
      -- no detection: the attempt fails, and the policy authenticates nothing
      have hnone := (hdetected []).2 rfl
      rw [List.append_nil] at hnone
      refine ⟨vin, rest, hreads, fun powerW => iff_of_false (fun hok => (by cases hok)) ?_⟩
      rw [hnone]
      exact outcome_of_none vin _ powerW
  · obtain ⟨hok, -⟩ := hfloor.discard_cases
    cases hok

end

/-- A bus that does not fail, and a source whose samples are listed. -/
def sampledAnswer (vins : List Int) : (o : HvdcpOp) → HvdcpEffect.Resp o × List Int
  | .spmi (.sleep _) => ((), vins)
  | .spmi .superuserOpen => (true, vins)
  | .spmi (.superuserGrant _) => (true, vins)
  | .spmi (.superuserRead _) => (some (0 : Byte), vins)
  | .spmi (.superuserWrite _ _) => (true, vins)
  | .spmi (.usbinOpen _) => (true, vins)
  | .spmi (.usbinTransact _ _ _) => (some (0 : Byte), vins)
  | .readVin => (vins.headD (0 : Int), vins.tail)

/-- A source that starts below the detect window and ends in the class of 27 W. -/
def risingSamples : List Int := [5200000, 5450000, 5700000, 5800000, 6500000, 7700000]

/-- The run of the sequence on this source. -/
def risingRun :
    List (Event HvdcpEffect) × List Int × Option (Except Unit Nat × HvdcpState) :=
  (attemptQc35Authenticate .superuser HvdcpState.new).runWith sampledAnswer risingSamples

/-- Two pulses bring the source into the detect window. The first wait returns its next sample, the
second one is over at the last, and the source is confirmed for 27 W. So says the policy. -/
theorem authenticate_iff_outcome_rising :
    ∃ s', (attemptQc35Authenticate .superuser).Yields HvdcpState.new risingRun.1 (.ok 27) s' ∧
      WorkingBus risingRun.1 ∧ vinReads risingRun.1 = risingSamples ∧
        qc35AuthenticateOutcome 5200000 (some 5800000) (some 7700000) = .authenticated 27 := by
  have hbus : WorkingBus risingRun.1 := by decide +kernel
  have hreads : vinReads risingRun.1 = risingSamples := by decide +kernel
  have hresult : (risingRun.2.2.bind fun out => out.1.toOption) = some 27 := by decide +kernel
  -- the run returns 27 W, which the equivalence carries over to the policy
  obtain ⟨⟨r, s'⟩, hout, hr⟩ := Option.bind_eq_some_iff.1 hresult
  obtain rfl : r = .ok 27 := by
    cases r with
    | ok powerW => exact congrArg Except.ok (Option.some.inj hr)
    | error e => cases hr
  have hyields : (attemptQc35Authenticate .superuser).Yields HvdcpState.new risingRun.1 (.ok 27)
      s' := Prog.yields_runWith _ _ _ _ hout
  obtain ⟨vin, rest, hfirst, hiff⟩ := (authenticate_iff_outcome .superuser).2 hyields hbus
  have hpolicy := (hiff 27).1 rfl
  rw [hreads] at hfirst hpolicy
  obtain ⟨rfl, -⟩ := List.cons.inj hfirst
  have hdetected : (detected risingSamples).1 = some 5800000 := by decide +kernel
  have hcapability : capability risingSamples = some 7700000 := by decide +kernel
  rw [hdetected, hcapability] at hpolicy
  exact ⟨s', hyields, hbus, hreads, hpolicy⟩

end Kmdf
