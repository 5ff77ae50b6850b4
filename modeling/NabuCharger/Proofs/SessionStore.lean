import NabuCharger.Kmdf.Samples
import NabuCharger.Logic.Ring

/-!
# `Proofs.SessionStore`: the telemetry store and its history

The store of `session.rs` works on one sample at a time: two rings, a session that is open or
not, and peaks that grow. What it holds is stated here over the whole history `l` of the pushed
samples (`Describes`), and one push keeps it (`Describes.push`). The sessions are the runs of
`Logic.Ring` for the predicate `inputPresent`: the open one at the end, and the closed ones,
each with the sample without power that closed it. `session_store_spec` reads the accessors off.

The second result is about `GET_SAMPLES`. Its contract promises the latest samples. The handler
stops writing at its limit while it visits the samples in arrival order, so a client that asks
for fewer samples than there are gets the oldest ones (`not_samples_latest`).
-/

set_option autoImplicit false

namespace Ln8000

open Effectful

/-! ### The sessions of a history -/

/-- The session a run of samples amounts to. -/
def ChargeSession.ofRun (run : List TelemetrySample) : ChargeSession where
  startedMs := (run.head?.map TelemetrySample.tsMs).getD 0
  endedMs := none
  samples := run.length
  peakIinUa := (run.map TelemetrySample.iinUa).foldl max 0
  peakDieTempDc := (run.map TelemetrySample.dieTempDc).foldl max (-2147483648)
  sawSwitching := run.any fun sample => decide (sample.opMode = .switching)
  sawBypass := run.any fun sample => decide (sample.opMode = .bypass)

/-- The session of a run that `closer` ended. -/
def ChargeSession.ofClosed (closed : List TelemetrySample × TelemetrySample) : ChargeSession :=
  { ChargeSession.ofRun closed.1 with endedMs := some closed.2.tsMs }

/-- The session that is open after the history `l`. -/
def openSession (l : List TelemetrySample) : Option ChargeSession :=
  if openRun TelemetrySample.inputPresent l = [] then none
  else some (.ofRun (openRun TelemetrySample.inputPresent l))

/-- The sessions that were completed in the history `l`. -/
def completedSessions (l : List TelemetrySample) : List ChargeSession :=
  (closedRuns TelemetrySample.inputPresent l).map .ofClosed

/-- One more sample of a run extends its session. -/
theorem ofRun_concat (run : List TelemetrySample) (sample : TelemetrySample) (hne : run ≠ [])
    (hlen : run.length < 2 ^ 32 - 1) :
    ChargeSession.ofRun (run ++ [sample]) = (ChargeSession.ofRun run).extend sample := by
  have hsamples : satAdd 32 run.length 1 = run.length + 1 := by
    simp only [satAdd, wordMax]
    omega
  have hhead : (run ++ [sample]).head? = run.head? := by
    cases run with
    | nil => exact absurd rfl hne
    | cons first rest => rfl
  simp [ChargeSession.ofRun, ChargeSession.extend, hsamples, hhead, List.foldl_append]

/-- The first sample of a run opens its session. -/
theorem ofRun_singleton (sample : TelemetrySample) :
    ChargeSession.ofRun [sample] = (ChargeSession.new sample.tsMs).extend sample := by
  simp [ChargeSession.ofRun, ChargeSession.extend, ChargeSession.new, satAdd, wordMax]

namespace Telemetry

/-- The store is what the history `l` leaves behind. -/
structure Describes (store : Telemetry) (l : List TelemetrySample) : Prop where
  samples : Window sampleRing store.samples store.sampleNext l
  sessions : Window sessionHistory store.sessions store.sessionNext (completedSessions l)
  sessionTotal : store.sessionTotal = (runs TelemetrySample.inputPresent l).length
  current : store.current = openSession l

/-- An empty store describes the empty history. -/
theorem describes_new : Telemetry.new.Describes [] where
  samples := Window.empty sampleRing
  sessions := Window.empty sessionHistory
  sessionTotal := rfl
  current := rfl

section
variable {store : Telemetry} {l : List TelemetrySample} {sample : TelemetrySample}

/-- What a push records, apart from the session. -/
theorem Describes.record_samples (h : store.Describes l) :
    Window sampleRing (store.record sample).samples (store.record sample).sampleNext
      (l ++ [sample]) :=
  h.samples.put (by decide) sample

/-- A sample with power: the open session goes on, or one more begins. -/
theorem Describes.push_present (h : store.Describes l) (hlen : l.length < 2 ^ 32 - 1)
    (hsample : sample.inputPresent = true) : (store.push sample).Describes (l ++ [sample]) := by
  have hopen : openRun TelemetrySample.inputPresent (l ++ [sample]) =
      openRun TelemetrySample.inputPresent l ++ [sample] := openRun_concat_pos hsample
  have hclosed : closedRuns TelemetrySample.inputPresent (l ++ [sample]) =
      closedRuns TelemetrySample.inputPresent l := by
    rw [closedRuns_concat, closes, if_neg (by simp [hsample])]
    simp
  have hsessions : completedSessions (l ++ [sample]) = completedSessions l := by
    rw [completedSessions, hclosed, completedSessions]
  have hcurrent := h.current
  rw [openSession] at hcurrent
  by_cases hnil : openRun TelemetrySample.inputPresent l = []
  · -- no session is open: this sample begins one
    rw [if_pos hnil] at hcurrent
    have hpush : store.push sample =
        { store.record sample with
          sessionTotal := satAdd 64 store.sessionTotal 1
          current := some ((ChargeSession.new sample.tsMs).extend sample) } := by
      rw [push, if_pos hsample]
      simp only [show (store.record sample).current = none from hcurrent]
      rfl
    rw [hpush]
    refine ⟨h.record_samples, ?_, ?_, ?_⟩
    · rw [hsessions]
      exact h.sessions
    · show satAdd 64 store.sessionTotal 1 = _
      have hle := length_closedRuns_le TelemetrySample.inputPresent l
      rw [h.sessionTotal, length_runs, length_runs, hclosed, hopen, if_pos hnil,
        if_neg (by simp)]
      simp only [satAdd, wordMax]
      omega
    · show some _ = openSession _
      rw [openSession, hopen, hnil, if_neg (by simp), List.nil_append, ofRun_singleton]
  · -- the open session is extended
    rw [if_neg hnil] at hcurrent
    have hpush : store.push sample =
        { store.record sample with
          current :=
            some ((ChargeSession.ofRun (openRun TelemetrySample.inputPresent l)).extend
              sample) } := by
      rw [push, if_pos hsample]
      simp only [show (store.record sample).current = some _ from hcurrent]
    have hrun : (openRun TelemetrySample.inputPresent l).length ≤ l.length :=
      List.rtakeWhile_suffix _ l |>.length_le
    rw [hpush]
    refine ⟨h.record_samples, ?_, ?_, ?_⟩
    · rw [hsessions]
      exact h.sessions
    · show store.sessionTotal = _
      rw [h.sessionTotal, length_runs, length_runs, hclosed, hopen, if_neg hnil,
        if_neg (by simp)]
    · show some _ = openSession _
      rw [openSession, hopen, if_neg (by simp), ofRun_concat _ _ hnil (by omega)]

/-- A sample without power: the open session is completed. -/
theorem Describes.push_absent (h : store.Describes l) (hsample : sample.inputPresent = false) :
    (store.push sample).Describes (l ++ [sample]) := by
  have hopen : openRun TelemetrySample.inputPresent (l ++ [sample]) = [] :=
    openRun_concat_neg hsample
  have hruns : runs TelemetrySample.inputPresent (l ++ [sample]) =
      runs TelemetrySample.inputPresent l := runs_concat_neg hsample
  have hcurrent := h.current
  rw [openSession] at hcurrent
  -- no session was open, or the one that was ends here
  by_cases hnil : openRun TelemetrySample.inputPresent l = []
  · rw [if_pos hnil] at hcurrent
    have hpush : store.push sample = store.record sample := by
      rw [push, if_neg (by simp [hsample])]
      simp only [show (store.record sample).current = none from hcurrent]
    rw [hpush]
    refine ⟨h.record_samples, ?_, ?_, ?_⟩
    · rw [completedSessions, closedRuns_concat, closes, if_neg (by simp [hnil]),
        Option.toList_none, List.append_nil]
      exact h.sessions
    · rw [hruns]
      exact h.sessionTotal
    · rw [openSession, hopen, if_pos rfl]
      exact hcurrent
  · rw [if_neg hnil] at hcurrent
    have hpush : store.push sample =
        { store.record sample with current := none }.storeSession
          (.ofClosed (openRun TelemetrySample.inputPresent l, sample)) := by
      rw [push, if_neg (by simp [hsample])]
      simp only [show (store.record sample).current = some _ from hcurrent]
      rfl
    rw [hpush]
    refine ⟨h.record_samples, ?_, ?_, ?_⟩
    · have hone : completedSessions (l ++ [sample]) = completedSessions l ++
          [.ofClosed (openRun TelemetrySample.inputPresent l, sample)] := by
        rw [completedSessions, closedRuns_concat, closes, if_pos ⟨hsample, hnil⟩,
          List.map_append]
        rfl
      rw [hone]
      exact h.sessions.put (by decide) _
    · rw [hruns]
      exact h.sessionTotal
    · rw [openSession, hopen, if_pos rfl]
      rfl

/-- One push keeps the description. -/
theorem Describes.push (h : store.Describes l) (hlen : l.length < 2 ^ 32 - 1)
    (sample : TelemetrySample) : (store.push sample).Describes (l ++ [sample]) := by
  cases hsample : sample.inputPresent with
  | true => exact h.push_present hlen hsample
  | false => exact h.push_absent hsample

end

/-- The store after the samples `l`. -/
def ofHistory (l : List TelemetrySample) : Telemetry := l.foldl push new

/-- The ring of the samples is what the history leaves behind, however long it is. -/
theorem window_ofHistory (l : List TelemetrySample) :
    Window sampleRing (ofHistory l).samples (ofHistory l).sampleNext l := by
  induction l using List.reverseRecOn with
  | nil => exact Window.empty sampleRing
  | append_singleton l sample ih =>
      rw [ofHistory, List.foldl_append]
      show Window sampleRing ((ofHistory l).push sample).samples
        ((ofHistory l).push sample).sampleNext (l ++ [sample])
      rw [push_samples, push_sampleNext]
      exact ih.put (by decide) sample

/-- The store hands out the last samples of its history, oldest first. -/
theorem forEachSample_ofHistory (l : List TelemetrySample) :
    (ofHistory l).forEachSample = l.drop (l.length - sampleRing) :=
  (window_ofHistory l).entries

/-- Fewer than `2 ^ 32` samples: the store is what they leave behind. -/
theorem describes_ofHistory (l : List TelemetrySample) (h : l.length < 2 ^ 32) :
    (ofHistory l).Describes l := by
  induction l using List.reverseRecOn with
  | nil => exact describes_new
  | append_singleton l sample ih =>
      rw [List.length_append, List.length_singleton] at h
      rw [ofHistory, List.foldl_append]
      exact (ih (by omega)).push (by omega) sample

/-- The telemetry of a history, all of it at once: the last samples in arrival order, the last
one, the number of runs, the open session if there is power, and the session completed last. -/
theorem session_store_spec (l : List TelemetrySample) (h : l.length < 2 ^ 32) :
    (ofHistory l).forEachSample = l.drop (l.length - sampleRing) ∧
      (ofHistory l).lastSample = l.getLast? ∧
      (ofHistory l).sessionTotal = (runs TelemetrySample.inputPresent l).length ∧
      (ofHistory l).current = openSession l ∧
      (ofHistory l).lastCompleted = (completedSessions l).getLast? := by
  have hdescribes := describes_ofHistory l h
  refine ⟨forEachSample_ofHistory l, ?_, hdescribes.sessionTotal, hdescribes.current, ?_⟩
  · exact hdescribes.samples.last (by decide)
  · exact hdescribes.sessions.last (by decide)

/-- A session is open exactly after a sample with power. -/
theorem openSession_eq_none_iff (l : List TelemetrySample) :
    openSession l = none ↔ ∀ sample ∈ l.getLast?, sample.inputPresent = false := by
  have hnil : openSession l = none ↔ openRun TelemetrySample.inputPresent l = [] := by
    rw [openSession]
    split <;> simp_all
  rw [hnil, openRun, List.rtakeWhile_eq_nil_iff]
  constructor
  · intro h sample hsample
    obtain ⟨hne, rfl⟩ := List.mem_getLast?_eq_getLast hsample
    simpa using h hne
  · intro h hne
    have hlast := h (l.getLast hne) (List.getLast_mem_getLast? hne)
    simpa using hlast

/-- A plug, a pull in the middle of the transfer, and the next plug. -/
def plugSample (tsMs : Nat) (present : Bool) (iinUa : Nat) (dieTempDc : Int) :
    TelemetrySample where
  tsMs := tsMs
  vbatUv := 4300000
  vbusUv := 9000000
  iinUa := iinUa
  dieTempDc := dieTempDc
  opMode := if present then .switching else .standby
  inputPresent := present
  vbatValid := true
  dieTempValid := true

/-- Two plugs fill two sessions of the store. -/
theorem session_store_spec_two_plugs :
    let l := [plugSample 1000 true 500000 300, plugSample 2000 true 1500000 420,
      plugSample 3000 false 0 400, plugSample 4000 true 100000 350]
    (ofHistory l).forEachSample = l.drop (l.length - sampleRing) ∧
      (ofHistory l).lastSample = l.getLast? ∧
      (ofHistory l).sessionTotal = (runs TelemetrySample.inputPresent l).length ∧
      (ofHistory l).current = openSession l ∧
      (ofHistory l).lastCompleted = (completedSessions l).getLast? :=
  session_store_spec _ (by decide)

/-- The session that the pull completed. -/
example :
    completedSessions
        [plugSample 1000 true 500000 300, plugSample 2000 true 1500000 420,
          plugSample 3000 false 0 400, plugSample 4000 true 100000 350] =
      [{ startedMs := 1000, endedMs := some 3000, samples := 2, peakIinUa := 1500000,
         peakDieTempDc := 420, sawSwitching := true, sawBypass := false }] := by
  decide

end Telemetry

end Ln8000

namespace Kmdf

open Effectful Ln8000

/-! ### The request for the samples -/

/-- The samples behind an answer, none when the request failed. -/
def samplesOf : Except Int SamplesAnswer → List Ln8000Sample
  | .ok answer => answer.samples
  | .error _ => []

/-- What the contract promises: the most recent `min(count, capacity, stored)` samples. -/
def latestSamples (requested : Option Nat) (length : Nat) (stored : List TelemetrySample) :
    List Ln8000Sample :=
  (stored.map toSample).drop
    (stored.length - min (samplesCapacity length) (requested.getD (samplesCapacity length)))

/-- How many of the stored samples a request leaves out. -/
def leftOut (requested : Option Nat) (length stored : Nat) : Nat :=
  stored - min (samplesCapacity length) (requested.getD (samplesCapacity length))

/-- The samples repeat with period `d`. -/
def Repeats (d : Nat) (samples : List Ln8000Sample) : Prop :=
  ∀ i, i + d < samples.length → samples[i]? = samples[i + d]?

/-- The first `k` entries are the last `k` ones exactly if the list repeats with the number of
entries left out. -/
theorem take_eq_drop_iff (samples : List Ln8000Sample) (k : Nat) :
    samples.take k = samples.drop (samples.length - k) ↔ Repeats (samples.length - k) samples := by
  constructor
  · intro h i hi
    have hget := congrArg (·[i]?) h
    simp only [List.getElem?_drop] at hget
    rw [List.getElem?_take_of_lt (by omega), Nat.add_comm] at hget
    exact hget
  · intro h
    apply List.ext_getElem?
    intro i
    rw [List.getElem?_drop, Nat.add_comm]
    -- element by element; past the end both lists have none
    rcases Nat.lt_or_ge (i + (samples.length - k)) samples.length with hlt | hge
    · rw [← h i hlt]
      by_cases hik : i < k
      · rw [List.getElem?_take_of_lt hik]
      · omega
    · rw [List.getElem?_eq_none hge, List.getElem?_eq_none]
      rw [List.length_take]
      omega

/-- The clamp to the size of the ring drops nothing: there are no more samples than that. -/
theorem take_samplesLimit {requested : Option Nat} {length : Nat} {stored : List TelemetrySample}
    (hstored : stored.length ≤ sampleRing) :
    (stored.map toSample).take (samplesLimit requested length) =
      (stored.map toSample).take
        (min (samplesCapacity length) (requested.getD (samplesCapacity length))) := by
  rw [samplesLimit, ← List.take_eq_take_iff.2]
  rw [List.length_map]
  omega

/-- `GET_SAMPLES` returns the latest samples exactly if the stored ones repeat with the number
of samples that the request leaves out. -/
theorem samples_latest_iff (history : List TelemetrySample) (inputLength : Nat)
    (requested : Option Nat) (length : Nat) (hinput : samplesHeaderSize ≤ inputLength) :
    let stored := history.drop (history.length - sampleRing)
    samplesOf (handleGetSamples (Telemetry.ofHistory history) inputLength requested (.ok length)) =
        latestSamples requested length stored ↔
      Repeats (leftOut requested length stored.length) (stored.map toSample) := by
  intro stored
  have hstored : stored.length ≤ sampleRing := by
    rw [List.length_drop]
    omega
  -- the ring holds the latest samples, oldest first
  have hforEach : (Telemetry.ofHistory history).forEachSample = stored :=
    Telemetry.forEachSample_ofHistory history
  rw [handleGetSamples, if_neg (by omega)]
  simp only [samplesOf, hforEach, writeSamples_eq, Nat.sub_zero, List.map_take]
  rw [take_samplesLimit hstored, latestSamples, leftOut, ← List.length_map (f := toSample),
    take_eq_drop_iff]

/-- A request for at least as many samples as there are is answered as promised. -/
theorem repeats_of_leftOut_eq_zero {samples : List Ln8000Sample} : Repeats 0 samples :=
  fun _ _ => rfl

/-- Samples that are all different do not repeat: a request that leaves one out and asks for one
at least is answered with the wrong samples. -/
theorem not_repeats_of_nodup {samples : List Ln8000Sample} {d : Nat} (hnodup : samples.Nodup)
    (hd : 0 < d) (hlt : d < samples.length) : ¬ Repeats d samples := by
  intro h
  have hfirst := h 0 (by omega)
  rw [Nat.zero_add] at hfirst
  exact List.nodup_iff_getElem?_ne_getElem?.1 hnodup 0 d hd hlt hfirst

/-- Two stored samples, both asked for, come back as the latest two. -/
theorem samples_latest_iff_two :
    samplesOf (handleGetSamples
        (Telemetry.ofHistory [Telemetry.plugSample 1000 true 500000 300,
          Telemetry.plugSample 2000 true 1500000 420]) 40 (some 2) (.ok 104)) =
      latestSamples (some 2) 104 [Telemetry.plugSample 1000 true 500000 300,
          Telemetry.plugSample 2000 true 1500000 420] :=
  (samples_latest_iff [Telemetry.plugSample 1000 true 500000 300,
    Telemetry.plugSample 2000 true 1500000 420] 40 (some 2) 104 (by decide)).2
    repeats_of_leftOut_eq_zero

/-- One sample of two: the older one comes back. -/
theorem not_samples_latest :
    samplesOf (handleGetSamples
        (Telemetry.ofHistory [Telemetry.plugSample 1000 true 500000 300,
          Telemetry.plugSample 2000 true 1500000 420]) 40 (some 1) (.ok 104)) ≠
      latestSamples (some 1) 104 [Telemetry.plugSample 1000 true 500000 300,
          Telemetry.plugSample 2000 true 1500000 420] := by
  decide

end Kmdf
