import NabuCharger.Logic.Session
import Mathlib.Logic.Function.Basic

/-!
# `Logic.Threads`: programs that run at the same time

`threads ι F` are the operations of `F`, each with the thread that issues it, and an `Interleaving`
is any order in which the threads can take their steps: at each step one thread makes the next
exchange of its program, and a machine over all threads says which answers their common memory
gives.

The threads here share a state behind a mutex. A `guarded` thread has a part that needs no mutex,
takes the mutex, works on the state with it in hand, and puts it back. `mutex` is the memory:
nobody gets a mutex that somebody has, and a load answers with what was stored last. Its obligations
are the discipline: the held operations, the state and the release are for the owner.

`Interleaving.session` is the reason for the mutex. Whatever the order of the steps is, the
discipline is kept, and the held exchanges are those of a session of the bodies, one after another
in the order in which their threads got the mutex.
-/

set_option autoImplicit false

namespace Effectful

variable {ι σ ε α β : Type} {E F G : Effect}

/-- Operations with the thread that issues them. -/
def threads (ι : Type) (F : Effect) : Effect where
  Op := ι × F.Op
  Resp o := F.Resp o.2

/-- The threads `x` have taken the steps of a log, and this is what is left of each of them. -/
inductive Interleaving [DecidableEq ι] (M : Machine (threads ι F)) (m : M.State)
    (x : ι → Prog F α) : List (Event (threads ι F)) → (ι → Prog F α) → Prop
  | start : Interleaving M m x [] x
  | step {log : List (Event (threads ι F))} {rest : ι → Prog F α} {i : ι} {o : F.Op}
      {k : F.Resp o → Prog F α} {r : F.Resp o} :
      Interleaving M m x log rest → rest i = .op o k → M.allow (M.after m log) (i, o) r →
        Interleaving M m x (log ++ [⟨(i, o), r⟩]) (Function.update rest i (k r))

/-- What one thread did. -/
def ofThread [DecidableEq ι] (i : ι) (log : List (Event (threads ι F))) : List (Event F) :=
  log.filterMap fun e => if e.op.1 = i then some ⟨e.op.2, e.resp⟩ else none

/-- One more exchange. -/
theorem Prog.Steps.concat {p : Prog E α} {t : List (Event E)} {o : E.Op} {k : E.Resp o → Prog E α}
    (h : Prog.Steps p t (.op o k)) (r : E.Resp o) : Prog.Steps p (t ++ [⟨o, r⟩]) (k r) := by
  generalize hq : Prog.op o k = q at h
  induction h with
  | refl p =>
      subst hq
      exact .op (.refl _)
  | op _ ih => exact .op (ih hq)

section
variable [DecidableEq ι] {M N : Machine (threads ι F)} {x rest : ι → Prog F α}
  {log : List (Event (threads ι F))}

/-- The last exchange belongs to one thread. -/
theorem ofThread_concat (i : ι) (log : List (Event (threads ι F))) (e : Event (threads ι F)) :
    ofThread i (log ++ [e]) =
      ofThread i log ++ if e.op.1 = i then [⟨e.op.2, e.resp⟩] else [] := by
  rw [ofThread, List.filterMap_append, ← ofThread]
  split <;> simp [*]

namespace Interleaving

/-- Every thread follows its program. -/
theorem steps {m : M.State} (h : Interleaving M m x log rest) (i : ι) :
    Prog.Steps (x i) (ofThread i log) (rest i) := by
  induction h with
  | start => exact .refl _
  | @step log rest j o k r _ hrest _ ih =>
      rw [ofThread_concat]
      by_cases hji : j = i
      · subst hji
        rw [hrest] at ih
        rw [if_pos rfl, Function.update_self]
        exact ih.concat r
      · rw [if_neg hji, List.append_nil, Function.update_of_ne (Ne.symm hji)]
        exact ih

/-- The memory gave its answers. -/
theorem allowed {m : M.State} (h : Interleaving M m x log rest) : M.Allowed m log := by
  induction h with
  | start => exact trivial
  | step _ _ hallow ih => exact (M.allowed_append).2 ⟨ih, hallow, trivial⟩

/-- One part of a memory of two. -/
theorem left {m : (M.both N).State} (h : Interleaving (M.both N) m x log rest) :
    Interleaving M m.1 x log rest := by
  induction h with
  | start => exact .start
  | step _ hrest hallow ih =>
      rw [Machine.after_both] at hallow
      exact .step ih hrest hallow.1

/-- An interleaving for two monitors is one for the second. -/
theorem right {m : (M.both N).State} (h : Interleaving (M.both N) m x log rest) :
    Interleaving N m.2 x log rest := by
  induction h with
  | start => exact .start
  | step _ hrest hallow ih =>
      rw [Machine.after_both] at hallow
      exact .step ih hrest hallow.2

/-- The threads in a given order, against an environment that finds the answers. -/
def execute {H : Type} (env : (m : M.State) → H → (o : (threads ι F).Op) →
      Option ({ r : (threads ι F).Resp o // M.allow m o r } × H)) :
    M.State → H → (ι → Prog F α) → List ι → Option (List (Event (threads ι F)) × (ι → Prog F α))
  | _, _, rest, [] => some ([], rest)
  | m, h, rest, i :: is =>
      match rest i with
      | .op o k =>
          (env m h (i, o)).bind fun answer =>
            (execute env (M.next m (i, o) answer.1.1) answer.2
                (Function.update rest i (k answer.1.1)) is).map fun out =>
              (⟨(i, o), answer.1.1⟩ :: out.1, out.2)
      | _ => none

/-- What an execution returns is an interleaving. -/
theorem of_execute {H : Type} {env : (m : M.State) → H → (o : (threads ι F).Op) →
      Option ({ r : (threads ι F).Resp o // M.allow m o r } × H)} {m : M.State} (is : List ι) :
    ∀ {log : List (Event (threads ι F))} {rest : ι → Prog F α} {h : H}
      {later : List (Event (threads ι F))} {rest' : ι → Prog F α},
      Interleaving M m x log rest → execute env (M.after m log) h rest is = some (later, rest') →
        Interleaving M m x (log ++ later) rest' := by
  -- induction on the schedule: each index gives one allowed step of its thread
  induction is with
  | nil =>
      intro log rest h later rest' hlog heq
      cases heq
      rw [List.append_nil]
      exact hlog
  | cons i is ih =>
      intro log rest h later rest' hlog heq
      rw [execute] at heq
      cases hrest : rest i with
      | ret a => simp [hrest] at heq
      | diverge => simp [hrest] at heq
      | op o k =>
          simp only [hrest] at heq
          obtain ⟨⟨⟨r, hallow⟩, h'⟩, _, heq⟩ := Option.bind_eq_some_iff.1 heq
          obtain ⟨⟨more, last⟩, hmore, heq⟩ := Option.map_eq_some_iff.1 heq
          cases heq
          have hnext := Interleaving.step hlog hrest hallow
          have hafter : M.after m (log ++ [⟨(i, o), r⟩]) = M.next (M.after m log) (i, o) r := by
            rw [Machine.after_append, Machine.after_cons, Machine.after_nil]
          rw [← hafter] at hmore
          have hall := ih hnext hmore
          rw [List.append_assoc] at hall
          exact hall

end Interleaving

end

/-! ### A state behind a mutex -/

/-- Operations on a mutex and on the state behind it. -/
inductive LockOp (σ : Type)
  /-- The mutex was initialized. -/
  | isReady
  /-- The wait for the mutex is over. -/
  | acquire
  | release
  | load
  | store (s : σ)

/-- What a thread does: operations of `G` at any time, those of `E` with the mutex in hand. -/
inductive ThreadOp (G E : Effect) (σ : Type)
  | free (o : G.Op)
  | held (o : E.Op)
  | lock (o : LockOp σ)

/-- A thread works freely, or under the lock. -/
def ThreadEffect (G E : Effect) (σ : Type) : Effect where
  Op := ThreadOp G E σ
  Resp
    | .free o => G.Resp o
    | .held o => E.Resp o
    | .lock .isReady => Bool
    | .lock .acquire => Unit
    | .lock .release => Unit
    | .lock .load => σ
    | .lock (.store _) => Unit

/-- The mutex and the state behind it. -/
structure Mutex (ι σ : Type) where
  ready : Bool
  owner : Option ι
  value : σ

/-- The memory of the threads, and their discipline. -/
abbrev mutex (ι : Type) (G E : Effect) (σ : Type) : Machine (threads ι (ThreadEffect G E σ)) where
  State := Mutex ι σ
  allow
    | m, (_, .lock .isReady) => fun r => r = m.ready
    | m, (_, .lock .acquire) => fun _ => m.owner = none
    | m, (_, .lock .load) => fun r => r = m.value
    | _, _ => fun _ => True
  require
    | _, (_, .free _) => True
    | _, (_, .lock .isReady) => True
    | m, (i, .lock .acquire) => m.owner ≠ some i
    | m, (i, _) => m.owner = some i
  next
    | m, (i, .lock .acquire) => fun _ => { m with owner := some i }
    | m, (_, .lock .release) => fun _ => { m with owner := none }
    | m, (_, .lock (.store s)) => fun _ => { m with value := s }
    | m, _ => fun _ => m

/-- The exchanges of all threads with the mutex in hand. -/
def heldEvents (log : List (Event (threads ι (ThreadEffect G E σ)))) : List (Event E) :=
  log.filterMap fun
    | ⟨(_, .held o), r⟩ => some ⟨o, r⟩
    | _ => none

/-- The threads that got the mutex, in order. -/
def owners (log : List (Event (threads ι (ThreadEffect G E σ)))) : List ι :=
  log.filterMap fun
    | ⟨(i, .lock .acquire), _⟩ => some i
    | _ => none

/-! ### Threads that use it -/

/-- A program that needs no mutex. -/
def Prog.free : Prog G α → Prog (ThreadEffect G E σ) α
  | .ret a => .ret a
  | .op o k => .op (.free o) fun r => (k r).free
  | .diverge => .diverge

/-- A program that runs with the mutex in hand. -/
def Prog.held : Prog E α → Prog (ThreadEffect G E σ) α
  | .ret a => .ret a
  | .op o k => .op (.held o) fun r => (k r).held
  | .diverge => .diverge

/-- Gives the mutex back, if it was taken. -/
def leave (taken : Bool) : Prog (ThreadEffect G E σ) Unit :=
  if taken then .op (.lock .release) fun _ => .ret () else .ret ()

/-- The state is put back, and then the mutex. -/
def finish (after : Except ε α → Prog G Unit) (taken : Bool) (out : Except ε α × σ) :
    Prog (ThreadEffect G E σ) Unit :=
  .op (.lock (.store out.2)) fun _ => (after out.1).free.bind fun _ => leave taken

/-- Works on the state. -/
def critical (x : Proc E ε σ α) (after : Except ε α → Prog G Unit) (taken : Bool) :
    Prog (ThreadEffect G E σ) Unit :=
  .op (.lock .load) fun s => (x s).held.bind (finish after taken)

/-- Takes the mutex, unless it was never initialized. -/
def enter (x : Proc E ε σ α) (after : Except ε α → Prog G Unit) :
    Prog (ThreadEffect G E σ) Unit :=
  .op (.lock .isReady) fun ready : Bool =>
    if ready then .op (.lock .acquire) fun _ => critical x after true else critical x after false

/-- A thread: what it does first, its work on the state, and what it does with the result before
the mutex is given back. -/
def guarded (before : Prog G β) (body : β → Proc E ε σ α) (after : Except ε α → Prog G Unit) :
    Prog (ThreadEffect G E σ) Unit :=
  before.free.bind fun b => enter (body b) after

/-! ### One after another -/

section
variable {before : Prog G β} {body : β → Proc E ε σ α} {after : Except ε α → Prog G Unit}

/-- Where a thread is that does not have the mutex. -/
inductive Outside (body : β → Proc E ε σ α) (after : Except ε α → Prog G Unit) :
    Prog (ThreadEffect G E σ) Unit → Prop
  | before (p : Prog G β) : Outside body after (p.free.bind fun b => enter (body b) after)
  | waiting (b : β) :
      Outside body after (.op (.lock .acquire) fun _ => critical (body b) after true)
  | done : Outside body after (.ret ())

/-- Where the owner of the mutex is. `s` is the state that the last body before it left, `tail` what
its own body has done, and `next` says which body that is until the state is put back. -/
inductive Inside (body : β → Proc E ε σ α) (after : Except ε α → Prog G Unit) (s : σ) :
    List (Event E) → Option β → Prog (ThreadEffect G E σ) Unit → Prop
  | entered (b : β) : Inside body after s [] (some b) (critical (body b) after true)
  | working {b : β} {t : List (Event E)} {p : Prog E (Except ε α × σ)} :
      Prog.Steps (body b s) t p →
        Inside body after s t (some b) (p.held.bind (finish after true))
  | stored (p : Prog G Unit) : Inside body after s [] none (p.free.bind fun _ => leave true)

end

/-! ### Runs that go on -/

section
variable {x : ι → Proc E ε σ α} {s s' : σ} {run : List (Entry E σ ι)}

/-- A run and one more program. -/
theorem Run.concat {i : ι} {t : List (Event E)} {out : Except ε α × σ} (h : Run x s run s')
    (hlast : Prog.Yields (x i s') t out) : Run x s (run ++ [⟨s', i, t⟩]) out.2 := by
  induction h with
  | done s => exact .step hlast (.done out.2)
  | step hfirst _ ih => exact .step hfirst (ih hlast)

/-- A run and the beginning of one more program. -/
theorem Run.cut {i : ι} {t : List (Event E)} {p : Prog E (Except ε α × σ)} (h : Run x s run s')
    (hlast : Prog.Steps (x i s') t p) : Session x s (run ++ [⟨s', i, t⟩]) := by
  induction h with
  | done s => exact .cut hlast
  | step hfirst _ ih => exact .step hfirst (ih hlast)

/-- A run of bodies is a session of them. -/
theorem Run.session (h : Run x s run s') : Session x s run := by
  induction h with
  | done s => exact .done s
  | step hfirst _ ih => exact .step hfirst ih

end

/-! ### The invariant -/

section
variable [DecidableEq ι] {before : ι → Prog G β} {body : ι → β → Proc E ε σ α}
  {after : ι → Except ε α → Prog G Unit}

/-- The threads `i`, each with its three parts. -/
abbrev guardedThreads (before : ι → Prog G β) (body : ι → β → Proc E ε σ α)
    (after : ι → Except ε α → Prog G Unit) (i : ι) : Prog (ThreadEffect G E σ) Unit :=
  guarded (before i) (body i) (after i)

/-- The bodies, each with what the first part of its thread returned. -/
abbrev bodies (body : ι → β → Proc E ε σ α) (c : ι × β) : Proc E ε σ α := body c.1 c.2

/-- The bodies that are done are a run, one more may be under way, and everybody else is
outside. -/
structure Serial (body : ι → β → Proc E ε σ α) (after : ι → Except ε α → Prog G Unit) (s : σ)
    (log : List (Event (threads ι (ThreadEffect G E σ)))) (m : Mutex ι σ)
    (rest : ι → Prog (ThreadEffect G E σ) Unit) (run : List (Entry E σ (ι × β)))
    (tail : List (Event E)) (next : Option (ι × β)) : Prop where
  ran : Run (bodies body) s run m.value
  ready : m.ready = true
  held : heldEvents log = exchanges run ++ tail
  order : owners log = run.map (fun entry => entry.op.1) ++ next.toList.map Prod.fst
  outside : ∀ i, m.owner ≠ some i → Outside (body i) (after i) (rest i)
  inside : ∀ i, m.owner = some i → ∃ b, next = b.map (Prod.mk i) ∧
    Inside (body i) (after i) m.value tail b (rest i)
  free : m.owner = none → tail = [] ∧ next = none

variable {s : σ} {log : List (Event (threads ι (ThreadEffect G E σ)))} {m : Mutex ι σ}
  {rest : ι → Prog (ThreadEffect G E σ) Unit} {run : List (Entry E σ (ι × β))}
  {tail : List (Event E)} {next : Option (ι × β)} {i : ι} {o : (ThreadEffect G E σ).Op}
  {k : (ThreadEffect G E σ).Resp o → Prog (ThreadEffect G E σ) Unit}
  {r : (ThreadEffect G E σ).Resp o}

omit [DecidableEq ι] in
/-- Before the threads start, nothing was done under the lock. -/
theorem serial_start (before : ι → Prog G β) (s : σ) :
    Serial body after s [] ⟨true, none, s⟩ (guardedThreads before body after) [] [] none where
  ran := .done s
  ready := rfl
  held := rfl
  order := rfl
  outside i _ := .before (before i)
  inside _ h := nomatch h
  free _ := ⟨rfl, rfl⟩

/-- A thread without the mutex goes on without it. -/
theorem Serial.moved (h : Serial body after s log m rest run tail next) (hnot : m.owner ≠ some i)
    {e : Event (threads ι (ThreadEffect G E σ))} {q : Prog (ThreadEffect G E σ) Unit}
    (hheld : heldEvents (log ++ [e]) = heldEvents log) (howners : owners (log ++ [e]) = owners log)
    (hq : Outside (body i) (after i) q) :
    Serial body after s (log ++ [e]) m (Function.update rest i q) run tail next := by
  refine ⟨h.ran, h.ready, hheld.trans h.held, howners.trans h.order, fun j hj => ?_,
    fun j hj => ?_, h.free⟩
  · -- thread i stays outside the lock, and the others did not move
    by_cases hji : j = i
    · subst hji
      rw [Function.update_self]
      exact hq
    · rw [Function.update_of_ne hji]
      exact h.outside j hj
  · have hji : j ≠ i := fun hji => hnot (hji ▸ hj)
    rw [Function.update_of_ne hji]
    exact h.inside j hj

/-- The thread with the mutex goes on with it. -/
theorem Serial.kept (h : Serial body after s log m rest run tail next) (howner : m.owner = some i)
    {e : Event (threads ι (ThreadEffect G E σ))} {q : Prog (ThreadEffect G E σ) Unit} {value : σ}
    {run' : List (Entry E σ (ι × β))} {tail' : List (Event E)} {b : Option β}
    (hran : Run (bodies body) s run' value)
    (hheld : heldEvents (log ++ [e]) = exchanges run' ++ tail')
    (howners : owners (log ++ [e]) =
      run'.map (fun entry => entry.op.1) ++ (b.map (Prod.mk i)).toList.map Prod.fst)
    (hq : Inside (body i) (after i) value tail' b q) :
    Serial body after s (log ++ [e]) { m with value := value } (Function.update rest i q) run' tail'
      (b.map (Prod.mk i)) := by
  refine ⟨hran, h.ready, hheld, howners, fun j hj => ?_, fun j hj => ?_, fun hnone => ?_⟩
  · have hji : j ≠ i := fun hji => hj (hji ▸ howner)
    rw [Function.update_of_ne hji]
    exact h.outside j hj
  · -- only the owner is inside
    have hji : j = i := Option.some.inj (hj.symm.trans howner)
    subst hji
    rw [Function.update_self]
    exact ⟨b, rfl, hq⟩
  · exact absurd (hnone.symm.trans howner) nofun

/-- A thread that is not the owner takes a step. -/
theorem Serial.step_outside (h : Serial body after s log m rest run tail next)
    (hnot : m.owner ≠ some i) (hrest : rest i = .op o k)
    (hallow : (mutex ι G E σ).allow m (i, o) r) :
    (mutex ι G E σ).require m (i, o) ∧ ∃ next', Serial body after s (log ++ [⟨(i, o), r⟩])
      ((mutex ι G E σ).next m (i, o) r) (Function.update rest i (k r)) run tail next' := by
  have hplace := h.outside i hnot
  rw [hrest] at hplace
  generalize hq : Prog.op o k = q at hplace
  cases hplace with
  | before p =>
      cases p with
      | ret b =>
          cases hq
          cases hallow
          rw [h.ready]
          exact ⟨trivial, next, h.moved hnot (by simp [heldEvents]) (by simp [owners]) (.waiting b)⟩
      | op o' k' =>
          cases hq
          exact ⟨trivial, next, h.moved hnot (by simp [heldEvents]) (by simp [owners])
            (.before (k' r))⟩
      | diverge => cases hq
  | waiting b =>
      cases hq
      -- the mutex is free, so nobody is inside
      have hnone : m.owner = none := hallow
      obtain ⟨rfl, rfl⟩ := h.free hnone
      refine ⟨hnot, some (i, b), h.ran, h.ready, ?_, ?_, fun j hj => ?_, fun j hj => ?_, nofun⟩
      · simp [heldEvents, ← h.held]
      · simpa [owners] using h.order
      · have hji : j ≠ i := fun hji => hj (hji ▸ rfl)
        rw [Function.update_of_ne hji]
        exact h.outside j (hnone ▸ nofun)
      · have hji : i = j := Option.some.inj hj
        subst hji
        rw [Function.update_self]
        exact ⟨some b, rfl, .entered b⟩
  | done => cases hq

/-- The owner takes a step. -/
theorem Serial.step_inside (h : Serial body after s log m rest run tail next)
    (howner : m.owner = some i) (hrest : rest i = .op o k)
    (hallow : (mutex ι G E σ).allow m (i, o) r) :
    (mutex ι G E σ).require m (i, o) ∧ ∃ run' tail' next',
      Serial body after s (log ++ [⟨(i, o), r⟩]) ((mutex ι G E σ).next m (i, o) r)
        (Function.update rest i (k r)) run' tail' next' := by
  obtain ⟨b, rfl, hplace⟩ := h.inside i howner
  rw [hrest] at hplace
  generalize hq : Prog.op o k = q at hplace
  cases hplace with
  | entered b =>
      cases hq
      cases hallow
      exact ⟨howner, run, [], some (i, b),
        h.kept howner h.ran (by simpa [heldEvents] using h.held) (by simpa [owners] using h.order)
          (.working (.refl _))⟩
  | @working b _ p hsteps =>
      cases p with
      | ret out =>
          -- the state is put back: the body is done
          cases hq
          have hran := h.ran.concat (i := (i, b)) hsteps
          refine ⟨howner, _, [], none, h.kept howner hran ?_ ?_ (.stored (after i out.1))⟩
          · rw [exchanges_concat]
            simpa [heldEvents] using h.held
          · simpa [owners] using h.order
      | op o' k' =>
          cases hq
          refine ⟨howner, run, tail ++ [⟨o', r⟩], some (i, b),
            h.kept howner h.ran ?_ (by simpa [owners] using h.order) (.working (hsteps.concat r))⟩
          have hheld := h.held
          simp only [heldEvents, List.filterMap_append] at hheld ⊢
          rw [hheld, List.append_assoc]
          rfl
      | diverge => cases hq
  | stored p =>
      cases p with
      | ret _ =>
          cases hq
          refine ⟨howner, run, [], none, h.ran, h.ready, ?_, ?_, fun j _ => ?_, nofun,
            fun _ => ⟨rfl, rfl⟩⟩
          · simpa [heldEvents] using h.held
          · simpa [owners] using h.order
          · by_cases hji : j = i
            · subst hji
              rw [Function.update_self]
              exact .done
            · rw [Function.update_of_ne hji]
              exact h.outside j fun hj => hji (Option.some.inj (hj.symm.trans howner))
      | op o' k' =>
          cases hq
          exact ⟨trivial, run, [], none,
            h.kept howner h.ran (by simpa [heldEvents] using h.held)
              (by simpa [owners] using h.order) (.stored (k' r))⟩
      | diverge => cases hq

/-- The invariant holds at every point of every interleaving. -/
theorem Interleaving.serial
    (h : Interleaving (mutex ι G E σ) ⟨true, none, s⟩ (guardedThreads before body after) log rest) :
    (mutex ι G E σ).Meets ⟨true, none, s⟩ log ∧ ∃ run tail next,
      Serial body after s log ((mutex ι G E σ).after ⟨true, none, s⟩ log) rest run tail next := by
  induction h with
  | start => exact ⟨Machine.meets_nil _ _, [], [], none, serial_start before s⟩
  | @step log rest i o k r _ hrest hallow ih =>
      obtain ⟨hmeets, run, tail, next, hserial⟩ := ih
      have hone (hrequire : (mutex ι G E σ).require
          ((mutex ι G E σ).after ⟨true, none, s⟩ log) (i, o)) :
          (mutex ι G E σ).Meets ⟨true, none, s⟩ (log ++ [⟨(i, o), r⟩]) :=
        hmeets.append _ fun _ =>
          (Machine.meets_cons _ _ _ _).2 ⟨hrequire, fun _ => Machine.meets_nil _ _⟩
      rw [Machine.after_append]
      -- a step of the owner extends the open call, any other leaves the serial run
      by_cases howner : ((mutex ι G E σ).after ⟨true, none, s⟩ log).owner = some i
      · obtain ⟨hrequire, hnext⟩ := hserial.step_inside howner hrest hallow
        exact ⟨hone hrequire, hnext⟩
      · obtain ⟨hrequire, next', hnext⟩ := hserial.step_outside howner hrest hallow
        exact ⟨hone hrequire, run, tail, next', hnext⟩

/-- The owner's body has begun. -/
theorem Inside.steps {x : β → Proc E ε σ α} {y : Except ε α → Prog G Unit} {s : σ}
    {t : List (Event E)} {b : β} {q : Prog (ThreadEffect G E σ) Unit}
    (h : Inside x y s t (some b) q) : ∃ p, Prog.Steps (x b s) t p := by
  cases h with
  | entered => exact ⟨_, .refl _⟩
  | working hsteps => exact ⟨_, hsteps⟩

/-- Once the state is put back, nothing more is done with the mutex. -/
theorem Inside.tail_nil {x : β → Proc E ε σ α} {y : Except ε α → Prog G Unit} {s : σ}
    {t : List (Event E)} {q : Prog (ThreadEffect G E σ) Unit} (h : Inside x y s t none q) :
    t = [] := by
  cases h with
  | stored => rfl

/-- The threads keep the discipline, and with the mutex in hand they do what a session of their
bodies does, in the order in which they got it. While nobody has it, the state is the one that the
session left. -/
theorem Interleaving.session
    (h : Interleaving (mutex ι G E σ) ⟨true, none, s⟩ (guardedThreads before body after) log rest) :
    (mutex ι G E σ).Meets ⟨true, none, s⟩ log ∧ ∃ entries,
      Session (bodies body) s entries ∧ entries.map (fun entry => entry.op.1) = owners log ∧
        exchanges entries = heldEvents log ∧
          (((mutex ι G E σ).after ⟨true, none, s⟩ log).owner = none →
            Run (bodies body) s entries ((mutex ι G E σ).after ⟨true, none, s⟩ log).value) := by
  obtain ⟨hmeets, run, tail, next, hserial⟩ := h.serial
  refine ⟨hmeets, ?_⟩
  generalize (mutex ι G E σ).after ⟨true, none, s⟩ log = m at hserial
  -- with nobody inside, the serial run is the whole session
  have hdone (htail : tail = []) (hnext : next = none) : ∃ entries,
      Session (bodies body) s entries ∧ entries.map (fun entry => entry.op.1) = owners log ∧
        exchanges entries = heldEvents log ∧
          (m.owner = none → Run (bodies body) s entries m.value) := by
    subst htail hnext
    refine ⟨run, hserial.ran.session, ?_, ?_, fun _ => hserial.ran⟩
    · simpa using hserial.order.symm
    · simpa using hserial.held.symm
  -- else the owner is partway through its body, which cuts the session there
  cases howner : m.owner with
  | none =>
      obtain ⟨htail, hnext⟩ := hserial.free howner
      simpa only [howner] using hdone htail hnext
  | some i =>
      obtain ⟨b, rfl, hplace⟩ := hserial.inside i howner
      cases b with
      | none => simpa only [howner] using hdone hplace.tail_nil rfl
      | some b =>
          obtain ⟨p, hsteps⟩ := hplace.steps
          refine ⟨run ++ [⟨m.value, (i, b), tail⟩], hserial.ran.cut (i := (i, b)) hsteps, ?_, ?_,
            nofun⟩
          · simpa using hserial.order.symm
          · rw [exchanges_concat]
            exact hserial.held.symm

end

end Effectful
