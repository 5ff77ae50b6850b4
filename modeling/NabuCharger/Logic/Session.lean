import NabuCharger.Logic.Machine

/-!
# `Logic.Session`: one program after another

A session runs the programs `x i` one after another: each starts in the state the one
before left behind, however that one ended. The log has an entry for each of them, with the
state it started in and its exchanges. The last one may be cut short, so `Session x s log`
is any point of a run. `Run x s log s'` is a session whose programs all returned, and `s'`
is the state between two of them.

A property of the exchanges of one program is lifted by `Session.forall_mem`, a monitor of
the whole session by `Session.meets`, and an invariant of the states by `Run.keeps`.
-/

set_option autoImplicit false

namespace Effectful

variable {E : Effect} {ε σ α ι : Type}

/-- What the log keeps of one program. -/
structure Entry (E : Effect) (σ ι : Type) where
  start : σ
  op : ι
  trace : List (Event E)

/-- The exchanges of a log, in order. -/
def exchanges (log : List (Entry E σ ι)) : List (Event E) :=
  log.flatMap Entry.trace

/-- The exchanges of the last entry come last. -/
theorem exchanges_concat (log : List (Entry E σ ι)) (entry : Entry E σ ι) :
    exchanges (log ++ [entry]) = exchanges log ++ entry.trace := by
  rw [exchanges, List.flatMap_append, List.flatMap_cons, List.flatMap_nil, List.append_nil]
  rfl

/-- A session of the programs `x` from the state `s`. -/
inductive Session (x : ι → Proc E ε σ α) : σ → List (Entry E σ ι) → Prop
  | done (s : σ) : Session x s []
  | step {s : σ} {i : ι} {t : List (Event E)} {out : Except ε α × σ}
      {log : List (Entry E σ ι)} :
      Prog.Yields (x i s) t out → Session x out.2 log → Session x s (⟨s, i, t⟩ :: log)
  | cut {s : σ} {i : ι} {t : List (Event E)} {q : Prog E (Except ε α × σ)} :
      Prog.Steps (x i s) t q → Session x s [⟨s, i, t⟩]

/-- A session in which every program returned, and the state it leaves. -/
inductive Run (x : ι → Proc E ε σ α) : σ → List (Entry E σ ι) → σ → Prop
  | done (s : σ) : Run x s [] s
  | step {s s' : σ} {i : ι} {t : List (Event E)} {out : Except ε α × σ}
      {log : List (Entry E σ ι)} :
      Prog.Yields (x i s) t out → Run x out.2 log s' → Run x s (⟨s, i, t⟩ :: log) s'

variable {x : ι → Proc E ε σ α} {s s' : σ} {log : List (Entry E σ ι)}

namespace Session

/-- A property of the exchanges of every single program holds throughout a session. -/
theorem forall_mem {P : σ → ι → List (Event E) → Prop}
    (hP : ∀ i s t q, Prog.Steps (x i s) t q → P s i t) (h : Session x s log) :
    ∀ entry ∈ log, P entry.start entry.op entry.trace := by
  induction h with
  | done s => exact fun entry hmem => nomatch hmem
  | step hstep _ ih =>
      intro entry hmem
      rcases List.mem_cons.1 hmem with rfl | hrest
      · exact hP _ _ _ _ hstep
      · exact ih entry hrest
  | cut hcut =>
      intro entry hmem
      rw [List.mem_singleton] at hmem
      subst hmem
      exact hP _ _ _ _ hcut

/-- What the programs of the log keep, the session keeps: the monitor is met over the whole
of it. -/
theorem meets_of_mem {M : Machine E} {I : σ → M.State → Prop} (h : Session x s log)
    (hI : ∀ entry ∈ log, Proc.Keeps M I (x entry.op)) :
    ∀ m, I s m → M.Meets m (exchanges log) := by
  induction h with
  | done s => exact fun m _ => M.meets_nil m
  | @step s i t out log hstep _ ih =>
      intro m hs
      have hwp := ((hI _ (List.mem_cons_self ..)).run s m hs).prog
      rw [exchanges, List.flatMap_cons]
      -- what comes after the entry starts from the state it left
      refine Machine.Meets.append M (hstep.meets hwp) fun hallow => ?_
      have hrest := ih fun entry hmem => hI entry (List.mem_cons_of_mem _ hmem)
      exact hrest _ (Prog.Yields.post hstep hwp hallow)
  | cut hcut =>
      intro m hs
      rw [exchanges, List.flatMap_cons, List.flatMap_nil, List.append_nil]
      exact hcut.meets ((hI _ (List.mem_cons_self ..)).run _ m hs).prog

/-- Programs that keep an invariant meet the monitor over the whole session. -/
theorem meets {M : Machine E} {I : σ → M.State → Prop} (hI : ∀ i, Proc.Keeps M I (x i))
    (h : Session x s log) : ∀ m, I s m → M.Meets m (exchanges log) :=
  meets_of_mem h fun entry _ => hI entry.op

/-- The log of the programs `is` against an executable environment. A program that diverges
is the last one. -/
def execute {H : Type} (env : H → (o : E.Op) → E.Resp o × H) (x : ι → Proc E ε σ α) :
    H → σ → List ι → List (Entry E σ ι)
  | _, _, [] => []
  | h, s, i :: is =>
      let ran := (x i s).runWith env h
      match ran.2.2 with
      | some out => ⟨s, i, ran.1⟩ :: execute env x ran.2.1 out.2 is
      | none => [⟨s, i, ran.1⟩]

/-- A log against an executable environment is a session. -/
theorem session_execute {H : Type} (env : H → (o : E.Op) → E.Resp o × H)
    (x : ι → Proc E ε σ α) (is : List ι) :
    ∀ h s, Session x s (execute env x h s is) := by
  induction is with
  | nil => exact fun h s => .done s
  | cons i is ih =>
      intro h s
      obtain ⟨q, hsteps, hret⟩ := Prog.steps_runWith env (x i s) h
      rw [execute]
      cases hran : ((x i s).runWith env h).2.2 with
      | none => exact .cut hsteps
      | some out =>
          rw [hret out hran] at hsteps
          exact .step hsteps (ih _ _)

end Session

/-- Against an environment that simulates a monitor, by `R`, every log is an allowed one. -/
theorem Session.allowed_execute {M : Machine E} {H : Type} {env : H → (o : E.Op) → E.Resp o × H}
    {R : H → M.State → Prop} (hR : ∀ h m o, R h m →
      M.allow m o (env h o).1 ∧ R (env h o).2 (M.next m o (env h o).1))
    (x : ι → Proc E ε σ α) (is : List ι) :
    ∀ h s m, R h m → M.Allowed m (exchanges (Session.execute env x h s is)) := by
  induction is with
  | nil => exact fun _ _ _ _ => trivial
  | cons i is ih =>
      intro h s m hm
      obtain ⟨hfirst, hend⟩ := Prog.allowed_runWith hR (x i s) h m hm
      rw [execute]
      cases ((x i s).runWith env h).2.2 with
      | none => exact M.allowed_append.2 ⟨hfirst, trivial⟩
      | some out => exact M.allowed_append.2 ⟨hfirst, ih _ _ _ hend⟩

/-- An invariant that every program keeps, where it starts under the condition `C`, holds in
every state a run under `C` leaves. -/
theorem Run.keeps_where {M : Machine E} {I : σ → M.State → Prop} {C : σ → ι → Prop}
    (hI : ∀ i s m, C s i → I s m → (x i).wp M (fun _ s' m' => I s' m') s m)
    (h : Run x s log s') (hC : ∀ entry ∈ log, C entry.start entry.op) : ∀ m, I s m →
      M.Allowed m (exchanges log) → I s' (M.after m (exchanges log)) := by
  induction h with
  | done s => exact fun m hs _ => hs
  | @step s s' i t out log hstep _ ih =>
      intro m hs hallow
      rw [exchanges, List.flatMap_cons] at hallow ⊢
      obtain ⟨hfirst, hrest⟩ := (M.allowed_append).1 hallow
      rw [Machine.after_append]
      obtain ⟨hhere, hlater⟩ := List.forall_mem_cons.1 hC
      exact ih hlater _ (Prog.Yields.post hstep (hI i s m hhere hs).prog hfirst) hrest

/-- An invariant that every program keeps holds in every state a run leaves. -/
theorem Run.keeps {M : Machine E} {I : σ → M.State → Prop} (hI : ∀ i, Proc.Keeps M I (x i))
    (h : Run x s log s') (m : M.State) (hs : I s m) (hallow : M.Allowed m (exchanges log)) :
    I s' (M.after m (exchanges log)) :=
  h.keeps_where (C := fun _ _ => True) (fun i s m _ hs => (hI i).run s m hs)
    (fun _ _ => trivial) m hs hallow

/-- The last program of a run, and the run before it. -/
theorem Run.last {entry : Entry E σ ι} (h : Run x s (log ++ [entry]) s') :
    ∃ out, Run x s log entry.start ∧ Prog.Yields (x entry.op entry.start) entry.trace out ∧
      out.2 = s' := by
  induction log generalizing s with
  | nil =>
      cases h with
      | step hstep hrest =>
          cases hrest with
          | done => exact ⟨_, .done _, hstep, rfl⟩
  | cons first log ih =>
      cases h with
      | step hstep hrest =>
          obtain ⟨out, hrun, hlast, hend⟩ := ih hrest
          exact ⟨out, .step hstep hrun, hlast, hend⟩

/-- The state the programs `is` leave against an executable environment, if all of them
return. -/
def Run.leaves {H : Type} (env : H → (o : E.Op) → E.Resp o × H) (x : ι → Proc E ε σ α) :
    H → σ → List ι → Option σ
  | _, s, [] => some s
  | h, s, i :: is =>
      match ((x i s).runWith env h).2.2 with
      | some out => leaves env x ((x i s).runWith env h).2.1 out.2 is
      | none => none

/-- The log of programs that return against an executable environment is a run. -/
theorem Run.of_leaves {H : Type} (env : H → (o : E.Op) → E.Resp o × H)
    (x : ι → Proc E ε σ α) (is : List ι) :
    ∀ h s s', Run.leaves env x h s is = some s' → Run x s (Session.execute env x h s is) s' := by
  induction is with
  | nil =>
      intro h s s' hleaves
      rw [Run.leaves, Option.some.injEq] at hleaves
      subst hleaves
      exact .done s
  | cons i is ih =>
      intro h s s' hleaves
      rw [Run.leaves] at hleaves
      rw [Session.execute]
      -- every call returned, or there would be no final state
      cases hout : ((x i s).runWith env h).2.2 with
      | none =>
          rw [hout] at hleaves
          cases hleaves
      | some out =>
          rw [hout] at hleaves
          exact .step (Prog.yields_runWith env (x i s) h out hout) (ih _ _ _ hleaves)

end Effectful
