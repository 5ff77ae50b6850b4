import NabuCharger.Logic.Session
import NabuCharger.Logic.Runs

/-!
# `Logic.History`: what a program did, and a history of programs

`x.Yields s t r s'` says that the program `x`, from the state `s`, can make the exchanges `t`,
return `r` and leave `s'`. The inversion lemmas take such a fact apart along the code: a
sequence made the exchanges of its first part and then, if that returned a value, those of the
second (`Proc.Yields.bind_cases`). So a specification of a program is a relation of `s`, `t`,
`r` and `s'`, proved once for each function.

A `History` keeps of every program what a caller sees: the operation, the exchanges and the
result, and the states around it. A ghost that a step function moves from one program to the
next is carried along by `History.everyStep`: a condition on every step of the run gives a
property of every step.
-/

set_option autoImplicit false

namespace Effectful

variable {E F : Effect} {ε ε' σ α β ι γ : Type}

namespace Prog

/-- A run of a sequence is a run of its first part and then of its second. -/
theorem Yields.bind_cases {p : Prog E α} {f : α → Prog E β} {t : List (Event E)} {b : β}
    (h : Yields (p.bind f) t b) :
    ∃ t₁ t₂ a, t = t₁ ++ t₂ ∧ Yields p t₁ a ∧ Yields (f a) t₂ b := by
  induction p generalizing t with
  | ret a => exact ⟨[], t, a, rfl, .refl _, h⟩
  | op o k ih =>
      cases h with
      | op hrest =>
          obtain ⟨t₁, t₂, a, rfl, hp, hf⟩ := ih _ hrest
          exact ⟨_, t₂, a, rfl, .op hp, hf⟩
  | diverge => nomatch h

/-- A map changes the result of a run. -/
theorem Yields.map_cases {p : Prog E α} {f : α → β} {t : List (Event E)} {b : β}
    (h : Yields (p.map f) t b) : ∃ a, b = f a ∧ Yields p t a := by
  induction p generalizing t with
  | ret a =>
      cases h with
      | refl => exact ⟨a, rfl, .refl _⟩
  | op o k ih =>
      cases h with
      | op hrest =>
          obtain ⟨a, rfl, hp⟩ := ih _ hrest
          exact ⟨a, rfl, .op hp⟩
  | diverge => nomatch h

end Prog

/-- The exchanges of the left operations in a trace of a sum. -/
def leftEvents (t : List (Event (E.sum F))) : List (Event E) :=
  t.filterMap fun
    | ⟨.inl o, r⟩ => some ⟨o, r⟩
    | ⟨.inr _, _⟩ => none

/-- Nothing was exchanged on the left. -/
@[simp] theorem leftEvents_nil : leftEvents ([] : List (Event (E.sum F))) = [] := rfl

/-- The left exchanges of two traces one after the other. -/
@[simp] theorem leftEvents_append (t u : List (Event (E.sum F))) :
    leftEvents (t ++ u) = leftEvents t ++ leftEvents u :=
  List.filterMap_append

/-- An exchange on the right is none on the left. -/
@[simp] theorem leftEvents_inr (o : F.Op) (r : F.Resp o) (t : List (Event (E.sum F))) :
    leftEvents (⟨.inr o, r⟩ :: t) = leftEvents t := rfl

/-- A program over the left signature makes its exchanges in the sum. -/
theorem Prog.Yields.inl_cases {p : Prog E α} {t : List (Event (E.sum F))} {a : α}
    (h : Prog.Yields (p.inl (F := F)) t a) : Prog.Yields p (leftEvents t) a := by
  induction p generalizing t with
  | ret b =>
      cases h with
      | refl => exact .refl _
  | op o k ih =>
      cases h with
      | op hrest => exact .op (ih _ hrest)
  | diverge => nomatch h

namespace Proc

/-- From `s`, the program can make the exchanges `t`, return `r` and leave `s'`. -/
def Yields (x : Proc E ε σ α) (s : σ) (t : List (Event E)) (r : Except ε α) (s' : σ) : Prop :=
  Prog.Yields (x s) t (r, s')

namespace Yields

variable {s s' : σ} {t : List (Event E)} {x : Proc E ε σ α}

/-- Every operation is as the monitor asks that the program keeps to. -/
theorem forall_op {P : E.Op → Prop} {r : Except ε α} (h : x.Yields s t r s')
    (hx : Keeps (Machine.only E P) (fun _ _ => True) x) : ∀ e ∈ t, P e.op :=
  Prog.Steps.forall_op h (hx.run s () trivial).prog

/-- A sequence: the second part after a value of the first, or its failure. -/
theorem bind_cases {f : α → Proc E ε σ β} {r : Except ε β} (h : (x >>= f).Yields s t r s') :
    (∃ t₁ t₂ a s₁, t = t₁ ++ t₂ ∧ x.Yields s t₁ (.ok a) s₁ ∧ (f a).Yields s₁ t₂ r s') ∨
      ∃ e, r = .error e ∧ x.Yields s t (.error e) s' := by
  obtain ⟨t₁, t₂, ⟨a, s₁⟩, rfl, hx, hf⟩ := Prog.Yields.bind_cases h
  cases a with
  | ok a => exact .inl ⟨t₁, t₂, a, s₁, rfl, hx, hf⟩
  | error e =>
      cases hf with
      | refl =>
          refine .inr ⟨e, rfl, ?_⟩
          rw [List.append_nil]
          exact hx

/-- A value makes no exchange and leaves the state. -/
theorem pure_cases {a : α} {r : Except ε α} (h : (pure a : Proc E ε σ α).Yields s t r s') :
    t = [] ∧ r = .ok a ∧ s' = s := by
  cases h with
  | refl => exact ⟨rfl, rfl, rfl⟩

/-- A failure makes no exchange and leaves the state. -/
theorem fail_cases {e : ε} {r : Except ε α} (h : (fail e : Proc E ε σ α).Yields s t r s') :
    t = [] ∧ r = .error e ∧ s' = s := by
  cases h with
  | refl => exact ⟨rfl, rfl, rfl⟩

/-- A result that was there before is returned as it is. -/
theorem ofExcept_cases {x : Except ε α} {r : Except ε α}
    (h : (ofExcept x : Proc E ε σ α).Yields s t r s') : t = [] ∧ r = x ∧ s' = s := by
  cases x with
  | ok a => exact h.pure_cases
  | error e => exact h.fail_cases

/-- A change of the state makes no exchange. -/
theorem modify_cases {f : σ → σ} {r : Except ε Unit}
    (h : (modify f : Proc E ε σ Unit).Yields s t r s') : t = [] ∧ r = .ok () ∧ s' = f s := by
  cases h with
  | refl => exact ⟨rfl, rfl, rfl⟩

/-- An operation is one exchange, and its answer is the result. -/
theorem perform_cases {o : E.Op} {r : Except ε (E.Resp o)}
    (h : (perform o : Proc E ε σ (E.Resp o)).Yields s t r s') :
    ∃ answer, t = [⟨o, answer⟩] ∧ r = .ok answer ∧ s' = s := by
  cases h with
  | op hrest =>
      cases hrest with
      | refl => exact ⟨_, rfl, rfl, rfl⟩

/-- An attempt made the exchanges of its program, and returns the outcome as a value. -/
theorem attempt_cases {r : Except ε' (Except ε α)}
    (h : (attempt x : Proc E ε' σ (Except ε α)).Yields s t r s') :
    ∃ out, r = .ok out ∧ x.Yields s t out s' := by
  obtain ⟨⟨out, s₁⟩, heq, hx⟩ := Prog.Yields.map_cases h
  cases heq
  exact ⟨out, rfl, hx⟩

/-- So did a program whose result is dropped. -/
theorem discard_cases {r : Except ε' Unit}
    (h : (discard x : Proc E ε' σ Unit).Yields s t r s') :
    r = .ok () ∧ ∃ out, x.Yields s t out s' := by
  obtain ⟨⟨out, s₁⟩, heq, hx⟩ := Prog.Yields.map_cases h
  cases heq
  exact ⟨rfl, out, hx⟩

/-- A program over the left operations made its exchanges there. -/
theorem inl_cases {t : List (Event (E.sum F))} {r : Except ε α}
    (h : (x.inl (F := F)).Yields s t r s') : x.Yields s (leftEvents t) r s' :=
  Prog.Yields.inl_cases h

/-! What a sequence did first, when the first step is one of these. -/

/-- First the state was looked at. -/
theorem get_bind {f : σ → Proc E ε σ β} {r : Except ε β} (h : (get >>= f).Yields s t r s') :
    (f s).Yields s t r s' := h

/-- First the state was changed. -/
theorem modify_bind {g : σ → σ} {f : Unit → Proc E ε σ β} {r : Except ε β}
    (h : (modify g >>= f).Yields s t r s') : (f ()).Yields (g s) t r s' := h

/-- First an operation was performed. -/
theorem perform_bind {o : E.Op} {f : E.Resp o → Proc E ε σ β} {r : Except ε β}
    (h : (perform o >>= f).Yields s t r s') :
    ∃ answer rest, t = ⟨o, answer⟩ :: rest ∧ (f answer).Yields s rest r s' := by
  cases h with
  | op hrest => exact ⟨_, _, rfl, hrest⟩

/-- First a program was tried. -/
theorem attempt_bind {x : Proc E ε' σ α} {f : Except ε' α → Proc E ε σ β} {r : Except ε β}
    (h : (attempt x >>= f).Yields s t r s') :
    ∃ t₁ t₂ out s₁, t = t₁ ++ t₂ ∧ x.Yields s t₁ out s₁ ∧ (f out).Yields s₁ t₂ r s' := by
  obtain ⟨t₁, t₂, a, s₁, rfl, hx, hf⟩ | ⟨e, rfl, hx⟩ := h.bind_cases
  · obtain ⟨out, heq, hout⟩ := hx.attempt_cases
    cases heq
    exact ⟨t₁, t₂, a, s₁, rfl, hout, hf⟩
  · obtain ⟨out, heq, -⟩ := hx.attempt_cases
    nomatch heq

end Yields

end Proc

/-! ### Histories -/

/-- One program of a history, as its caller sees it. -/
structure Turn (E : Effect) (ε σ α ι : Type) where
  op : ι
  start : σ
  trace : List (Event E)
  result : Except ε α
  finish : σ

/-- A history of the programs `x` from the first state to the last. -/
inductive History (x : ι → Proc E ε σ α) : σ → List (Turn E ε σ α ι) → σ → Prop
  | done (s : σ) : History x s [] s
  | step {i : ι} {s s' s'' : σ} {t : List (Event E)} {r : Except ε α}
      {turns : List (Turn E ε σ α ι)} :
      (x i).Yields s t r s' → History x s' turns s'' →
        History x s (⟨i, s, t, r, s'⟩ :: turns) s''

/-- The exchanges of a history, in order. -/
def turnExchanges (turns : List (Turn E ε σ α ι)) : List (Event E) :=
  turns.flatMap Turn.trace

/-- The first turn comes first. -/
theorem turnExchanges_cons (turn : Turn E ε σ α ι) (turns : List (Turn E ε σ α ι)) :
    turnExchanges (turn :: turns) = turn.trace ++ turnExchanges turns :=
  List.flatMap_cons

/-- The exchanges of two histories, one after the other. -/
theorem turnExchanges_append (turns later : List (Turn E ε σ α ι)) :
    turnExchanges (turns ++ later) = turnExchanges turns ++ turnExchanges later :=
  List.flatMap_append

namespace History

variable {x : ι → Proc E ε σ α} {s s' : σ} {turns later : List (Turn E ε σ α ι)}

/-- A history of two parts goes through a state between them. -/
theorem split (h : History x s (turns ++ later) s') :
    ∃ middle, History x s turns middle ∧ History x middle later s' := by
  induction turns generalizing s with
  | nil => exact ⟨s, .done s, h⟩
  | cons turn turns ih =>
      cases h with
      | step hstep hrest =>
          obtain ⟨middle, hfirst, hsecond⟩ := ih hrest
          exact ⟨middle, .step hstep hfirst, hsecond⟩

/-- A property of single programs holds of every turn. -/
theorem forall_mem {P : Turn E ε σ α ι → Prop}
    (hP : ∀ i s t r s', (x i).Yields s t r s' → P ⟨i, s, t, r, s'⟩) (h : History x s turns s') :
    ∀ turn ∈ turns, P turn := by
  induction h with
  | done s => exact fun turn hmem => nomatch hmem
  | step hstep _ ih =>
      intro turn hmem
      rcases List.mem_cons.1 hmem with rfl | hrest
      · exact hP _ _ _ _ _ hstep
      · exact ih turn hrest

/-- Every turn is a run of its program. -/
theorem yields_of_mem (h : History x s turns s') :
    ∀ turn ∈ turns, (x turn.op).Yields turn.start turn.trace turn.result turn.finish :=
  h.forall_mem fun _ _ _ _ _ hrun => hrun

/-- An invariant that a step breaks exactly when it is bad holds in every state of a history
exactly when no step is bad. -/
theorem forall_finish_iff {I : σ → Prop} {Bad : Turn E ε σ α ι → Prop}
    (hstep : ∀ i s t r s', (x i).Yields s t r s' → I s → (I s' ↔ ¬Bad ⟨i, s, t, r, s'⟩))
    (h : History x s turns s') (hI : I s) :
    (∀ turn ∈ turns, I turn.finish) ↔ ∀ turn ∈ turns, ¬Bad turn := by
  induction h with
  | done s => exact ⟨fun _ _ hmem => (nomatch hmem), fun _ _ hmem => (nomatch hmem)⟩
  | step hrun _ ih =>
      have hiff := hstep _ _ _ _ _ hrun hI
      rw [List.forall_mem_cons, List.forall_mem_cons]
      constructor
      · rintro ⟨hfirst, hrest⟩
        exact ⟨hiff.1 hfirst, (ih hfirst).1 hrest⟩
      · rintro ⟨hfirst, hrest⟩
        have hnext := hiff.2 hfirst
        exact ⟨hnext, (ih hnext).2 hrest⟩

/-- A ghost beside the states of a history. Let every program carry the invariant `I` over a
step for which `P` holds, and give `Q` there. Then `P` at every step gives `Q` at every step,
for as long as the environment keeps to the monitor. -/
theorem everyStep {M : Machine E} {ghost : γ → Turn E ε σ α ι → γ}
    {I : σ → M.State → γ → Prop} {P Q : γ → Turn E ε σ α ι → Prop}
    (hstep : ∀ i s t r s' m g, (x i).Yields s t r s' → I s m g → M.Allowed m t →
      P g ⟨i, s, t, r, s'⟩ →
        Q g ⟨i, s, t, r, s'⟩ ∧ I s' (M.after m t) (ghost g ⟨i, s, t, r, s'⟩))
    (h : History x s turns s') : ∀ m g, I s m g → M.Allowed m (turnExchanges turns) →
      EveryStep ghost P g turns → EveryStep ghost Q g turns := by
  induction h with
  | done s => exact fun m g _ _ _ => trivial
  | step hrun _ ih =>
      intro m g hI hallow hP
      rw [turnExchanges_cons] at hallow
      obtain ⟨hfirst, hrest⟩ := M.allowed_append.1 hallow
      obtain ⟨hQ, hnext⟩ := hstep _ _ _ _ _ m g hrun hI hfirst hP.1
      exact ⟨hQ, ih _ _ hnext hrest hP.2⟩

/-- Two conditions that agree on every step agree on the history. -/
theorem everyStep_iff {M : Machine E} {ghost : γ → Turn E ε σ α ι → γ}
    {I : σ → M.State → γ → Prop} {P Q : γ → Turn E ε σ α ι → Prop}
    (hstep : ∀ i s t r s' m g, (x i).Yields s t r s' → I s m g → M.Allowed m t →
      (P g ⟨i, s, t, r, s'⟩ ↔ Q g ⟨i, s, t, r, s'⟩) ∧
        I s' (M.after m t) (ghost g ⟨i, s, t, r, s'⟩))
    (h : History x s turns s') (m : M.State) (g : γ) (hI : I s m g)
    (hallow : M.Allowed m (turnExchanges turns)) :
    EveryStep ghost P g turns ↔ EveryStep ghost Q g turns := by
  constructor
  · refine h.everyStep (fun i s t r s' m g hrun hI hallow hP => ?_) m g hI hallow
    obtain ⟨hiff, hnext⟩ := hstep i s t r s' m g hrun hI hallow
    exact ⟨hiff.1 hP, hnext⟩
  · refine h.everyStep (fun i s t r s' m g hrun hI hallow hQ => ?_) m g hI hallow
    obtain ⟨hiff, hnext⟩ := hstep i s t r s' m g hrun hI hallow
    exact ⟨hiff.2 hQ, hnext⟩

/-- An invariant of the programs holds at the end of a history. -/
theorem keeps {M : Machine E} {ghost : γ → Turn E ε σ α ι → γ} {I : σ → M.State → γ → Prop}
    (hstep : ∀ i s t r s' m g, (x i).Yields s t r s' → I s m g → M.Allowed m t →
      I s' (M.after m t) (ghost g ⟨i, s, t, r, s'⟩))
    (h : History x s turns s') : ∀ m g, I s m g → M.Allowed m (turnExchanges turns) →
      I s' (M.after m (turnExchanges turns)) (turns.foldl ghost g) := by
  induction h with
  | done s => exact fun m g hI _ => hI
  | step hrun _ ih =>
      intro m g hI hallow
      rw [turnExchanges_cons] at hallow ⊢
      obtain ⟨hfirst, hrest⟩ := M.allowed_append.1 hallow
      rw [Machine.after_append]
      exact ih _ _ (hstep _ _ _ _ _ m g hrun hI hfirst) hrest

/-- What every program keeps, a history keeps: the monitor is met over the whole of it, and
the invariant holds at its end. -/
theorem meets {M : Machine E} {I : σ → M.State → Prop} (hI : ∀ i, Proc.Keeps M I (x i))
    (h : History x s turns s') : ∀ m, I s m → M.Meets m (turnExchanges turns) ∧
      (M.Allowed m (turnExchanges turns) → I s' (M.after m (turnExchanges turns))) := by
  induction h with
  | done s => exact fun m hs => ⟨M.meets_nil m, fun _ => hs⟩
  | @step i s s' s'' t r turns hrun _ ih =>
      intro m hs
      have hwp := ((hI i).run s m hs).prog
      rw [turnExchanges_cons, M.after_append]
      -- a turn that is allowed to its end leaves the invariant
      have hpost (hallow : M.Allowed m t) : I s' (M.after m t) :=
        Prog.Yields.post hrun hwp hallow
      constructor
      · exact .append M (hrun.meets hwp) fun hallow => (ih _ (hpost hallow)).1
      · intro hall
        obtain ⟨hfirst, hrest⟩ := M.allowed_append.1 hall
        exact (ih _ (hpost hfirst)).2 hrest

/-- The turns of the programs `is` against an executable environment, if all of them return. -/
def execute {H : Type} (env : H → (o : E.Op) → E.Resp o × H) (x : ι → Proc E ε σ α) :
    H → σ → List ι → Option (List (Turn E ε σ α ι) × σ)
  | _, s, [] => some ([], s)
  | h, s, i :: is =>
      let ran := (x i s).runWith env h
      match ran.2.2 with
      | some out =>
          (execute env x ran.2.1 out.2 is).map fun rest =>
            (⟨i, s, ran.1, out.1, out.2⟩ :: rest.1, rest.2)
      | none => none

/-- What an execution returns is a history. -/
theorem of_execute {H : Type} (env : H → (o : E.Op) → E.Resp o × H) (x : ι → Proc E ε σ α)
    (is : List ι) : ∀ h s turns s', execute env x h s is = some (turns, s') →
      History x s turns s' := by
  induction is with
  | nil =>
      intro h s turns s' heq
      cases heq
      exact .done s
  | cons i is ih =>
      intro h s turns s' heq
      rw [execute] at heq
      -- a turn that does not return ends the execution without a history
      cases hout : ((x i s).runWith env h).2.2 with
      | none =>
          simp only [hout] at heq
          nomatch heq
      | some out =>
          simp only [hout, Option.map_eq_some_iff] at heq
          obtain ⟨⟨rest, s''⟩, hrest, heq⟩ := heq
          cases heq
          exact .step (Prog.yields_runWith env (x i s) h out hout) (ih _ _ _ _ hrest)

/-- An execution has a turn for each of its programs. -/
theorem op_execute {H : Type} {env : H → (o : E.Op) → E.Resp o × H} {x : ι → Proc E ε σ α}
    {is : List ι} : ∀ {h s turns s'}, execute env x h s is = some (turns, s') →
      turns.map Turn.op = is := by
  induction is with
  | nil =>
      intro h s turns s' heq
      cases heq
      rfl
  | cons i is ih =>
      intro h s turns s' heq
      rw [execute] at heq
      cases hout : ((x i s).runWith env h).2.2 with
      | none =>
          simp only [hout] at heq
          nomatch heq
      | some out =>
          simp only [hout, Option.map_eq_some_iff] at heq
          obtain ⟨⟨rest, s''⟩, hrest, heq⟩ := heq
          cases heq
          rw [List.map_cons, ih hrest]

end History

end Effectful
