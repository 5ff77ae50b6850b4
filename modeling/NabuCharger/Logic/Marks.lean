import NabuCharger.Logic.Session
import NabuCharger.Logic.Laws

/-!
# `Logic.Marks`: programs with marks

A property may speak of a decision that no exchange shows: which of several reasons a program
had for what it does next. `marks L` is the signature of marks, operations that nobody
answers, and a program over `E.sum (marks L)` is a marked program. `unmark` takes the marks
away again.

A marked copy of a program is the program itself once it is unmarked. Then every session of
the program is a session of the copy with its marks left out (`Session.marked`), and a
monitor of the copy is a statement about the program. Against an executable environment the
two make the same log (`Session.execute_unmark`).
-/

set_option autoImplicit false

namespace Effectful

variable {E : Effect} {L ε σ α β ι : Type}

/-- The signature of marks: operations without an answer. -/
def marks (L : Type) : Effect where
  Op := L
  Resp _ := Unit

/-- The exchanges of a marked trace that are not marks. -/
def unmarked : List (Event (E.sum (marks L))) → List (Event E)
  | [] => []
  | ⟨.inl o, r⟩ :: t => ⟨o, r⟩ :: unmarked t
  | ⟨.inr _, _⟩ :: t => unmarked t

/-- The marks of a marked trace, in order. -/
def marksOf : List (Event (E.sum (marks L))) → List L
  | [] => []
  | ⟨.inl _, _⟩ :: t => marksOf t
  | ⟨.inr l, _⟩ :: t => l :: marksOf t

namespace Prog

/-- The program without its marks. -/
def unmark : Prog (E.sum (marks L)) α → Prog E α
  | .ret a => .ret a
  | .op (.inl o) k => .op o fun r => (k r).unmark
  | .op (.inr _) k => (k ()).unmark
  | .diverge => .diverge

/-- A program without marks is unmarked already. -/
theorem unmark_inl (p : Prog E α) : (p.inl : Prog (E.sum (marks L)) α).unmark = p := by
  induction p with
  | ret a => rfl
  | op o k ih => exact congrArg (Prog.op o) (funext ih)
  | diverge => rfl

/-- The marks of a sequence are those of its parts. -/
theorem unmark_bind (p : Prog (E.sum (marks L)) α) (f : α → Prog (E.sum (marks L)) β) :
    (p.bind f).unmark = p.unmark.bind fun a => (f a).unmark := by
  induction p with
  | ret a => rfl
  | op o k ih =>
      cases o with
      | inl o => exact congrArg (Prog.op o) (funext ih)
      | inr l => exact ih ()
  | diverge => rfl

/-- A map has no marks of its own. -/
theorem unmark_map (p : Prog (E.sum (marks L)) α) (f : α → β) :
    (p.map f).unmark = p.unmark.map f := by
  induction p with
  | ret a => rfl
  | op o k ih =>
      cases o with
      | inl o => exact congrArg (Prog.op o) (funext ih)
      | inr l => exact ih ()
  | diverge => rfl

/-- What the unmarked program does, the marked one does, with marks in between. -/
theorem Steps.marked (p : Prog (E.sum (marks L)) α) {t : List (Event E)} {q : Prog E α}
    (h : Steps p.unmark t q) : ∃ t' q', Steps p t' q' ∧ unmarked t' = t := by
  induction p generalizing t with
  | ret a =>
      cases h
      exact ⟨[], .ret a, .refl _, rfl⟩
  | op o k ih =>
      cases o with
      | inl o =>
          rcases h with _ | hrest
          · exact ⟨[], _, .refl _, rfl⟩
          · obtain ⟨t', q', hsteps, ht⟩ := ih _ hrest
            exact ⟨_, q', .op hsteps, congrArg (List.cons _) ht⟩
      -- a mark is no step of the unmarked program
      | inr l =>
          obtain ⟨t', q', hsteps, ht⟩ := ih () h
          exact ⟨_, q', .op hsteps, ht⟩
  | diverge =>
      cases h
      exact ⟨[], .diverge, .refl _, rfl⟩

/-- A run without marks is one of the marked program, with its marks taken away. -/
theorem Yields.marked (p : Prog (E.sum (marks L)) α) {t : List (Event E)} {a : α}
    (h : Yields p.unmark t a) : ∃ t', Yields p t' a ∧ unmarked t' = t := by
  induction p generalizing t with
  | ret b =>
      cases h
      exact ⟨[], .refl _, rfl⟩
  | op o k ih =>
      cases o with
      | inl o =>
          rcases h with _ | hrest
          obtain ⟨t', hsteps, ht⟩ := ih _ hrest
          exact ⟨_, .op hsteps, congrArg (List.cons _) ht⟩
      -- a mark is no step of the unmarked program
      | inr l =>
          obtain ⟨t', hsteps, ht⟩ := ih () h
          exact ⟨_, .op hsteps, ht⟩
  | diverge => nomatch h

end Prog

/-! ### Stateful programs -/

/-- Leaves a mark. -/
def Proc.mark (l : L) : Proc (E.sum (marks L)) ε σ Unit :=
  Proc.perform (E := E.sum (marks L)) (Sum.inr l)

/-- The stateful program without its marks. -/
def Proc.unmark (x : Proc (E.sum (marks L)) ε σ α) : Proc E ε σ α := fun s => (x s).unmark

namespace Proc

/-- A value has no marks. -/
@[simp] theorem unmark_pure (a : α) :
    (pure a : Proc (E.sum (marks L)) ε σ α).unmark = pure a := rfl

/-- A look at the state has no marks. -/
@[simp] theorem unmark_get : (get : Proc (E.sum (marks L)) ε σ σ).unmark = get := rfl

/-- A change of the state has no marks. -/
@[simp] theorem unmark_modify (f : σ → σ) :
    (modify f : Proc (E.sum (marks L)) ε σ Unit).unmark = modify f := rfl

/-- A program without marks is unmarked already. -/
@[simp] theorem unmark_inl (x : Proc E ε σ α) :
    (x.inl : Proc (E.sum (marks L)) ε σ α).unmark = x := by
  funext s
  exact Prog.unmark_inl (x s)

/-- The marks of a sequence are those of its parts. -/
@[simp] theorem unmark_bind (x : Proc (E.sum (marks L)) ε σ α)
    (f : α → Proc (E.sum (marks L)) ε σ β) :
    (x >>= f).unmark = x.unmark >>= fun a => (f a).unmark := by
  funext s
  refine (Prog.unmark_bind _ _).trans (congrArg (Prog.bind (x s).unmark) ?_)
  funext out
  obtain ⟨result, s'⟩ := out
  cases result <;> rfl

/-- A mark is nothing once it is taken away. -/
@[simp] theorem unmark_mark (l : L) :
    (mark l : Proc (E.sum (marks L)) ε σ Unit).unmark = pure () := rfl

/-- A state that only a mark has read was not read. -/
@[simp] theorem get_bind (x : Proc E ε σ α) : (get >>= fun _ => x) = x := rfl

/-- A program without marks, and then one with them. -/
theorem unmark_inl_bind {x : Proc E ε σ α} {f : α → Proc (E.sum (marks L)) ε σ β}
    {g : α → Proc E ε σ β} (h : ∀ a, (f a).unmark = g a) : (x.inl >>= f).unmark = x >>= g := by
  rw [unmark_bind, unmark_inl]
  exact congrArg (x >>= ·) (funext h)

/-- The marks of a choice are those of its branches. -/
@[simp] theorem unmark_ite {c : Prop} [Decidable c] (x y : Proc (E.sum (marks L)) ε σ α) :
    (if c then x else y).unmark = if c then x.unmark else y.unmark := by
  split <;> rfl

/-- The marks of a program that is run on a condition. -/
@[simp] theorem unmark_when (c : Bool) (x : Proc (E.sum (marks L)) ε σ Unit) :
    (when c x).unmark = when c x.unmark := by
  cases c <;> rfl

/-- Dropping a result leaves the marks. -/
@[simp] theorem unmark_discard {ε' : Type} (x : Proc (E.sum (marks L)) ε σ α) :
    (discard x : Proc (E.sum (marks L)) ε' σ Unit).unmark = discard x.unmark := by
  funext s
  exact Prog.unmark_map _ _

end Proc

/-- An executable environment of the program, for its marked copy. -/
def unanswered {H : Type} (env : H → (o : E.Op) → E.Resp o × H) :
    H → (o : (E.sum (marks L)).Op) → (E.sum (marks L)).Resp o × H
  | h, .inl o => env h o
  | h, .inr _ => ((), h)

/-- A run of the unmarked program is that of the marked one, with the marks left out. -/
theorem Prog.runWith_unmark {H : Type} (env : H → (o : E.Op) → E.Resp o × H)
    (p : Prog (E.sum (marks L)) α) : ∀ h, p.unmark.runWith env h =
      (unmarked (p.runWith (unanswered env) h).1, (p.runWith (unanswered env) h).2) := by
  induction p with
  | ret a => exact fun h => rfl
  | op o k ih =>
      intro h
      cases o with
      | inl o =>
          have hrest := ih (env h o).1 (env h o).2
          simp only [unmark, runWith, unanswered, unmarked]
          rw [hrest]
      | inr l => exact ih () h
  | diverge => exact fun h => rfl

/-- The entry of a log without the marks. -/
def Entry.unmark (entry : Entry (E.sum (marks L)) σ ι) : Entry E σ ι where
  start := entry.start
  op := entry.op
  trace := unmarked entry.trace

/-- A session is one of the marked programs, with the marks left out. -/
theorem Session.marked {x : ι → Proc E ε σ α} {y : ι → Proc (E.sum (marks L)) ε σ α}
    (hy : ∀ i, (y i).unmark = x i) {s : σ} {log : List (Entry E σ ι)} (h : Session x s log) :
    ∃ log', Session y s log' ∧ log'.map Entry.unmark = log := by
  induction h with
  | done s => exact ⟨[], .done s, rfl⟩
  | @step s i t out log hstep _ ih =>
      obtain ⟨log', hrest, hlog⟩ := ih
      rw [← hy i] at hstep
      obtain ⟨t', hsteps, ht⟩ := Prog.Yields.marked (y i s) hstep
      exact ⟨⟨s, i, t'⟩ :: log', .step hsteps hrest, by rw [List.map_cons, hlog, ← ht]; rfl⟩
  | @cut s i t q hcut =>
      rw [← hy i] at hcut
      obtain ⟨t', q', hsteps, ht⟩ := Prog.Steps.marked (y i s) hcut
      exact ⟨[⟨s, i, t'⟩], .cut hsteps, by rw [← ht]; rfl⟩

/-- The log of the programs is that of their marked copies, with the marks left out. -/
theorem Session.execute_unmark {H : Type} {x : ι → Proc E ε σ α}
    {y : ι → Proc (E.sum (marks L)) ε σ α} (hy : ∀ i, (y i).unmark = x i)
    (env : H → (o : E.Op) → E.Resp o × H) (is : List ι) :
    ∀ h s, (Session.execute (unanswered env) y h s is).map Entry.unmark =
      Session.execute env x h s is := by
  induction is with
  | nil => exact fun _ _ => rfl
  | cons i is ih =>
      intro h s
      have hrun := Prog.runWith_unmark env (y i s) h
      rw [show (y i s).unmark = x i s from congrFun (hy i) s] at hrun
      rw [Session.execute, Session.execute, hrun]
      -- the marked entry point returns when the unmarked one does
      cases ((y i s).runWith (unanswered env) h).2.2 with
      | none => rfl
      | some out => exact congrArg (List.cons _) (ih _ _)

end Effectful
