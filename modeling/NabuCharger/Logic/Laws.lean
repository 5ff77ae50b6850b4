import NabuCharger.Logic.Prog

/-!
# `Logic.Laws`: the laws of programs

Sequencing is associative, a map is a sequence with a result, and a run of a sequence is a run
of its first part and then of its second.

`Prog.replay` follows a program along exchanges that were recorded. What it follows to the end
is a run of the program (`Prog.yields_of_replay`), so that a statement about the runs in a
record can be checked.
-/

set_option autoImplicit false

namespace Effectful

variable {E : Effect} {α β γ σ ε : Type}

namespace Prog

/-- Sequences of programs may be regrouped. -/
theorem bind_assoc (p : Prog E α) (f : α → Prog E β) (g : β → Prog E γ) :
    (p.bind f).bind g = p.bind fun a => (f a).bind g := by
  induction p with
  | ret a => rfl
  | op o k ih => exact congrArg (Prog.op o) (funext ih)
  | diverge => rfl

/-- A map is a sequence that ends with a value. -/
theorem map_eq_bind (f : α → β) (p : Prog E α) : p.map f = p.bind fun a => .ret (f a) := by
  induction p with
  | ret a => rfl
  | op o k ih => exact congrArg (Prog.op o) (funext ih)
  | diverge => rfl

/-- Two maps are one. -/
theorem map_map (f : α → β) (g : β → γ) (p : Prog E α) :
    (p.map f).map g = p.map fun a => g (f a) := by
  induction p with
  | ret a => rfl
  | op o k ih => exact congrArg (Prog.op o) (funext ih)
  | diverge => rfl

/-- A map in front of a sequence. -/
theorem map_bind (f : α → β) (g : β → Prog E γ) (p : Prog E α) :
    (p.map f).bind g = p.bind fun a => g (f a) := by
  induction p with
  | ret a => rfl
  | op o k ih => exact congrArg (Prog.op o) (funext ih)
  | diverge => rfl

/-- A map behind a sequence. -/
theorem bind_map (f : α → Prog E β) (g : β → γ) (p : Prog E α) :
    (p.bind f).map g = p.bind fun a => (f a).map g := by
  induction p with
  | ret a => rfl
  | op o k ih => exact congrArg (Prog.op o) (funext ih)
  | diverge => rfl

/-- A run of a sequence is a run of its first part and, when that returned, of the second. -/
theorem runWith_bind {H : Type} (env : H → (o : E.Op) → E.Resp o × H) (p : Prog E α)
    (f : α → Prog E β) : ∀ h, (p.bind f).runWith env h =
      match (p.runWith env h).2.2 with
      | some a =>
          ((p.runWith env h).1 ++ ((f a).runWith env (p.runWith env h).2.1).1,
            ((f a).runWith env (p.runWith env h).2.1).2)
      | none => ((p.runWith env h).1, (p.runWith env h).2.1, none) := by
  induction p with
  | ret a => exact fun h => rfl
  | op o k ih =>
      intro h
      simp only [Prog.bind, runWith, ih]
      cases ((k (env h o).1).runWith env (env h o).2).2.2 <;> rfl
  | diverge => exact fun h => rfl

/-- What the first part of a sequence shows, the sequence shows. -/
theorem mem_runWith_bind {H : Type} (env : H → (o : E.Op) → E.Resp o × H) (h : H)
    {p : Prog E α} (f : α → Prog E β) {e : Event E} (he : e ∈ (p.runWith env h).1) :
    e ∈ ((p.bind f).runWith env h).1 := by
  rw [runWith_bind]
  cases (p.runWith env h).2.2 with
  | some a => exact List.mem_append_left _ he
  | none => exact he

/-- A map changes the result of a run, and nothing else. -/
theorem runWith_map {H : Type} (env : H → (o : E.Op) → E.Resp o × H) (f : α → β)
    (p : Prog E α) : ∀ h, (p.map f).runWith env h =
      ((p.runWith env h).1, (p.runWith env h).2.1, (p.runWith env h).2.2.map f) := by
  induction p with
  | ret a => exact fun h => rfl
  | op o k ih =>
      intro h
      simp only [map, runWith, ih]
  | diverge => exact fun h => rfl

/-- Follow a program along recorded exchanges. The answer is its result and the exchanges that
are left, `none` if the record leaves the program. -/
def replay [DecidableEq E.Op] : Prog E α → List (Event E) → Option (α × List (Event E))
  | .ret a, t => some (a, t)
  | .op o k, e :: t => if h : e.op = o then (k (h ▸ e.resp)).replay t else none
  | .op _ _, [] => none
  | .diverge, _ => none

/-- What is replayed to the end is a run, at the beginning of the record. -/
theorem yields_of_replay [DecidableEq E.Op] {p : Prog E α} {t rest : List (Event E)} {a : α}
    (h : p.replay t = some (a, rest)) : ∃ first, t = first ++ rest ∧ Yields p first a := by
  induction p generalizing t with
  | ret b =>
      rw [replay, Option.some.injEq, Prod.mk.injEq] at h
      obtain ⟨rfl, rfl⟩ := h
      exact ⟨[], rfl, .refl _⟩
  | op o k ih =>
      cases t with
      | nil => cases h
      | cons e t =>
          rw [replay] at h
          split at h
          · -- the recorded operation is the one performed here
            next hop =>
              obtain ⟨op, resp⟩ := e
              subst hop
              obtain ⟨first, rfl, hfirst⟩ := ih resp h
              exact ⟨⟨op, resp⟩ :: first, rfl, .op hfirst⟩
          · cases h
  | diverge => cases h

end Prog

namespace Proc

variable {x : Proc E ε σ α}

/-- A sequence from a state. -/
theorem bind_apply (x : Proc E ε σ α) (f : α → Proc E ε σ β) (s : σ) :
    (x >>= f) s = (x s).bind (andThen f) := rfl

/-- A value in front of a sequence. -/
@[simp] theorem pure_bind (a : α) (f : α → Proc E ε σ β) :
    ((pure a : Proc E ε σ α) >>= f) = f a := rfl

/-- A look at the state in front of a sequence. -/
theorem get_bind_apply (f : σ → Proc E ε σ β) (s : σ) : (get >>= f) s = f s s := rfl

/-- A change of the state in front of a sequence. -/
theorem modify_bind_apply (g : σ → σ) (f : Unit → Proc E ε σ β) (s : σ) :
    (modify g >>= f) s = f () (g s) := rfl

/-- Sequences may be regrouped. -/
theorem bind_assoc (x : Proc E ε σ α) (f : α → Proc E ε σ β) (g : β → Proc E ε σ γ) :
    x >>= f >>= g = x >>= fun a => f a >>= g := by
  funext s
  simp only [bind_apply, Prog.bind_assoc]
  congr 1
  funext out
  obtain ⟨result, s'⟩ := out
  cases result with
  | ok a => rfl
  | error e => rfl

/-- A value behind a sequence. -/
theorem bind_pure (x : Proc E ε σ α) : (x >>= fun a => pure a) = x := by
  funext s
  have hret (out : Except ε α × σ) :
      andThen (fun a => (pure a : Proc E ε σ α)) out = .ret out := by
    obtain ⟨result, s'⟩ := out
    cases result with
    | ok a => rfl
    | error e => rfl
  rw [bind_apply, funext hret]
  induction x s with
  | ret out => rfl
  | op o k ih => exact congrArg (Prog.op o) (funext ih)
  | diverge => rfl

/-- A sequence over the left operations. -/
theorem inl_bind {F : Effect} (x : Proc E ε σ α) (f : α → Proc E ε σ β) :
    (x >>= f).inl (F := F) = x.inl >>= fun a => (f a).inl := by
  funext s
  show ((x s).bind (andThen f)).inl = ((x s).inl).bind (andThen fun a => (f a).inl)
  induction x s with
  | ret out =>
      obtain ⟨result, s'⟩ := out
      cases result with
      | ok a => rfl
      | error e => rfl
  | op o k ih => exact congrArg (Prog.op (E := E.sum F) (Sum.inl o)) (funext fun r => ih r)
  | diverge => rfl

/-- Sequences with the same parts are the same. -/
theorem bind_congr {f g : α → Proc E ε σ β} (h : ∀ a, f a = g a) : x >>= f = x >>= g :=
  congrArg (x >>= ·) (funext h)

end Proc

end Effectful
