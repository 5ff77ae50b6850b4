import NabuCharger.Logic.History

/-!
# `Logic.Beside`: the right side of a sum

A program over a sum talks to two parties. `leftEvents` is what it exchanged with the left one,
`rightEvents` with the right one. `Machine.beside` watches the right operations and lets the left
ones pass, as `Machine.alongside` does for the other side.

A program over the left signature makes no exchange on the right
(`Proc.Yields.rightEvents_inl`), and an operation on the right is the whole of what it does
(`Proc.Yields.perform_inr`).
-/

set_option autoImplicit false

namespace Effectful

variable {E F : Effect} {ε σ α β : Type}

/-- The exchanges of the right operations in a trace of a sum. -/
def rightEvents (t : List (Event (E.sum F))) : List (Event F) :=
  t.filterMap fun
    | ⟨.inl _, _⟩ => none
    | ⟨.inr o, r⟩ => some ⟨o, r⟩

/-- Nothing was exchanged on the right. -/
@[simp] theorem rightEvents_nil : rightEvents ([] : List (Event (E.sum F))) = [] := rfl

/-- The right exchanges of two traces one after the other. -/
@[simp] theorem rightEvents_append (t u : List (Event (E.sum F))) :
    rightEvents (t ++ u) = rightEvents t ++ rightEvents u :=
  List.filterMap_append

/-- An exchange on the left is none on the right. -/
@[simp] theorem rightEvents_inl (o : E.Op) (r : E.Resp o) (t : List (Event (E.sum F))) :
    rightEvents (⟨.inl o, r⟩ :: t) = rightEvents t := rfl

/-- An exchange on the right comes before those behind it. -/
@[simp] theorem rightEvents_inr (o : F.Op) (r : F.Resp o) (t : List (Event (E.sum F))) :
    rightEvents (⟨.inr o, r⟩ :: t) = ⟨o, r⟩ :: rightEvents t := rfl

namespace Machine

/-- The monitor of a sum that watches the right operations through `M` and lets the left ones
pass. -/
def beside (E : Effect) (M : Machine F) : Machine (E.sum F) where
  State := M.State
  allow m
    | .inl _ => fun _ => True
    | .inr o => M.allow m o
  require m
    | .inl _ => True
    | .inr o => M.require m o
  next m
    | .inl _ => fun _ => m
    | .inr o => M.next m o

variable {M : Machine F} {t : List (Event (E.sum F))}

/-- A monitor beside others is where the right exchanges lead it. -/
theorem after_beside : ∀ m : M.State, (M.beside E).after m t = M.after m (rightEvents t) := by
  induction t with
  | nil => exact fun _ => rfl
  | cons e t ih =>
      obtain ⟨o, r⟩ := e
      cases o with
      | inl o => exact fun m => ih m
      | inr o => exact fun m => ih (M.next m o r)

/-- It allows what it allows of these. -/
theorem allowed_beside : ∀ {m : M.State},
    (M.beside E).Allowed m t ↔ M.Allowed m (rightEvents t) := by
  induction t with
  | nil => exact Iff.rfl
  | cons e t ih =>
      obtain ⟨o, r⟩ := e
      cases o with
      -- an exchange of the other side is always allowed
      | inl o =>
          intro m
          constructor
          · intro h
            exact (ih (m := m)).1 h.2
          · intro h
            exact ⟨trivial, (ih (m := m)).2 h⟩
      | inr o =>
          intro m
          exact and_congr_right fun _ => ih (m := M.next m o r)

/-- What is required of it there is required here. -/
theorem Meets.of_beside : ∀ {m : M.State}, (M.beside E).Meets m t →
    M.Meets m (rightEvents t) := by
  induction t with
  | nil => exact fun {m} _ => M.meets_nil m
  | cons e t ih =>
      obtain ⟨o, r⟩ := e
      intro m h
      have hstep := ((M.beside E).meets_cons m _ t).1 h
      cases o with
      | inl o => exact ih (m := m) (hstep.2 trivial)
      | inr o => exact (M.meets_cons m _ _).2 ⟨hstep.1, fun hr => ih (hstep.2 hr)⟩

end Machine

/-- What every step keeps that meets its obligation and gets an allowed answer. -/
theorem Machine.Meets.keeps {M : Machine E} {J : M.State → Prop}
    (hstep : ∀ m o r, J m → M.require m o → M.allow m o r → J (M.next m o r))
    {t : List (Event E)} {m : M.State} (h : M.Meets m t) (hallow : M.Allowed m t) (hm : J m) :
    J (M.after m t) := by
  induction t generalizing m with
  | nil => exact hm
  | cons e t ih =>
      obtain ⟨hrequire, hrest⟩ := (M.meets_cons m e t).1 h
      exact ih (hrest hallow.1) hallow.2 (hstep m e.op e.resp hm hrequire hallow.1)

/-- A run, with its result mapped. -/
theorem Prog.Yields.map {p : Prog E α} {t : List (Event E)} {a : α} (h : Prog.Yields p t a)
    (f : α → β) : Prog.Yields (p.map f) t (f a) := by
  induction p generalizing t with
  | ret b =>
      cases h with
      | refl => exact .refl _
  | op o k ih =>
      cases h with
      | op hrest => exact .op (ih _ hrest)
  | diverge => nomatch h

/-- The left side of a sum is free under a monitor of the right one. -/
theorem Proc.wp_inl_beside {M : Machine F} {x : Proc E ε σ α}
    {Q : Except ε α → σ → M.State → Prop} {s : σ} {m : M.State} (h : ∀ r s', Q r s' m) :
    (x.inl (F := F)).wp (M.beside E) Q s m := by
  refine (Proc.wp_inl s (M.beside E) x Q m).2 ?_
  have hdeaf : (x s).wp (M.beside E).onLeft (fun _ m' => m' = m) m :=
    Prog.wp_deaf (N := (M.beside E).onLeft) (fun _ _ => trivial) (fun _ _ _ => rfl) (x s) m
  unfold Proc.wp
  refine Prog.wp_mono hdeaf fun out m' hm => ?_
  subst hm
  exact h out.1 out.2

namespace Proc.Yields

variable {s s' : σ} {t : List (Event (E.sum F))}

/-- A run whose result is dropped. -/
theorem discard {x : Proc E ε σ α} {t : List (Event E)} {out : Except ε α} {ε' : Type}
    (h : x.Yields s t out s') :
    (Proc.discard x : Proc E ε' σ Unit).Yields s t (.ok ()) s' :=
  Prog.Yields.map (a := (out, s')) h fun ended => ((.ok () : Except ε' Unit), ended.2)

/-- A program over the left signature makes no exchange on the right. -/
theorem rightEvents_inl {x : Proc E ε σ α} {r : Except ε α}
    (h : (x.inl (F := F)).Yields s t r s') : rightEvents t = [] := by
  -- by induction on the program: every operation is one of the left side
  have hprog : ∀ {γ : Type} {p : Prog E γ} {c : γ} {t : List (Event (E.sum F))},
      Prog.Yields (p.inl (F := F)) t c → rightEvents t = [] := by
    intro γ p
    induction p with
    | ret a =>
        intro c t h
        cases h with
        | refl => rfl
    | op o k ih =>
        intro c t h
        cases h with
        | @op _ _ r rest _ hrest =>
            show rightEvents rest = []
            exact ih r hrest
    | diverge =>
        intro c t h
        nomatch h
  exact hprog h

/-- An operation on the right, first. -/
theorem inr_bind {o : F.Op} {f : F.Resp o → Proc (E.sum F) ε σ β} {r : Except ε β}
    (h : ((Proc.perform (E := E.sum F) (Sum.inr o) : Proc (E.sum F) ε σ (F.Resp o)) >>= f).Yields
      s t r s') :
    ∃ answer rest, leftEvents t = leftEvents rest ∧
      rightEvents t = ⟨o, answer⟩ :: rightEvents rest ∧ (f answer).Yields s rest r s' := by
  obtain ⟨answer, rest, rfl, hrest⟩ := perform_bind h
  exact ⟨answer, rest, rfl, rfl, hrest⟩

/-- An operation on the right, alone. -/
theorem perform_inr {o : F.Op} {r : Except ε (F.Resp o)}
    (h : (Proc.perform (E := E.sum F) (Sum.inr o) : Proc (E.sum F) ε σ (F.Resp o)).Yields
      s t r s') :
    ∃ answer, leftEvents t = [] ∧ rightEvents t = [⟨o, answer⟩] ∧ r = .ok answer ∧ s' = s := by
  obtain ⟨answer, rfl, hr, hs⟩ := h.perform_cases
  exact ⟨answer, rfl, rfl, hr, hs⟩

/-- A program over the left signature, first. It cannot fail where it has no failure. -/
theorem inl_bind {x : Proc E Empty σ α} {f : α → Proc (E.sum F) Empty σ β} {r : Except Empty β}
    (h : (x.inl (F := F) >>= f).Yields s t r s') :
    ∃ (t₁ rest : List (Event (E.sum F))) (a : α) (s₁ : σ),
      leftEvents t = leftEvents t₁ ++ leftEvents rest ∧
      rightEvents t = rightEvents rest ∧ x.Yields s (leftEvents t₁) (.ok a) s₁ ∧
      (f a).Yields s₁ rest r s' := by
  obtain ⟨t₁, rest, a, s₁, rfl, hx, hf⟩ | ⟨e, _, _⟩ := h.bind_cases
  · refine ⟨t₁, rest, a, s₁, leftEvents_append .., ?_, hx.inl_cases, hf⟩
    rw [rightEvents_append, hx.rightEvents_inl, List.nil_append]
  · exact e.elim

end Proc.Yields

end Effectful
