import NabuCharger.Logic.Session

/-!
# `Logic.Verdict`: what a monitor says of a trace, and what it depends on

A monitor asks, and a program that satisfies the precondition answers. Some statements are
about the verdict itself: *the obligations are met exactly if every answer was a good one*.
`Machine.verdict M A` keeps both sides, whether the obligations of `M` were met and whether every
exchange was as `A` says (`verdict_after`), so that an equivalence of the two is an invariant
like any other. It asks for the obligations of `M` as long as the exchanges were good, which is
the half that also holds of a run cut short.

`Machine.assuming M A` is `M` with `A` as its assumption on the answers. What is proved under
it holds of `M` on every trace that `A` is true of (`Machine.Meets.of_assuming`).
-/

set_option autoImplicit false

namespace Effectful

variable {E : Effect} {ε σ α ι : Type}

namespace Machine

/-- `M`, with `A` assumed of every answer. -/
def assuming (M : Machine E) (A : (o : E.Op) → E.Resp o → Prop) : Machine E where
  State := M.State
  allow m o r := M.allow m o r ∧ A o r
  require := M.require
  next := M.next

/-- What is met under an assumption is met when the assumption holds. -/
theorem Meets.of_assuming {M : Machine E} {A : (o : E.Op) → E.Resp o → Prop} {m : M.State}
    {t : List (Event E)} (h : (M.assuming A).Meets m t) (hA : ∀ e ∈ t, A e.op e.resp) :
    M.Meets m t := by
  induction t generalizing m with
  | nil => exact M.meets_nil m
  | cons e t ih =>
      obtain ⟨hreq, hnext⟩ := ((M.assuming A).meets_cons m e t).1 h
      refine (M.meets_cons m e t).2 ⟨hreq, fun hallow => ?_⟩
      have hrest := hnext ⟨hallow, hA e (List.mem_cons_self ..)⟩
      exact ih hrest fun e' he' => hA e' (List.mem_cons_of_mem _ he')

/-- The monitor that notes whether the obligations of `M` were met and whether every exchange was
as `A` says, and asks for the first as long as the second holds. -/
def verdict (M : Machine E) (A : (o : E.Op) → E.Resp o → Prop) : Machine E where
  State := M.State × Prop × Prop
  allow _ _ _ := True
  require m o := m.2.2 → M.require m.1 o
  next m o r := (M.next m.1 o r, m.2.1 ∧ M.require m.1 o, m.2.2 ∧ A o r)

variable {M : Machine E} {A : (o : E.Op) → E.Resp o → Prop}

/-- Nothing violated and nothing seen yet. -/
def verdictFrom (M : Machine E) (A : (o : E.Op) → E.Resp o → Prop) (m : M.State) :
    (M.verdict A).State :=
  (m, True, True)

/-- A verdict is given on every trace. -/
theorem allowed_verdict (t : List (Event E)) :
    ∀ m : (M.verdict A).State, (M.verdict A).Allowed m t :=
  allowed_of_trusting _ (fun _ _ _ => trivial) t

/-- What is noted, for a monitor that assumes nothing. -/
theorem verdict_after (hM : ∀ m o r, M.allow m o r) (t : List (Event E)) :
    ∀ m : (M.verdict A).State, (M.verdict A).after m t =
      (M.after m.1 t, (m.2.1 ∧ M.Meets m.1 t), (m.2.2 ∧ ∀ e ∈ t, A e.op e.resp)) := by
  induction t with
  | nil =>
      intro m
      have hmet : (m.2.1 ∧ M.Meets m.1 []) = m.2.1 := by
        rw [eq_true (M.meets_nil m.1), and_true]
      have hgood : (m.2.2 ∧ ∀ e ∈ ([] : List (Event E)), A e.op e.resp) = m.2.2 := by simp
      rw [after_nil, after_nil, hmet, hgood]
      rfl
  | cons e t ih =>
      intro m
      -- the verdict on the rest starts from what the first exchange left
      have hmet : (m.2.1 ∧ M.Meets m.1 (e :: t)) =
          ((m.2.1 ∧ M.require m.1 e.op) ∧ M.Meets (M.next m.1 e.op e.resp) t) := by
        rw [propext (M.meets_cons m.1 e t), forall_prop_of_true (hM m.1 e.op e.resp), and_assoc]
      have hgood : (m.2.2 ∧ ∀ e' ∈ e :: t, A e'.op e'.resp) =
          ((m.2.2 ∧ A e.op e.resp) ∧ ∀ e' ∈ t, A e'.op e'.resp) := by
        rw [List.forall_mem_cons, and_assoc]
      rw [after_cons, after_cons, hmet, hgood]
      exact ih ((M.verdict A).next m e.op e.resp)

/-- A trace of good exchanges meets the obligations, cut short or not. -/
theorem Meets.of_verdict {t : List (Event E)} :
    ∀ {m : (M.verdict A).State}, (M.verdict A).Meets m t → m.2.2 →
      (∀ e ∈ t, A e.op e.resp) → M.Meets m.1 t := by
  induction t with
  | nil => exact fun {m} _ _ _ => M.meets_nil m.1
  | cons e t ih =>
      intro m h hgood hA
      obtain ⟨hreq, hnext⟩ := ((M.verdict A).meets_cons m e t).1 h
      have he : A e.op e.resp := hA e (List.mem_cons_self ..)
      refine (M.meets_cons m.1 e t).2 ⟨hreq hgood, fun _ => ?_⟩
      exact ih (hnext trivial) ⟨hgood, he⟩ fun e' he' => hA e' (List.mem_cons_of_mem _ he')

end Machine

section
variable {M : Machine E} {A : (o : E.Op) → E.Resp o → Prop} {x : ι → Proc E ε σ α}
  {I : σ → M.State → Prop}

/-- The invariant of programs that keep the verdict and the condition together, with `I` for as
long as the condition holds. -/
def Together (M : Machine E) (A : (o : E.Op) → E.Resp o → Prop) (I : σ → M.State → Prop) (s : σ)
    (m : (M.verdict A).State) : Prop :=
  (m.2.1 ↔ m.2.2) ∧ (m.2.2 → I s m.1)

/-- At the start nothing was judged. -/
theorem Together.start {s : σ} {m : M.State} (hs : I s m) :
    Together M A I s (M.verdictFrom A m) :=
  ⟨Iff.rfl, fun _ => hs⟩

/-- At any point of a run whose exchanges are all good, the obligations have been met. -/
theorem Session.meets_of_good (hx : ∀ i, Proc.Keeps (M.verdict A) (Together M A I) (x i))
    {s : σ} {log : List (Entry E σ ι)} (h : Session x s log) {m : M.State} (hs : I s m)
    (hgood : ∀ e ∈ exchanges log, A e.op e.resp) : M.Meets m (exchanges log) :=
  (h.meets hx _ (Together.start hs)).of_verdict trivial hgood

/-- Over a complete run, the obligations are met exactly if every exchange is good. -/
theorem Run.meets_iff (hM : ∀ m o r, M.allow m o r)
    (hx : ∀ i, Proc.Keeps (M.verdict A) (Together M A I) (x i)) {s s' : σ}
    {log : List (Entry E σ ι)} (h : Run x s log s') {m : M.State} (hs : I s m) :
    M.Meets m (exchanges log) ↔ ∀ e ∈ exchanges log, A e.op e.resp := by
  have hend := h.keeps hx _ (Together.start hs) (Machine.allowed_verdict _ _)
  rw [Together, Machine.verdict_after hM] at hend
  simpa only [Machine.verdictFrom, true_and] using hend.1

end

end Effectful
