import NabuCharger.Logic.History

/-!
# `Logic.Carried`: a session of programs that do the same

Two programs may make the same exchanges and leave the same states, and differ in the value they
return, or in something the second one does first. `Carries` says so of two families of programs,
and then a session of the first is a session of the second (`Carries.session`).
-/

set_option autoImplicit false

namespace Effectful

variable {E : Effect} {ε ε' σ α β γ ι κ : Type} {s s' : σ} {t : List (Event E)}

/-! ### Programs up to their value -/

/-- A sequence begins with its first part. -/
theorem Prog.Steps.bind {p q : Prog E α} (h : Prog.Steps p t q) (f : α → Prog E β) :
    Prog.Steps (p.bind f) t (q.bind f) := by
  induction h with
  | refl p => exact .refl _
  | op _ ih => exact .op ih

/-- What follows is only a return, so the first part made all exchanges. -/
theorem Prog.Steps.of_bind_ret {p : Prog E α} {f : α → Prog E β} (hf : ∀ a, ∃ b, f a = .ret b)
    {q : Prog E β} (h : Prog.Steps (p.bind f) t q) : ∃ q', Prog.Steps p t q' := by
  induction p generalizing t with
  | ret a =>
      obtain ⟨b, hb⟩ := hf a
      -- the continuation returns at once, so nothing was performed after the value
      have hret : Prog.Steps (f a) t q := h
      rw [hb] at hret
      cases hret
      exact ⟨_, .refl _⟩
  | op o k ih =>
      cases h with
      | refl => exact ⟨_, .refl _⟩
      | op hrest =>
          obtain ⟨q', hq'⟩ := ih _ hrest
          exact ⟨q', .op hq'⟩
  | diverge =>
      cases h
      exact ⟨_, .refl _⟩

namespace Proc

/-- A value at the end decides the result, not the state. -/
theorem andThen_pure (c : β) (out : Except ε α × σ) :
    ∃ r : Except ε β, andThen (fun _ => (pure c : Proc E ε σ β)) out = .ret (r, out.2) := by
  obtain ⟨result, s⟩ := out
  cases result with
  | ok a => exact ⟨.ok c, rfl⟩
  | error e => exact ⟨.error e, rfl⟩

/-- A program that returns `c` instead makes the exchanges of the program. -/
theorem steps_of_bind_pure {x : Proc E ε σ α} {c : β} {q : Prog E (Except ε β × σ)}
    (h : Prog.Steps ((x >>= fun _ => (pure c : Proc E ε σ β)) s) t q) :
    ∃ q', Prog.Steps (x s) t q' := by
  refine Prog.Steps.of_bind_ret (fun out => ?_) h
  obtain ⟨r, hr⟩ := andThen_pure (E := E) c out
  exact ⟨(r, out.2), hr⟩

/-- And it leaves the same state. -/
theorem Yields.of_bind_pure {x : Proc E ε σ α} {c : β} {r : Except ε β}
    (h : (x >>= fun _ => (pure c : Proc E ε σ β)).Yields s t r s') :
    ∃ r', x.Yields s t r' s' := by
  obtain ⟨t₁, t₂, a, s₁, rfl, hx, hrest⟩ | ⟨e, _, hx⟩ := h.bind_cases
  · obtain ⟨rfl, _, rfl⟩ := hrest.pure_cases
    rw [List.append_nil]
    exact ⟨.ok a, hx⟩
  · exact ⟨.error e, hx⟩

/-- The program makes the exchanges of one that returns `c` instead. -/
theorem Yields.bind_pure {x : Proc E ε σ α} {r : Except ε α} (h : x.Yields s t r s') (c : β) :
    ∃ r', (x >>= fun _ => (pure c : Proc E ε σ β)).Yields s t r' s' := by
  obtain ⟨r', hr'⟩ := andThen_pure (E := E) c (r, s')
  refine ⟨r', ?_⟩
  have hbind := Prog.Steps.bind h (andThen fun _ => (pure c : Proc E ε σ β))
  have hlast : (Prog.ret (r, s')).bind (andThen fun _ => (pure c : Proc E ε σ β)) =
      .ret (r', s') := hr'
  rw [hlast] at hbind
  exact hbind

end Proc

/-! ### Sessions -/

/-- The program `y (g i)` does `pre i` first, and then what `x i` does. -/
structure Carries (x : ι → Proc E ε σ α) (y : κ → Proc E ε' σ γ) (g : ι → κ)
    (pre : ι → List (Event E)) : Prop where
  steps : ∀ i s t p, Prog.Steps (x i s) t p → ∃ q, Prog.Steps (y (g i) s) (pre i ++ t) q
  yields : ∀ i s t r s', (x i).Yields s t r s' → ∃ r', (y (g i)).Yields s (pre i ++ t) r' s'

/-- An entry of the first family, as one of the second. -/
def Entry.carry (g : ι → κ) (pre : ι → List (Event E)) (entry : Entry E σ ι) : Entry E σ κ :=
  ⟨entry.start, g entry.op, pre entry.op ++ entry.trace⟩

namespace Carries

variable {x : ι → Proc E ε σ α} {y : κ → Proc E ε' σ γ} {g : ι → κ} {pre : ι → List (Event E)}
  {log : List (Entry E σ ι)}

/-- A session of the first family is one of the second. -/
theorem session (hc : Carries x y g pre) (h : Session x s log) :
    Session y s (log.map (Entry.carry g pre)) := by
  induction h with
  | done s => exact .done s
  | @step s i t out log hstep _ ih =>
      obtain ⟨r', hyields⟩ := hc.yields _ _ _ out.1 out.2 hstep
      exact .step hyields ih
  | cut hcut =>
      obtain ⟨q, hsteps⟩ := hc.steps _ _ _ _ hcut
      exact .cut hsteps

/-- So is a run. -/
theorem run (hc : Carries x y g pre) (h : Run x s log s') :
    Run y s (log.map (Entry.carry g pre)) s' := by
  induction h with
  | done s => exact .done s
  | @step s s' i t out log hstep _ ih =>
      obtain ⟨r', hyields⟩ := hc.yields _ _ _ out.1 out.2 hstep
      exact .step hyields ih

end Carries

end Effectful
