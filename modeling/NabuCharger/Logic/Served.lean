import NabuCharger.Logic.Session

/-!
# `Logic.Served`: an environment with a state of its own

`Served R h t h'` says that an environment can have answered the exchanges of `t` from its state
`h`, and is in `h'` afterwards. `R` says how it answers one operation, and it may have a choice.

What a program promises about its operations and what the environment does with them are put
together by `Served.keeps`: an invariant of the environment and a monitor holds at the end of a
trace that meets the monitor, if every single exchange that meets its obligation keeps it.
-/

set_option autoImplicit false

namespace Effectful

variable {E : Effect} {ε σ α ι H : Type} {R : H → (o : E.Op) → E.Resp o → H → Prop}

/-- The environment answers the exchanges of a trace, in order. -/
inductive Served (R : H → (o : E.Op) → E.Resp o → H → Prop) : H → List (Event E) → H → Prop
  | done (h : H) : Served R h [] h
  | step {h h' h'' : H} {e : Event E} {t : List (Event E)} :
      R h e.op e.resp h' → Served R h' t h'' → Served R h (e :: t) h''

namespace Served

/-- Two traces that are served one after the other. -/
theorem append {h h' h'' : H} {t u : List (Event E)} (ht : Served R h t h')
    (hu : Served R h' u h'') : Served R h (t ++ u) h'' := by
  induction ht with
  | done h => exact hu
  | step hstep _ ih => exact .step hstep (ih hu)

/-- A trace of two parts goes through a state between them. -/
theorem append_cases {h h'' : H} {t u : List (Event E)} (htu : Served R h (t ++ u) h'') :
    ∃ h', Served R h t h' ∧ Served R h' u h'' := by
  induction t generalizing h with
  | nil => exact ⟨h, .done h, htu⟩
  | cons e t ih =>
      cases htu with
      | step hstep hrest =>
          obtain ⟨h', ht, hu⟩ := ih hrest
          exact ⟨h', .step hstep ht, hu⟩

/-- The invariant of the environment and the monitor. -/
theorem keeps {M : Machine E} {J : H → M.State → Prop}
    (hJ : ∀ h m o r h', J h m → M.require m o → M.allow m o r → R h o r h' → J h' (M.next m o r))
    {h h' : H} {t : List (Event E)} (hserved : Served R h t h') :
    ∀ m, M.Meets m t → M.Allowed m t → J h m → J h' (M.after m t) := by
  induction hserved with
  | done h => exact fun m _ _ hj => hj
  | @step h h' h'' e t hstep _ ih =>
      intro m hmeets hallow hj
      obtain ⟨hrequire, hrest⟩ := (M.meets_cons m e t).1 hmeets
      exact ih _ (hrest hallow.1) hallow.2 (hJ _ _ _ _ _ hj hrequire hallow.1 hstep)

end Served

/-- An executable environment that answers as `R` says. -/
theorem Prog.served_runWith {env : H → (o : E.Op) → E.Resp o × H}
    (henv : ∀ h o, R h o (env h o).1 (env h o).2) (p : Prog E α) :
    ∀ h, Served R h (p.runWith env h).1 (p.runWith env h).2.1 := by
  induction p with
  | ret a => exact fun h => .done h
  | op o k ih => exact fun h => .step (henv h o) (ih _ _)
  | diverge => exact fun h => .done h

/-- An executable environment serves the session it runs. -/
theorem Session.served_execute {env : H → (o : E.Op) → E.Resp o × H}
    (henv : ∀ h o, R h o (env h o).1 (env h o).2) (x : ι → Proc E ε σ α) (is : List ι) :
    ∀ h s, ∃ h', Served R h (exchanges (Session.execute env x h s is)) h' := by
  induction is with
  | nil => exact fun h s => ⟨h, .done h⟩
  | cons i is ih =>
      intro h s
      have hfirst := Prog.served_runWith henv (x i s) h
      rw [Session.execute]
      -- a call that does not return is the last entry
      cases hout : ((x i s).runWith env h).2.2 with
      | none =>
          rw [exchanges, List.flatMap_cons, List.flatMap_nil, List.append_nil]
          exact ⟨_, hfirst⟩
      | some out =>
          obtain ⟨h', hrest⟩ := ih ((x i s).runWith env h).2.1 out.2
          rw [exchanges, List.flatMap_cons]
          exact ⟨h', hfirst.append hrest⟩

end Effectful
