import NabuCharger.Logic.Session

/-!
# `Logic.Returns`: programs that return

A monitor asks nothing of a loop that was given up on: the precondition of `diverge` is true.
`Prog.Returns` says that a program has no such leaf, so it returns whatever the answers are.
Against an environment that simulates a monitor it then has a complete allowed trace
(`Prog.Returns.exists_yields`), which is what a statement that something *does* happen needs.
Programs that return make a run of any number of calls (`Run.of_returns`).
-/

set_option autoImplicit false

namespace Effectful

variable {E F : Effect} {α β : Type}

namespace Prog

/-- No path of the program is given up on. -/
def Returns : Prog E α → Prop
  | .ret _ => True
  | .op _ k => ∀ r, (k r).Returns
  | .diverge => False

/-- A sequence of programs that return. -/
theorem Returns.bind {p : Prog E α} {f : α → Prog E β} (hp : p.Returns)
    (hf : ∀ a, (f a).Returns) : (p.bind f).Returns := by
  induction p with
  | ret a => exact hf a
  | op o k ih => exact fun r => ih r (hp r)
  | diverge => exact hp.elim

/-- The second part of a sequence may rely on what the first can end in. -/
theorem Returns.bind_yields {p : Prog E α} {f : α → Prog E β} (hp : p.Returns)
    (hf : ∀ t a, Yields p t a → (f a).Returns) : (p.bind f).Returns := by
  induction p with
  | ret a => exact hf [] a (.refl _)
  | op o k ih => exact fun r => ih r (hp r) fun t a h => hf _ a (.op h)
  | diverge => exact hp.elim

/-- A map returns what it is made of. -/
theorem Returns.map {p : Prog E α} (hp : p.Returns) (f : α → β) : (p.map f).Returns := by
  induction p with
  | ret a => trivial
  | op o k ih => exact fun r => ih r (hp r)
  | diverge => exact hp.elim

/-- A run against an executable environment ends in a result. -/
theorem Returns.runWith {p : Prog E α} (hp : p.Returns) {H : Type}
    (env : H → (o : E.Op) → E.Resp o × H) : ∀ h, ∃ a, (p.runWith env h).2.2 = some a := by
  induction p with
  | ret a => exact fun h => ⟨a, rfl⟩
  | op o k ih => exact fun h => ih (env h o).1 (hp _) (env h o).2
  | diverge => exact hp.elim

/-- Against an environment that simulates a monitor, by `R`, the program makes a complete
allowed trace. -/
theorem Returns.exists_yields {p : Prog E α} (hp : p.Returns) {M : Machine E} {H : Type}
    {env : H → (o : E.Op) → E.Resp o × H} {R : H → M.State → Prop}
    (hR : ∀ h m o, R h m →
      M.allow m o (env h o).1 ∧ R (env h o).2 (M.next m o (env h o).1))
    {h : H} {m : M.State} (hm : R h m) :
    ∃ t a, Yields p t a ∧ M.Allowed m t := by
  obtain ⟨a, ha⟩ := hp.runWith env h
  exact ⟨_, a, yields_runWith env p h a ha, (allowed_runWith hR p h m hm).1⟩

end Prog

namespace Proc

variable {ε ε' σ : Type} {x : Proc E ε σ α}

/-- From every state, the program returns. -/
structure Returns (x : Proc E ε σ α) : Prop where
  run : ∀ s, (x s).Returns

namespace Returns

/-- A value returns. -/
theorem pure (a : α) : Returns (Pure.pure a : Proc E ε σ α) := ⟨fun _ => trivial⟩

/-- A look at the state returns. -/
theorem get : Returns (Proc.get : Proc E ε σ σ) := ⟨fun _ => trivial⟩

/-- A failure returns. -/
theorem fail (e : ε) : Returns (Proc.fail e : Proc E ε σ α) := ⟨fun _ => trivial⟩

/-- A change of the state returns. -/
theorem modify (f : σ → σ) : Returns (Proc.modify f : Proc E ε σ Unit) := ⟨fun _ => trivial⟩

/-- An operation returns. -/
theorem perform (o : E.Op) : Returns (Proc.perform o : Proc E ε σ (E.Resp o)) :=
  ⟨fun _ _ => trivial⟩

/-- A sequence of programs that return. -/
theorem bind {f : α → Proc E ε σ β} (hx : Returns x) (hf : ∀ a, Returns (f a)) :
    Returns (x >>= f) := by
  refine ⟨fun s => (hx.run s).bind fun out => ?_⟩
  obtain ⟨result, s'⟩ := out
  cases result with
  | ok a => exact (hf a).run s'
  | error e => trivial

/-- An attempt returns. -/
theorem attempt (hx : Returns x) : Returns (Proc.attempt x : Proc E ε' σ (Except ε α)) :=
  ⟨fun s => (hx.run s).map _⟩

/-- A program whose result is dropped returns. -/
theorem discard (hx : Returns x) : Returns (Proc.discard x : Proc E ε' σ Unit) :=
  ⟨fun s => (hx.run s).map _⟩

/-- So does one with a value to fall back on. -/
theorem unwrapOr (hx : Returns x) (d : α) : Returns (Proc.unwrapOr x d : Proc E ε' σ α) :=
  ⟨fun s => (hx.run s).map _⟩

/-- A choice between two programs that return. -/
theorem ite {c : Prop} [Decidable c] {y : Proc E ε σ α} (hx : Returns x) (hy : Returns y) :
    Returns (if c then x else y) := by
  split
  · exact hx
  · exact hy

/-- A program that is run on a condition. -/
theorem when {x : Proc E ε σ Unit} (c : Bool) (hx : Returns x) : Returns (Proc.when c x) :=
  ite hx (pure ())

end Returns

end Proc

/-- Programs that return make a run of as many calls as one likes: the log against an executable
environment has an entry for each of them. -/
theorem Run.of_returns {ε σ ι H : Type} {x : ι → Proc E ε σ α} (hx : ∀ i, Proc.Returns (x i))
    (env : H → (o : E.Op) → E.Resp o × H) (is : List ι) :
    ∀ h s, (∃ s', Run x s (Session.execute env x h s is) s') ∧
      (Session.execute env x h s is).map Entry.op = is := by
  induction is with
  | nil => exact fun h s => ⟨⟨s, .done s⟩, rfl⟩
  | cons i is ih =>
      intro h s
      obtain ⟨out, hout⟩ := ((hx i).run s).runWith env h
      obtain ⟨⟨s', hrest⟩, hops⟩ := ih ((x i s).runWith env h).2.1 out.2
      rw [Session.execute, hout]
      exact ⟨⟨s', .step (Prog.yields_runWith env (x i s) h out hout) hrest⟩,
        congrArg (List.cons i) hops⟩

end Effectful
