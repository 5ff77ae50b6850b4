import NabuCharger.Logic.Laws

/-!
# `Logic.Fork`: two runs that part

Two runs of one program, from two states, against one environment. A program that does not
look at what the states differ in makes the same exchanges in both (`Proc.Blind`). Any other
one may part: `Prog.Forks` says that on every path of answers the two trees agree up to their
leaves, or up to a point from which the second one is bound to issue an operation of `w`
(`Prog.Comes`).

A ghost `τ` collects the answers of the common path by `next`. What is known of it where the
two part is `S`. So against one environment either both runs are one, or `S` holds and the
second one shows an operation of `w` (`Prog.Forks.runWith`). No path of a related pair is
given up on before the two part.
-/

set_option autoImplicit false

namespace Effectful

variable {E : Effect} {α β γ δ σ ε ε' τ : Type}

namespace Proc

variable {x : Proc E ε σ α}

/-! ### Blind programs -/

/-- `x` does not look at what `f` changes of the state, and leaves it as it is. -/
def Blind (f : σ → σ) (x : Proc E ε σ α) : Prop :=
  ∀ s, x (f s) = (x s).map fun out => (out.1, f out.2)

namespace Blind

variable {f : σ → σ}

/-- A value looks at nothing. -/
theorem pure (a : α) : Blind f (Pure.pure a : Proc E ε σ α) := fun _ => rfl

/-- A failure looks at nothing. -/
theorem fail (e : ε) : Blind f (Proc.fail e : Proc E ε σ α) := fun _ => rfl

/-- A program that never returns looks at nothing. -/
theorem diverge : Blind f (Proc.diverge : Proc E ε σ α) := fun _ => rfl

/-- An operation does not look at the state. -/
theorem perform (o : E.Op) : Blind f (Proc.perform o : Proc E ε σ (E.Resp o)) := fun _ => rfl

/-- A change of the state that goes together with `f`. -/
theorem modify {g : σ → σ} (h : ∀ s, g (f s) = f (g s)) :
    Blind f (Proc.modify g : Proc E ε σ Unit) := by
  intro s
  show Prog.ret (Except.ok (), g (f s)) = .ret (.ok (), f (g s))
  rw [h]

/-- A program may read what `f` leaves alone. -/
theorem get_bind {g : σ → Proc E ε σ α} (hsame : ∀ s, g (f s) = g s)
    (h : ∀ s, Blind f (g s)) : Blind f (Proc.get >>= g) := by
  intro s
  show g (f s) (f s) = _
  rw [hsame]
  exact h s s

/-- A sequence of two blind programs. -/
theorem bind {g : α → Proc E ε σ β} (hx : Blind f x) (hg : ∀ a, Blind f (g a)) :
    Blind f (x >>= g) := by
  intro s
  rw [bind_apply, bind_apply, hx s, Prog.map_bind, Prog.bind_map]
  congr 1
  funext out
  obtain ⟨result, s'⟩ := out
  cases result with
  | ok a => exact hg a s'
  | error e => rfl

/-- An attempt looks at nothing its program does not. -/
theorem attempt (hx : Blind f x) : Blind f (Proc.attempt x : Proc E ε' σ (Except ε α)) := by
  intro s
  show (x (f s)).map _ = ((x s).map _).map _
  rw [hx s, Prog.map_map, Prog.map_map]

/-- Dropping a result looks at nothing. -/
theorem discard (hx : Blind f x) : Blind f (Proc.discard x : Proc E ε' σ Unit) := by
  intro s
  show (x (f s)).map _ = ((x s).map _).map _
  rw [hx s, Prog.map_map, Prog.map_map]

/-- A value to fall back on looks at nothing. -/
theorem unwrapOr (hx : Blind f x) (d : α) :
    Blind f (Proc.unwrapOr x d : Proc E ε' σ α) := by
  intro s
  show (x (f s)).map _ = ((x s).map _).map _
  rw [hx s, Prog.map_map, Prog.map_map]

/-- Both runs make the same exchanges, and leave states that `f` relates. -/
theorem runWith (hx : Blind f x) {H : Type} (env : H → (o : E.Op) → E.Resp o × H) (h : H)
    (s : σ) : (x (f s)).runWith env h =
      (((x s).runWith env h).1, ((x s).runWith env h).2.1,
        ((x s).runWith env h).2.2.map fun out => (out.1, f out.2)) := by
  rw [hx s, Prog.runWith_map]

end Blind

end Proc

/-! ### Operations a program is bound to issue -/

namespace Prog

/-- Whatever the answers are, the program comes to an operation of `w`. -/
inductive Comes (w : E.Op → Prop) : Prog E α → Prop
  | now {o : E.Op} {k : E.Resp o → Prog E α} : w o → Comes w (.op o k)
  | later {o : E.Op} {k : E.Resp o → Prog E α} : (∀ r, Comes w (k r)) → Comes w (.op o k)

variable {w : E.Op → Prop} {p : Prog E α}

/-- What comes to an operation does so whatever follows. -/
theorem Comes.bind (h : Comes w p) (f : α → Prog E β) : Comes w (p.bind f) := by
  induction h with
  | now ho => exact .now ho
  | later _ ih => exact .later ih

/-- A change of the result comes too late. -/
theorem Comes.map (h : Comes w p) (f : α → β) : Comes w (p.map f) := by
  rw [map_eq_bind]
  exact h.bind _

/-- Against an executable environment, the operation is in the trace. -/
theorem Comes.runWith (hp : Comes w p) {H : Type} (env : H → (o : E.Op) → E.Resp o × H) :
    ∀ h, ∃ e ∈ (p.runWith env h).1, w e.op := by
  induction hp with
  | now ho => exact fun h => ⟨_, List.mem_cons_self .., ho⟩
  | later _ ih =>
      intro h
      obtain ⟨e, he, hw⟩ := ih _ (env h _).2
      exact ⟨e, List.mem_cons_of_mem _ he, hw⟩

/-! ### Two trees that part -/

/-- The two trees agree up to leaves with `R`, or up to a point with `S` from which the second
comes to an operation of `w`. The ghost is carried along by `next`. -/
inductive Forks (next : τ → (o : E.Op) → E.Resp o → τ) (w : E.Op → Prop) (S : τ → Prop)
    (R : τ → α → β → Prop) : τ → Prog E α → Prog E β → Prop
  | apart {m : τ} {p : Prog E α} {q : Prog E β} : S m → q.Comes w → Forks next w S R m p q
  | op {m : τ} {o : E.Op} {k : E.Resp o → Prog E α} {k' : E.Resp o → Prog E β} :
      (∀ r, Forks next w S R (next m o r) (k r) (k' r)) →
      Forks next w S R m (.op o k) (.op o k')
  | ret {m : τ} {a : α} {b : β} : R m a b → Forks next w S R m (.ret a) (.ret b)

variable {next : τ → (o : E.Op) → E.Resp o → τ} {S : τ → Prop} {R : τ → α → β → Prop}
  {m : τ} {q : Prog E β}

/-- The rule of consequence. -/
theorem Forks.mono {Q : τ → α → β → Prop} (h : Forks next w S R m p q)
    (hRQ : ∀ m a b, R m a b → Q m a b) : Forks next w S Q m p q := by
  induction h with
  | apart hS hq => exact .apart hS hq
  | op _ ih => exact .op ih
  | ret hR => exact .ret (hRQ _ _ _ hR)

/-- Sequencing: what follows is related at every pair of leaves. -/
theorem Forks.bind {Q : τ → γ → δ → Prop} {f : α → Prog E γ} {g : β → Prog E δ}
    (h : Forks next w S R m p q)
    (hfg : ∀ m a b, R m a b → Forks next w S Q m (f a) (g b)) :
    Forks next w S Q m (p.bind f) (q.bind g) := by
  induction h with
  | apart hS hq => exact .apart hS (hq.bind g)
  | op _ ih => exact .op ih
  | ret hR => exact hfg _ _ _ hR

/-- The two results may be changed, if `Q` holds of what they become. -/
theorem Forks.map {Q : τ → γ → δ → Prop} {f : α → γ} {g : β → δ}
    (h : Forks next w S R m p q) (hfg : ∀ m a b, R m a b → Q m (f a) (g b)) :
    Forks next w S Q m (p.map f) (q.map g) := by
  rw [map_eq_bind, map_eq_bind]
  exact h.bind fun m a b hR => .ret (hfg m a b hR)

/-- The ghost after the exchanges of `t`. -/
def ghost (next : τ → (o : E.Op) → E.Resp o → τ) (m : τ) (t : List (Event E)) : τ :=
  t.foldl (fun m e => next m e.op e.resp) m

/-- Against one environment: both runs are one, or the second shows an operation of `w`. What
is known where they part stays known. -/
theorem Forks.runWith (hS : ∀ m o r, S m → S (next m o r)) {H : Type}
    (env : H → (o : E.Op) → E.Resp o × H) (hpq : Forks next w S R m p q) : ∀ h,
    (S (ghost next m (q.runWith env h).1) ∧ ∃ e ∈ (q.runWith env h).1, w e.op) ∨
      ((p.runWith env h).1 = (q.runWith env h).1 ∧
        (p.runWith env h).2.1 = (q.runWith env h).2.1 ∧
        ∃ a b, (p.runWith env h).2.2 = some a ∧ (q.runWith env h).2.2 = some b ∧
          R (ghost next m (q.runWith env h).1) a b) := by
  -- once the sides are apart they stay so
  have hlater : ∀ (t : List (Event E)) m, S m → S (ghost next m t) := by
    intro t
    induction t with
    | nil => exact fun m h => h
    | cons e t ih => exact fun m h => ih _ (hS m e.op e.resp h)
  induction hpq with
  | apart h hq => exact fun _ => .inl ⟨hlater _ _ h, hq.runWith env _⟩
  | op _ ih =>
      intro h
      rcases ih _ (env h _).2 with ⟨hS', e, he, hw⟩ | ⟨ht, hh, hab⟩
      · exact .inl ⟨hS', e, List.mem_cons_of_mem _ he, hw⟩
      · exact .inr ⟨congrArg _ ht, hh, hab⟩
  | ret hR => exact fun _ => .inr ⟨rfl, rfl, _, _, rfl, rfl, hR⟩

end Prog

/-! ### Two runs of one program -/

namespace Proc

variable {next : τ → (o : E.Op) → E.Resp o → τ} {w : E.Op → Prop} {S : τ → Prop} {f : σ → σ}
  {m : τ} {s : σ}

/-- `x` from `s` and from `f s`: until the two part they have the same outcome, and states that
`f` relates. -/
def Forks (next : τ → (o : E.Op) → E.Resp o → τ) (w : E.Op → Prop) (S : τ → Prop) (f : σ → σ)
    (x : Proc E ε σ α) (Q : Except ε α → σ → τ → Prop) (s : σ) (m : τ) : Prop :=
  Prog.Forks next w S (fun m out out' => out' = (out.1, f out.2) ∧ Q out.1 out.2 m) m (x s)
    (x (f s))

namespace Forks

variable {x : Proc E ε σ α}

/-- The rule of consequence. -/
theorem mono {Q Q' : Except ε α → σ → τ → Prop} (h : Forks next w S f x Q s m)
    (hQ : ∀ r s m, Q r s m → Q' r s m) : Forks next w S f x Q' s m :=
  Prog.Forks.mono h fun m _ _ hR => ⟨hR.1, hQ _ _ m hR.2⟩

/-- From a ghost with `S` on, the second program goes its own way. -/
theorem apart {Q : Except ε α → σ → τ → Prop} (hS : S m) (hx : (x (f s)).Comes w) :
    Forks next w S f x Q s m :=
  Prog.Forks.apart hS hx

/-- The same value, from both states. -/
theorem pure {Q : Except ε α → σ → τ → Prop} {a : α} (h : Q (.ok a) s m) :
    Forks next w S f (Pure.pure a) Q s m :=
  .ret ⟨rfl, h⟩

/-- The same failure, from both states. -/
theorem fail {Q : Except ε α → σ → τ → Prop} {e : ε} (h : Q (.error e) s m) :
    Forks next w S f (Proc.fail e) Q s m :=
  .ret ⟨rfl, h⟩

/-- The same operation, with the same answer. -/
theorem perform {o : E.Op} {Q : Except ε (E.Resp o) → σ → τ → Prop}
    (h : ∀ r, Q (.ok r) s (next m o r)) : Forks next w S f (Proc.perform o) Q s m :=
  .op fun r => .ret ⟨rfl, h r⟩

/-- A change of the state that goes together with `f`. -/
theorem modify {g : σ → σ} {Q : Except ε Unit → σ → τ → Prop} (hg : g (f s) = f (g s))
    (h : Q (.ok ()) (g s) m) : Forks next w S f (Proc.modify g) Q s m :=
  .ret ⟨congrArg (Prod.mk _) hg, h⟩

/-- A look at the state that does not tell the two apart. -/
theorem get_bind {g : σ → Proc E ε σ α} {Q : Except ε α → σ → τ → Prop}
    (hsame : g (f s) = g s) (h : Forks next w S f (g s) Q s m) :
    Forks next w S f (Proc.get >>= g) Q s m := by
  show Prog.Forks next w S _ m (g s s) (g (f s) (f s))
  rw [hsame]
  exact h

/-- A sequence: the second parts go on from what the first parts have left. -/
theorem bind {g : α → Proc E ε σ β} {P : Except ε α → σ → τ → Prop}
    {Q : Except ε β → σ → τ → Prop} (hx : Forks next w S f x P s m)
    (hok : ∀ a s m, P (.ok a) s m → Forks next w S f (g a) Q s m)
    (herr : ∀ e s m, P (.error e) s m → Q (.error e) s m) :
    Forks next w S f (x >>= g) Q s m := by
  refine Prog.Forks.bind hx fun m out out' h => ?_
  obtain ⟨result, s'⟩ := out
  obtain ⟨rfl, hP⟩ := h
  cases result with
  | ok a => exact hok a s' m hP
  | error e => exact .ret ⟨rfl, herr e s' m hP⟩

/-- An attempt, with its failure as a value. -/
theorem attempt {Q : Except ε' (Except ε α) → σ → τ → Prop}
    (h : Forks next w S f x (fun r s m => Q (.ok r) s m) s m) :
    Forks next w S f (Proc.attempt x) Q s m := by
  refine Prog.Forks.map h fun m out out' hR => ?_
  obtain ⟨rfl, hQ⟩ := hR
  exact ⟨rfl, hQ⟩

/-- A result that is dropped. -/
theorem discard {Q : Except ε' Unit → σ → τ → Prop}
    (h : Forks next w S f x (fun _ s m => Q (.ok ()) s m) s m) :
    Forks next w S f (Proc.discard x) Q s m := by
  refine Prog.Forks.map h fun m out out' hR => ?_
  obtain ⟨rfl, hQ⟩ := hR
  exact ⟨rfl, hQ⟩

/-- A choice that both make alike. -/
theorem ite {c : Prop} [Decidable c] {y : Proc E ε σ α} {Q : Except ε α → σ → τ → Prop}
    (hx : c → Forks next w S f x Q s m) (hy : ¬c → Forks next w S f y Q s m) :
    Forks next w S f (if c then x else y) Q s m := by
  by_cases h : c
  · rw [if_pos h]
    exact hx h
  · rw [if_neg h]
    exact hy h

end Forks

end Proc

end Effectful
