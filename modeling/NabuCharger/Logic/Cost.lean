import Mathlib.Algebra.GroupWithZero.Nat
import NabuCharger.Logic.Returns
import NabuCharger.Logic.Session

/-!
# `Logic.Cost`: what a conversation costs

Every operation has a price `w`, and a trace costs the sum of the prices (`cost`). A bound on the
cost of a program is a bound over every environment, and over every trace, the ones cut short
included.

`Machine.metered` adds a meter with a limit to a monitor. `Proc.Costs M w I J n x` says that from
every state in `I` the program `x` meets the obligations of `M`, returns in `J`, and spends at most
`n`. The prices of a sequence add up (`Costs.bind`), so the bound of a program is read off its
text. `Costs.le_of_steps` turns it into a statement about traces, and `Costs.keeps` forgets the
meter. A loop that is given up on has no bound: there is no rule for `diverge`.
-/

set_option autoImplicit false

namespace Effectful

variable {E : Effect} {ε ε' σ α β : Type}

/-- What the exchanges of a trace cost. -/
def cost (w : E.Op → Nat) : List (Event E) → Nat
  | [] => 0
  | e :: t => w e.op + cost w t

/-- Nothing costs nothing. -/
@[simp] theorem cost_nil (w : E.Op → Nat) : cost w [] = 0 := rfl

/-- An exchange costs what its operation does. -/
@[simp] theorem cost_cons (w : E.Op → Nat) (e : Event E) (t : List (Event E)) :
    cost w (e :: t) = w e.op + cost w t := rfl

/-- The costs of two traces add up. -/
@[simp] theorem cost_append (w : E.Op → Nat) (t u : List (Event E)) :
    cost w (t ++ u) = cost w t + cost w u := by
  induction t with
  | nil => simp
  | cons e t ih => simp [ih, Nat.add_assoc]

/-- The monitor `M` with a meter, which must not pass `limit`. -/
def Machine.metered (M : Machine E) (w : E.Op → Nat) (limit : Nat) : Machine E where
  State := M.State × Nat
  allow m := M.allow m.1
  require m o := M.require m.1 o ∧ m.2 + w o ≤ limit
  next m o r := (M.next m.1 o r, m.2 + w o)

namespace Prog

variable {M : Machine E} {w : E.Op → Nat} {limit : Nat}

/-- A program under a meter meets the monitor without it. -/
theorem wp_of_metered (p : Prog E α) {Q : α → M.State → Prop} {m : M.State} {k : Nat}
    (h : p.wp (M.metered w limit) (fun a m' => Q a m'.1) (m, k)) : p.wp M Q m := by
  induction p generalizing m k with
  | ret a => exact h
  | op o k ih => exact ⟨h.1.1, fun r hr => ih r (h.2 r hr)⟩
  | diverge => trivial

/-- Along an allowed trace, cut short or not, the meter stays within its limit. -/
theorem Steps.cost_le {p q : Prog E α} {t : List (Event E)} (h : Steps p t q)
    {Q : α → (M.metered w limit).State → Prop} {m : M.State} {spent : Nat}
    (hwp : p.wp (M.metered w limit) Q (m, spent)) (hallow : M.Allowed m t)
    (hspent : spent ≤ limit) : spent + cost w t ≤ limit := by
  induction h generalizing m spent with
  | refl p => exact hspent
  | op _ ih =>
      rw [cost_cons, ← Nat.add_assoc]
      exact ih (hwp.2 _ hallow.1) hallow.2 hwp.1.2

end Prog

namespace Proc

/-- From every state in `I`, `x` meets the obligations of `M`, spends at most `n` and returns in
`J`, with a value or with a failure. -/
structure Costs (M : Machine E) (w : E.Op → Nat) (I J : σ → M.State → Prop) (n : Nat)
    (x : Proc E ε σ α) : Prop where
  returns : x.Returns
  run : ∀ limit s m spent, I s m → spent + n ≤ limit →
    x.wp (M.metered w limit) (fun _ s' m' => J s' m'.1 ∧ m'.2 ≤ spent + n) s (m, spent)

namespace Costs

variable {M : Machine E} {w : E.Op → Nat} {I J K : σ → M.State → Prop} {n k : Nat}
  {x : Proc E ε σ α}

/-- A bound may be raised. -/
theorem mono (h : Costs M w I J k x) (hle : k ≤ n) : Costs M w I J n x := by
  refine ⟨h.returns, fun limit s m spent hs hlimit => ?_⟩
  refine wp_mono (h.run limit s m spent hs (by omega)) ?_
  intro _ s' m' hend
  exact ⟨hend.1, by omega⟩

/-- It may start under a stronger condition, and end in a weaker one. -/
theorem weaken {I' J' : σ → M.State → Prop} (h : Costs M w I J n x)
    (hI : ∀ s m, I' s m → I s m) (hJ : ∀ s m, J s m → J' s m) : Costs M w I' J' n x := by
  refine ⟨h.returns, fun limit s m spent hs hlimit => ?_⟩
  refine wp_mono (h.run limit s m spent (hI s m hs) hlimit) ?_
  exact fun _ s' m' hend => ⟨hJ s' m'.1 hend.1, hend.2⟩

/-- A value is free. -/
theorem pure (a : α) : Costs M w I I 0 (Pure.pure a : Proc E ε σ α) :=
  ⟨.pure a, fun limit s m spent hs _ => (wp_pure (M := M.metered w limit) _ s (m, spent) a).2
    ⟨hs, Nat.le_refl _⟩⟩

/-- A failure is free. -/
theorem fail (e : ε) : Costs M w I I 0 (Proc.fail e : Proc E ε σ α) :=
  ⟨.fail e, fun limit s m spent hs _ => (wp_fail (M := M.metered w limit) _ s (m, spent) e).2
    ⟨hs, Nat.le_refl _⟩⟩

/-- A change of the state is free. -/
theorem modify {f : σ → σ} (hf : ∀ s m, I s m → J (f s) m) :
    Costs M w I J 0 (Proc.modify f : Proc E ε σ Unit) :=
  ⟨.modify f, fun limit s m spent hs _ =>
    (wp_modify (M := M.metered w limit) s (m, spent) f _).2 ⟨hf s m hs, Nat.le_refl _⟩⟩

/-- One operation has its price. Its obligation is met, and every allowed answer leads to `J`. -/
theorem perform {o : E.Op} (ho : ∀ s m, I s m →
      M.require m o ∧ ∀ r, M.allow m o r → J s (M.next m o r)) :
    Costs M w I J (w o) (Proc.perform o : Proc E ε σ (E.Resp o)) := by
  refine ⟨.perform o, fun limit s m spent hs hlimit => ?_⟩
  refine (wp_perform (M := M.metered w limit) s (m, spent) o _).2 ⟨⟨(ho s m hs).1, hlimit⟩, ?_⟩
  exact fun r hr => ⟨(ho s m hs).2 r hr, Nat.le_refl _⟩

/-- The state after an operation that is followed by `f` may depend on the answer. -/
theorem perform_bind {o : E.Op} {f : E.Resp o → Proc E ε σ β} {J : E.Resp o → σ → M.State → Prop}
    (ho : ∀ s m, I s m → M.require m o ∧ ∀ r, M.allow m o r → J r s (M.next m o r))
    (hf : ∀ r, Costs M w (J r) K n (f r)) :
    Costs M w I K (w o + n) (Proc.perform o >>= f) := by
  refine ⟨.bind (.perform o) fun r => (hf r).returns, fun limit s m spent hs hlimit => ?_⟩
  refine (wp_perform_bind (M := M.metered w limit) s (m, spent) o f _).2 ?_
  refine ⟨⟨(ho s m hs).1, by show spent + w o ≤ limit; omega⟩, fun r hr => ?_⟩
  have hrest := (hf r).run limit s (M.next m o r) (spent + w o) ((ho s m hs).2 r hr) (by omega)
  refine wp_mono hrest ?_
  exact fun _ s' m' hend => ⟨hend.1, by omega⟩

/-- Prices add up. -/
theorem bind {f : α → Proc E ε σ β} (hx : Costs M w I J k x) (hf : ∀ a, Costs M w J J n (f a)) :
    Costs M w I J (k + n) (x >>= f) := by
  refine ⟨.bind hx.returns fun a => (hf a).returns, fun limit s m spent hs hlimit => ?_⟩
  refine (wp_bind (M := M.metered w limit) s (m, spent) x f _).2 ?_
  refine wp_mono (hx.run limit s m spent hs (by omega)) ?_
  rintro (e | a) s' ⟨m', spent'⟩ ⟨hs', hspent⟩
  · exact ⟨hs', by simp only at hspent ⊢; omega⟩
  · have hrest := (hf a).run limit s' m' spent' hs' (by simp only at hspent; omega)
    refine wp_mono hrest ?_
    intro _ s'' m'' hend
    exact ⟨hend.1, by simp only at hspent; omega⟩

/-- A first step that is free. -/
theorem bind_free {f : α → Proc E ε σ β} (hx : Costs M w I J 0 x)
    (hf : ∀ a, Costs M w J J n (f a)) : Costs M w I J n (x >>= f) :=
  (hx.bind hf).mono (Nat.le_of_eq (Nat.zero_add n))

/-- So is a look at it. -/
theorem get_bind {f : σ → Proc E ε σ β} (hf : ∀ s, Costs M w I J n (f s)) :
    Costs M w I J n (Proc.get >>= f) :=
  ⟨.bind .get fun s => (hf s).returns, fun limit s m spent hs hlimit =>
    (wp_get_bind (M := M.metered w limit) s (m, spent) f _).2
      ((hf s).run limit s m spent hs hlimit)⟩

/-- An attempt costs what it tries. -/
theorem attempt (hx : Costs M w I J n x) :
    Costs M w I J n (Proc.attempt x : Proc E ε' σ (Except ε α)) :=
  ⟨hx.returns.attempt, fun limit s m spent hs hlimit =>
    (wp_attempt (M := M.metered w limit) s (m, spent) x _).2 (hx.run limit s m spent hs hlimit)⟩

/-- Dropping a result does not change the cost. -/
theorem discard (hx : Costs M w I J n x) : Costs M w I J n (Proc.discard x : Proc E ε' σ Unit) :=
  ⟨hx.returns.discard, fun limit s m spent hs hlimit =>
    (wp_discard (M := M.metered w limit) s (m, spent) x _).2 (hx.run limit s m spent hs hlimit)⟩

/-- Neither does a value to fall back on. -/
theorem unwrapOr (hx : Costs M w I J n x) (d : α) :
    Costs M w I J n (Proc.unwrapOr x d : Proc E ε' σ α) :=
  ⟨hx.returns.unwrapOr d, fun limit s m spent hs hlimit =>
    (wp_unwrapOr (M := M.metered w limit) s (m, spent) x d _).2
      (hx.run limit s m spent hs hlimit)⟩

/-- A choice costs at most what its branches may. -/
theorem ite {c : Prop} [Decidable c] {y : Proc E ε σ α} (hx : c → Costs M w I J n x)
    (hy : ¬c → Costs M w I J n y) : Costs M w I J n (if c then x else y) := by
  by_cases h : c
  · rw [if_pos h]
    exact hx h
  · rw [if_neg h]
    exact hy h

/-- Without the meter, the program leads from `I` to `J`. -/
theorem wp (h : Costs M w I J n x) {s : σ} {m : M.State} (hs : I s m) :
    x.wp M (fun _ s' m' => J s' m') s m := by
  have hrun := (h.run n s m 0 hs (Nat.le_of_eq (Nat.zero_add n))).prog
  unfold Proc.wp
  refine Prog.wp_of_metered (k := 0) _ (Prog.wp_mono hrun ?_)
  exact fun _ _ hend => hend.1

/-- A bound on the cost holds of a program that keeps the invariant. -/
theorem keeps (h : Costs M w I I n x) : Keeps M I x :=
  ⟨fun _ _ hs => h.wp hs⟩

/-- What an allowed trace has cost so far is within the bound. -/
theorem le_of_steps (h : Costs M w I J n x) {s : σ} {m : M.State} (hs : I s m)
    {t : List (Event E)} {q : Prog E (Except ε α × σ)} (ht : Prog.Steps (x s) t q)
    (hallow : M.Allowed m t) : cost w t ≤ n := by
  have hrun := (h.run n s m 0 hs (Nat.le_of_eq (Nat.zero_add n))).prog
  have hle := ht.cost_le hrun hallow (Nat.zero_le n)
  omega

end Costs

end Proc

/-- A session costs what its programs cost, the last one included, which may be cut short. -/
theorem Session.cost_le {ι : Type} {w : E.Op → Nat} {x : ι → Proc E ε σ α} {budget : ι → Nat}
    (hx : ∀ i s t q, Prog.Steps (x i s) t q → cost w t ≤ budget i) {s : σ}
    {log : List (Entry E σ ι)} (h : Session x s log) :
    cost w (exchanges log) ≤ (log.map fun entry => budget entry.op).sum := by
  have hmem := h.forall_mem (P := fun _ i t => cost w t ≤ budget i) hx
  clear h
  induction log with
  | nil => exact Nat.le_refl 0
  | cons entry log ih =>
      obtain ⟨hfirst, hrest⟩ := List.forall_mem_cons.1 hmem
      rw [exchanges, List.flatMap_cons, cost_append, List.map_cons, List.sum_cons]
      exact Nat.add_le_add hfirst (ih hrest)

end Effectful
