import NabuCharger.Logic.Prog

/-!
# `Logic.Machine`: monitors of a conversation, and their rules

A `Machine` watches the exchanges of a program. It has a state that every exchange moves,
an assumption on the answers (`allow`) and an obligation on the operations (`require`).
`Machine.Meets` reads off a trace that every operation met its obligation for as long as
the environment kept its side. A memory is a machine (its state is the contents, `allow`
says that a read answers with them), and so is a safety property with history (its state
is the part of the history the property speaks of).

`Prog.wp` is the weakest precondition over all paths and `Prog.Steps.meets` its soundness:
a program that satisfies it meets the machine on every trace, partial ones included.

Most steps of a driver leave a given monitor alone. `Keeps M I x` says that `x` meets the
obligations of `M` from every state that satisfies `I`, and ends in such a state however
it ends. The combinators of `Proc` preserve it, so an invariant proof is one rule for each
construct of the code. Only the steps the invariant is really about need `wp`.
-/

set_option autoImplicit false

namespace Effectful

/-- A monitor over the signature `E`. -/
structure Machine (E : Effect) where
  State : Type
  /-- The answers the environment is assumed to give. -/
  allow : State → (o : E.Op) → E.Resp o → Prop
  /-- The operations the program is obliged to keep to. -/
  require : State → E.Op → Prop
  /-- The state after an exchange. -/
  next : State → (o : E.Op) → E.Resp o → State

namespace Machine

variable {E F : Effect} (M : Machine E)

/-- The state of the monitor after the exchanges of `t`. -/
def after : M.State → List (Event E) → M.State
  | m, [] => m
  | m, e :: t => after (M.next m e.op e.resp) t

/-- The environment kept its side throughout `t`. -/
def Allowed : M.State → List (Event E) → Prop
  | _, [] => True
  | m, e :: t => M.allow m e.op e.resp ∧ Allowed (M.next m e.op e.resp) t

/-- Every operation of `t` met its obligation, for as long as the environment kept its
side. -/
def Meets : M.State → List (Event E) → Prop
  | _, [] => True
  | m, e :: t => M.require m e.op ∧ (M.allow m e.op e.resp → Meets (M.next m e.op e.resp) t)

/-- A trace can be checked. -/
def decidableMeets [hrequire : ∀ m o, Decidable (M.require m o)]
    [hallow : ∀ m o r, Decidable (M.allow m o r)] :
    (m : M.State) → (t : List (Event E)) → Decidable (M.Meets m t)
  | _, [] => isTrue trivial
  | m, e :: t =>
      match hrequire m e.op, hallow m e.op e.resp with
      | isFalse h, _ => isFalse fun hmeets => h hmeets.1
      | isTrue h, isFalse hnot => isTrue ⟨h, fun hresp => absurd hresp hnot⟩
      | isTrue h, isTrue hresp =>
          match decidableMeets (M.next m e.op e.resp) t with
          | isTrue hrest => isTrue ⟨h, fun _ => hrest⟩
          | isFalse hrest => isFalse fun hmeets => hrest (hmeets.2 hresp)

instance [∀ m o, Decidable (M.require m o)] [∀ m o r, Decidable (M.allow m o r)]
    (m : M.State) (t : List (Event E)) : Decidable (M.Meets m t) :=
  M.decidableMeets m t

/-- So can the answers of the environment. -/
def decidableAllowed [hallow : ∀ m o r, Decidable (M.allow m o r)] :
    (m : M.State) → (t : List (Event E)) → Decidable (M.Allowed m t)
  | _, [] => isTrue trivial
  | m, e :: t =>
      match hallow m e.op e.resp, decidableAllowed (M.next m e.op e.resp) t with
      | isTrue h, isTrue hrest => isTrue ⟨h, hrest⟩
      | isFalse h, _ => isFalse fun hallowed => h hallowed.1
      | _, isFalse hrest => isFalse fun hallowed => hrest hallowed.2

/-- Where two traces lead, one after the other. -/
@[simp] theorem after_append (m : M.State) (t u : List (Event E)) :
    M.after m (t ++ u) = M.after (M.after m t) u := by
  induction t generalizing m with
  | nil => rfl
  | cons e t ih => exact ih _

/-- The empty trace leads nowhere. -/
@[simp] theorem after_nil (m : M.State) : M.after m [] = m := rfl

/-- The first exchange leads on. -/
@[simp] theorem after_cons (m : M.State) (e : Event E) (t : List (Event E)) :
    M.after m (e :: t) = M.after (M.next m e.op e.resp) t := rfl

/-- The empty trace is asked nothing. -/
theorem meets_nil (m : M.State) : M.Meets m [] := trivial

/-- The first exchange has its obligation. The others have theirs, if its answer is allowed. -/
theorem meets_cons (m : M.State) (e : Event E) (t : List (Event E)) :
    M.Meets m (e :: t) ↔
      M.require m e.op ∧ (M.allow m e.op e.resp → M.Meets (M.next m e.op e.resp) t) :=
  Iff.rfl

/-- Two traces that meet their obligations, one after the other. -/
theorem Meets.append {m : M.State} {t u : List (Event E)} (ht : M.Meets m t)
    (hu : M.Allowed m t → M.Meets (M.after m t) u) : M.Meets m (t ++ u) := by
  induction t generalizing m with
  | nil => exact hu trivial
  | cons e t ih => exact ⟨ht.1, fun he => ih (ht.2 he) fun hallow => hu ⟨he, hallow⟩⟩

/-- The answers of two traces are allowed if and only if those of each are. -/
theorem allowed_append {m : M.State} {t u : List (Event E)} :
    M.Allowed m (t ++ u) ↔ M.Allowed m t ∧ M.Allowed (M.after m t) u := by
  induction t generalizing m with
  | nil => exact (true_and _).symm.to_iff
  | cons e t ih => exact (and_congr_right fun _ => ih).trans and_assoc.symm

/-- What is met over a trace is met over its rest. -/
theorem Meets.rest {m : M.State} {t u : List (Event E)} (h : M.Meets m (t ++ u))
    (hallow : M.Allowed m t) : M.Meets (M.after m t) u := by
  induction t generalizing m with
  | nil => exact h
  | cons e t ih => exact ih (h.2 hallow.1) hallow.2

/-- A monitor that assumes nothing allows every trace. -/
theorem allowed_of_trusting (hM : ∀ m o r, M.allow m o r) (t : List (Event E)) :
    ∀ m, M.Allowed m t := by
  induction t with
  | nil => exact fun _ => trivial
  | cons e t ih => exact fun m => ⟨hM m e.op e.resp, ih _⟩

/-- The obligation met at one point of the trace, read in the state the monitor has
there. -/
theorem Meets.require_at {m : M.State} {before : List (Event E)} {e : Event E}
    {rest : List (Event E)} (h : M.Meets m (before ++ e :: rest))
    (hallow : M.Allowed m before) : M.require (M.after m before) e.op := by
  induction before generalizing m with
  | nil => exact h.1
  | cons f before ih => exact ih (h.2 hallow.1) hallow.2

/-- The monitor of a sum that watches the left operations through `M` and lets the right
ones pass. -/
def alongside (F : Effect) : Machine (E.sum F) where
  State := M.State
  allow m
    | .inl o => M.allow m o
    | .inr _ => fun _ => True
  require m
    | .inl o => M.require m o
    | .inr _ => True
  next m
    | .inl o => M.next m o
    | .inr _ => fun _ => m

/-- What a monitor of a sum sees of the left operations. -/
abbrev onLeft (N : Machine (E.sum F)) : Machine E where
  State := N.State
  allow m o r := N.allow m (.inl o) r
  require m o := N.require m (.inl o)
  next m o r := N.next m (.inl o) r

/-- Two monitors side by side. -/
def both (M N : Machine E) : Machine E where
  State := M.State × N.State
  allow m o r := M.allow m.1 o r ∧ N.allow m.2 o r
  require m o := M.require m.1 o ∧ N.require m.2 o
  next m o r := (M.next m.1 o r, N.next m.2 o r)

/-- Two monitors side by side go their own ways. -/
theorem after_both {M N : Machine E} (t : List (Event E)) : ∀ m : (M.both N).State,
    (M.both N).after m t = (M.after m.1 t, N.after m.2 t) := by
  induction t with
  | nil => exact fun _ => rfl
  | cons e t ih => exact fun _ => ih _

/-- What both allow is what each allows. -/
theorem allowed_both {M N : Machine E} {t : List (Event E)} :
    ∀ {m : (M.both N).State},
      (M.both N).Allowed m t ↔ M.Allowed m.1 t ∧ N.Allowed m.2 t := by
  induction t with
  | nil => exact (true_and _).symm.to_iff
  | cons e t ih => exact (and_congr_right fun _ => ih).trans and_and_and_comm

/-- The monitor that asks for nothing. -/
def free (E : Effect) : Machine E where
  State := Unit
  allow _ _ _ := True
  require _ _ := True
  next _ _ _ := ()

/-- The monitor that asks `P` of every operation. -/
def only (E : Effect) (P : E.Op → Prop) : Machine E where
  State := Unit
  allow _ _ _ := True
  require _ := P
  next _ _ _ := ()

/-- The monitor that asks for nothing assumes nothing. -/
theorem allowed_free (t : List (Event E)) : ∀ m, (free E).Allowed m t :=
  allowed_of_trusting _ (fun _ _ _ => trivial) t

/-- Nor does the one that asks for a kind of operation. -/
theorem allowed_only {P : E.Op → Prop} (t : List (Event E)) : ∀ m, (only E P).Allowed m t :=
  allowed_of_trusting _ (fun _ _ _ => trivial) t

end Machine

/-! ### Weakest preconditions -/

namespace Prog

variable {E F : Effect} {α β : Type} {M : Machine E}

/-- From the monitor state `m`, every path of `p` that the environment allows meets the
obligations of `M` and ends, if it returns, in `Q`. -/
def wp (M : Machine E) : Prog E α → (α → M.State → Prop) → M.State → Prop
  | .ret a, Q, m => Q a m
  | .op o k, Q, m => M.require m o ∧ ∀ r, M.allow m o r → (k r).wp M Q (M.next m o r)
  | .diverge, _, _ => True

/-- The rule of consequence. -/
theorem wp_mono {p : Prog E α} {Q Q' : α → M.State → Prop} {m : M.State}
    (h : p.wp M Q m) (hQ : ∀ a m', Q a m' → Q' a m') : p.wp M Q' m := by
  induction p generalizing m with
  | ret a => exact hQ a m h
  | op o k ih => exact ⟨h.1, fun r hr => ih r (h.2 r hr)⟩
  | diverge => trivial

/-- Two postconditions at once. -/
theorem wp_and {p : Prog E α} {Q Q' : α → M.State → Prop} {m : M.State}
    (h : p.wp M Q m) (h' : p.wp M Q' m) : p.wp M (fun a m' => Q a m' ∧ Q' a m') m := by
  induction p generalizing m with
  | ret a => exact ⟨h, h'⟩
  | op o k ih => exact ⟨h.1, fun r hr => ih r (h.2 r hr) (h'.2 r hr)⟩
  | diverge => trivial

/-- The rule of a sequence. -/
theorem wp_bind (p : Prog E α) (f : α → Prog E β) (Q : β → M.State → Prop) (m : M.State) :
    (p.bind f).wp M Q m ↔ p.wp M (fun a m' => (f a).wp M Q m') m := by
  induction p generalizing m with
  | ret a => exact Iff.rfl
  | op o k ih =>
      exact and_congr_right fun _ => forall_congr' fun r => imp_congr_right fun _ => ih r _
  | diverge => exact Iff.rfl

/-- The rule of a map. -/
theorem wp_map (p : Prog E α) (f : α → β) (Q : β → M.State → Prop) (m : M.State) :
    (p.map f).wp M Q m ↔ p.wp M (fun a m' => Q (f a) m') m := by
  induction p generalizing m with
  | ret a => exact Iff.rfl
  | op o k ih =>
      exact and_congr_right fun _ => forall_congr' fun r => imp_congr_right fun _ => ih r _
  | diverge => exact Iff.rfl

/-- A program over the left operations is watched by the left part of the monitor. -/
theorem wp_inl (N : Machine (E.sum F)) (p : Prog E α) (Q : α → N.State → Prop)
    (m : N.State) : p.inl.wp N Q m ↔ p.wp N.onLeft Q m := by
  induction p generalizing m with
  | ret a => exact Iff.rfl
  | op o k ih =>
      exact and_congr_right fun _ => forall_congr' fun r => imp_congr_right fun _ => ih r _
  | diverge => exact Iff.rfl

/-- A program that meets `M` meets `N` once it is handled, as long as the handler of every
operation that `M` admits meets `N`, gives an answer that `M` allows, and keeps `J`. -/
theorem wp_handle_of {τ : Type} {N : Machine F} {J : τ → M.State → N.State → Prop}
    {h : Handler E F τ}
    (hh : ∀ o u m n, J u m n → M.require m o → (h o u).wp N
      (fun out n' => M.allow m o out.1 ∧ J out.2 (M.next m o out.1) n') n)
    (p : Prog E α) {Q : α → M.State → Prop} {u : τ} {m : M.State} {n : N.State}
    (hp : p.wp M Q m) (hu : J u m n) :
    (p.handle h u).wp N (fun out n' => ∃ m', Q out.1 m' ∧ J out.2 m' n') n := by
  induction p generalizing u m n with
  | ret a => exact ⟨m, hp, hu⟩
  | op o k ih =>
      refine (wp_bind _ _ _ _).2 (wp_mono (hh o u m n hu hp.1) ?_)
      intro answer n' hanswer
      exact ih answer.1 (hp.2 answer.1 hanswer.1) hanswer.2
  | diverge => trivial

/-- What the handler of every operation keeps, the handled program keeps. -/
theorem wp_handle {τ : Type} {N : Machine F} {J : τ → N.State → Prop} {h : Handler E F τ}
    (hh : ∀ o u m, J u m → (h o u).wp N (fun out m' => J out.2 m') m) (p : Prog E α) {u : τ}
    {m : N.State} (hu : J u m) : (p.handle h u).wp N (fun out m' => J out.2 m') m := by
  induction p generalizing u m with
  | ret a => exact hu
  | op o k ih =>
      refine (wp_bind _ _ _ _).2 (wp_mono (hh o u m hu) ?_)
      intro answer m' h'
      exact ih answer.1 h'
  | diverge => trivial

/-- Nothing is asked of a program that nothing is asked of. -/
theorem wp_free (p : Prog E α) {Q : α → Unit → Prop} (hQ : ∀ a m, Q a m) :
    ∀ m, p.wp (Machine.free E) Q m := by
  induction p with
  | ret a => exact hQ a
  | op o k ih => exact fun _ => ⟨trivial, fun r _ => ih r ()⟩
  | diverge => exact fun _ => trivial

/-- A monitor that no operation concerns is where it was. -/
theorem wp_deaf {N : Machine E} (hreq : ∀ m o, N.require m o)
    (hnext : ∀ m o r, N.next m o r = m) (p : Prog E α) (m : N.State) :
    p.wp N (fun _ m' => m' = m) m := by
  induction p with
  | ret a => rfl
  | op o k ih =>
      refine ⟨hreq m o, fun r _ => ?_⟩
      rw [hnext]
      exact ih r
  | diverge => trivial

/-- Every program keeps a condition on the monitor that every operation keeps. -/
theorem wp_always {I : M.State → Prop} (hI : ∀ m o, I m →
      M.require m o ∧ ∀ r, M.allow m o r → I (M.next m o r)) (p : Prog E α) :
    ∀ m, I m → p.wp M (fun _ m' => I m') m := by
  induction p with
  | ret a => exact fun _ hm => hm
  | op o k ih =>
      intro m hm
      obtain ⟨hreq, hans⟩ := hI m o hm
      exact ⟨hreq, fun r hr => ih r _ (hans r hr)⟩
  | diverge => exact fun _ _ => trivial

/-- Along an allowed trace, the precondition travels to the program that is left. -/
theorem Steps.wp_rest {p q : Prog E α} {t : List (Event E)} (h : Steps p t q)
    {Q : α → M.State → Prop} {m : M.State} (hwp : p.wp M Q m) (hallow : M.Allowed m t) :
    q.wp M Q (M.after m t) := by
  induction h generalizing m with
  | refl p => exact hwp
  | op _ ih => exact ih (hwp.2 _ hallow.1) hallow.2

/-- Soundness: on every trace, cut short or not, the obligations are met. -/
theorem Steps.meets {p q : Prog E α} {t : List (Event E)} (h : Steps p t q)
    {Q : α → M.State → Prop} {m : M.State} (hwp : p.wp M Q m) : M.Meets m t := by
  induction h generalizing m with
  | refl p => trivial
  | op _ ih => exact ⟨hwp.1, fun hr => ih (hwp.2 _ hr)⟩

/-- On every trace, cut short or not, every operation is as the monitor asks. -/
theorem Steps.forall_op {P : E.Op → Prop} {p q : Prog E α} {t : List (Event E)}
    (h : Steps p t q) {Q : α → Unit → Prop} (hwp : p.wp (Machine.only E P) Q ()) :
    ∀ e ∈ t, P e.op := by
  induction h with
  | refl p => exact fun e he => nomatch he
  | op _ ih =>
      intro e he
      rcases List.mem_cons.1 he with rfl | hrest
      · exact hwp.1
      · exact ih (hwp.2 _ trivial) e hrest

/-- An environment that simulates the monitor, by `R`, keeps its side in every run. -/
theorem allowed_runWith {H : Type} {env : H → (o : E.Op) → E.Resp o × H}
    {R : H → M.State → Prop} (hR : ∀ h m o, R h m →
      M.allow m o (env h o).1 ∧ R (env h o).2 (M.next m o (env h o).1)) (p : Prog E α) :
    ∀ h m, R h m → M.Allowed m (p.runWith env h).1 ∧
      R (p.runWith env h).2.1 (M.after m (p.runWith env h).1) := by
  induction p with
  | ret a => exact fun h m hm => ⟨trivial, hm⟩
  | op o k ih =>
      intro h m hm
      obtain ⟨hallow, hnext⟩ := hR h m o hm
      obtain ⟨hrest, hend⟩ := ih (env h o).1 (env h o).2 _ hnext
      exact ⟨⟨hallow, hrest⟩, hend⟩
  | diverge => exact fun h m hm => ⟨trivial, hm⟩

/-- A complete allowed trace ends in the postcondition. -/
theorem Yields.post {p : Prog E α} {t : List (Event E)} {a : α} (h : Yields p t a)
    {Q : α → M.State → Prop} {m : M.State} (hwp : p.wp M Q m) (hallow : M.Allowed m t) :
    Q a (M.after m t) :=
  Steps.wp_rest h hwp hallow

end Prog

namespace Proc

variable {E F : Effect} {ε ε' σ τ α β : Type} {M : Machine E}

/-- The weakest precondition of a stateful program. The postcondition reads the outcome,
the final state of the code and the final state of the monitor. -/
def wp (M : Machine E) (x : Proc E ε σ α) (Q : Except ε α → σ → M.State → Prop) (s : σ)
    (m : M.State) : Prop :=
  (x s).wp M (fun out m' => Q out.1 out.2 m') m

/-- A postcondition without obligations holds of every complete trace. -/
theorem post_free {x : Proc E ε σ α} {Q : Except ε α → σ → Prop} {s : σ}
    {t : List (Event E)} {out : Except ε α × σ}
    (hwp : ∀ m, x.wp (Machine.free E) (fun r s' _ => Q r s') s m)
    (h : Prog.Yields (x s) t out) : Q out.1 out.2 :=
  Prog.Yields.post (M := Machine.free E) h (hwp ()) (Machine.allowed_free t ())

/-- The postcondition of the first half of a sequence: the second half after a value, the
final one after a failure. -/
def thenWp (M : Machine E) (f : α → Proc E ε σ β)
    (Q : Except ε β → σ → M.State → Prop) : Except ε α → σ → M.State → Prop
  | .ok a, s, m => (f a).wp M Q s m
  | .error e, s, m => Q (.error e) s m

/-- The precondition of a stateful program is that of the tree it is from its state. -/
theorem wp.prog {x : Proc E ε σ α} {Q : Except ε α → σ → M.State → Prop} {s : σ}
    {m : M.State} (h : x.wp M Q s m) : (x s).wp M (fun out m' => Q out.1 out.2 m') m := h

section rules
variable (Q : Except ε α → σ → M.State → Prop) (s : σ) (m : M.State)

/-- After a value, the sequence goes on. -/
@[simp] theorem thenWp_ok (f : α → Proc E ε σ β) (R : Except ε β → σ → M.State → Prop)
    (a : α) : thenWp M f R (.ok a) s m ↔ (f a).wp M R s m := Iff.rfl

/-- After a failure, it does not. -/
@[simp] theorem thenWp_error (f : α → Proc E ε σ β)
    (R : Except ε β → σ → M.State → Prop) (e : ε) :
    thenWp M f R (.error e) s m ↔ R (.error e) s m := Iff.rfl

/-- The rule of a value. -/
@[simp] theorem wp_pure (a : α) : (pure a : Proc E ε σ α).wp M Q s m ↔ Q (.ok a) s m :=
  Iff.rfl

/-- The rule of a failure. -/
@[simp] theorem wp_fail (e : ε) :
    (fail e : Proc E ε σ α).wp M Q s m ↔ Q (.error e) s m := Iff.rfl

/-- Nothing is asked of a program that never returns. -/
@[simp] theorem wp_diverge : (diverge : Proc E ε σ α).wp M Q s m ↔ True := Iff.rfl

/-- The rule of a look at the state. -/
@[simp] theorem wp_get (R : Except ε σ → σ → M.State → Prop) :
    (get : Proc E ε σ σ).wp M R s m ↔ R (.ok s) s m := Iff.rfl

/-- The rule of a change of the state. -/
@[simp] theorem wp_modify (f : σ → σ) (R : Except ε Unit → σ → M.State → Prop) :
    (modify f : Proc E ε σ Unit).wp M R s m ↔ R (.ok ()) (f s) m := Iff.rfl

/-- The rule of an operation: its obligation, and its postcondition for every allowed answer. -/
@[simp] theorem wp_perform (o : E.Op) (R : Except ε (E.Resp o) → σ → M.State → Prop) :
    (perform o : Proc E ε σ (E.Resp o)).wp M R s m ↔
      M.require m o ∧ ∀ r, M.allow m o r → R (.ok r) s (M.next m o r) := Iff.rfl

/-- The rule of a result that was there before. -/
@[simp] theorem wp_ofExcept (r : Except ε α) :
    (ofExcept r : Proc E ε σ α).wp M Q s m ↔ Q r s m := by
  cases r <;> exact Iff.rfl

/-- The rule of a sequence. -/
theorem wp_bind (x : Proc E ε σ α) (f : α → Proc E ε σ β)
    (R : Except ε β → σ → M.State → Prop) :
    (x >>= f).wp M R s m ↔ x.wp M (thenWp M f R) s m := by
  refine (Prog.wp_bind _ _ _ _).trans ?_
  refine Iff.of_eq (congrArg (fun P => (x s).wp M P m) ?_)
  funext out m'
  obtain ⟨r, s'⟩ := out
  cases r <;> rfl

/-- The rule of an attempt, with the outcome as a value. -/
theorem wp_attempt (x : Proc E ε σ α) (R : Except ε' (Except ε α) → σ → M.State → Prop) :
    (attempt x : Proc E ε' σ (Except ε α)).wp M R s m ↔
      x.wp M (fun r s' m' => R (.ok r) s' m') s m :=
  Prog.wp_map _ _ _ _

/-- The rule of a result that is dropped. -/
theorem wp_discard (x : Proc E ε σ α) (R : Except ε' Unit → σ → M.State → Prop) :
    (discard x : Proc E ε' σ Unit).wp M R s m ↔
      x.wp M (fun _ s' m' => R (.ok ()) s' m') s m :=
  Prog.wp_map _ _ _ _

/-- The rule of a value to fall back on. -/
theorem wp_unwrapOr (x : Proc E ε σ α) (d : α) (R : Except ε' α → σ → M.State → Prop) :
    (unwrapOr x d : Proc E ε' σ α).wp M R s m ↔
      x.wp M (fun r s' m' => R (.ok (r.toOption.getD d)) s' m') s m :=
  Prog.wp_map _ _ _ _

/-- The rule of a program on a part of the state. -/
theorem wp_onPart (view : τ → σ) (put : σ → τ → τ) (x : Proc E ε σ α) (u : τ)
    (R : Except ε' (Except ε α) → τ → M.State → Prop) :
    (onPart view put x : Proc E ε' τ (Except ε α)).wp M R u m ↔
      x.wp M (fun r s' m' => R (.ok r) (put s' u) m') (view u) m :=
  Prog.wp_map _ _ _ _

/-- The rule of a program over the left operations. -/
theorem wp_inl (N : Machine (E.sum F)) (x : Proc E ε σ α)
    (R : Except ε α → σ → N.State → Prop) (m : N.State) :
    x.inl.wp N R s m ↔ x.wp N.onLeft R s m :=
  Prog.wp_inl _ _ _ _

/-- The rule of a program whose operations are handled by another one. -/
theorem wp_handled (N : Machine F) (x : Proc E ε σ α) (h : Handler E F τ) (view : τ → σ)
    (put : σ → τ → τ) (u : τ) (R : Except ε' (Except ε α) → τ → N.State → Prop)
    (m : N.State) :
    (handled h view put x : Proc F ε' τ (Except ε α)).wp N R u m ↔
      ((x (view u)).handle h u).wp N
        (fun out m' => R (.ok out.1.1) (put out.1.2 out.2) m') m :=
  Prog.wp_map _ _ _ _

/-! What a sequence does first, when the first step is one of these. -/

/-- A look at the state in front of a sequence. -/
theorem wp_get_bind (f : σ → Proc E ε σ β) (R : Except ε β → σ → M.State → Prop) :
    (get >>= f).wp M R s m ↔ (f s).wp M R s m :=
  wp_bind s m get f R

/-- A change of the state in front of a sequence. -/
theorem wp_modify_bind (g : σ → σ) (f : Unit → Proc E ε σ β)
    (R : Except ε β → σ → M.State → Prop) :
    (modify g >>= f).wp M R s m ↔ (f ()).wp M R (g s) m :=
  wp_bind s m (modify g) f R

/-- An operation in front of a sequence. -/
theorem wp_perform_bind (o : E.Op) (f : E.Resp o → Proc E ε σ β)
    (R : Except ε β → σ → M.State → Prop) :
    (perform o >>= f).wp M R s m ↔
      M.require m o ∧ ∀ r, M.allow m o r → (f r).wp M R s (M.next m o r) :=
  wp_bind s m (perform o) f R

/-- An attempt in front of a sequence. -/
theorem wp_attempt_bind (x : Proc E ε' σ α) (f : Except ε' α → Proc E ε σ β)
    (R : Except ε β → σ → M.State → Prop) :
    (attempt x >>= f).wp M R s m ↔ x.wp M (fun r s' m' => (f r).wp M R s' m') s m :=
  (wp_bind s m (attempt x) f R).trans (wp_attempt s m x _)

/-- A dropped result in front of a sequence. -/
theorem wp_discard_bind (x : Proc E ε' σ α) (f : Unit → Proc E ε σ β)
    (R : Except ε β → σ → M.State → Prop) :
    (discard x >>= f).wp M R s m ↔ x.wp M (fun _ s' m' => (f ()).wp M R s' m') s m :=
  (wp_bind s m (discard x) f R).trans (wp_discard s m x _)

/-- A value to fall back on in front of a sequence. -/
theorem wp_unwrapOr_bind (x : Proc E ε' σ α) (d : α) (f : α → Proc E ε σ β)
    (R : Except ε β → σ → M.State → Prop) :
    (unwrapOr x d >>= f).wp M R s m ↔
      x.wp M (fun r s' m' => (f (r.toOption.getD d)).wp M R s' m') s m :=
  (wp_bind s m (unwrapOr x d) f R).trans (wp_unwrapOr s m x d _)

variable {Q s m}

/-- The rule of consequence. -/
theorem wp_mono {x : Proc E ε σ α} {Q' : Except ε α → σ → M.State → Prop}
    (h : x.wp M Q s m) (hQ : ∀ r s' m', Q r s' m' → Q' r s' m') : x.wp M Q' s m :=
  Prog.wp_mono h fun out m' => hQ out.1 out.2 m'

/-- Two postconditions at once. -/
theorem wp_and {x : Proc E ε σ α} {Q' : Except ε α → σ → M.State → Prop}
    (h : x.wp M Q s m) (h' : x.wp M Q' s m) :
    x.wp M (fun r s' m' => Q r s' m' ∧ Q' r s' m') s m :=
  Prog.wp_and h h'

/-- Each branch under its condition. -/
theorem wp_ite {c : Prop} [Decidable c] {x y : Proc E ε σ α} (hx : c → x.wp M Q s m)
    (hy : ¬c → y.wp M Q s m) : (if c then x else y).wp M Q s m := by
  by_cases h : c
  · rw [if_pos h]; exact hx h
  · rw [if_neg h]; exact hy h

end rules

/-! ### Invariants -/

/-- From every state in `I`, `x` meets the obligations of `M` and ends in `I`, with a value
or with a failure. A structure, so that no goal about a program is unfolded into the
program by accident. -/
structure Keeps (M : Machine E) (I : σ → M.State → Prop) (x : Proc E ε σ α) : Prop where
  run : ∀ s m, I s m → x.wp M (fun _ s' m' => I s' m') s m

namespace Keeps

variable {I : σ → M.State → Prop} {x : Proc E ε σ α}

/-- A value keeps everything. -/
theorem pure (a : α) : Keeps M I (Pure.pure a : Proc E ε σ α) := ⟨fun _ _ h => h⟩

/-- So does a look at the state. -/
theorem get : Keeps M I (Proc.get : Proc E ε σ σ) := ⟨fun _ _ h => h⟩

/-- So does a failure. -/
theorem fail (e : ε) : Keeps M I (Proc.fail e : Proc E ε σ α) := ⟨fun _ _ h => h⟩

/-- So does a program that never returns. -/
theorem diverge : Keeps M I (Proc.diverge : Proc E ε σ α) := ⟨fun _ _ _ => trivial⟩

/-- So does a result that was there before. -/
theorem ofExcept (r : Except ε α) : Keeps M I (Proc.ofExcept r : Proc E ε σ α) :=
  ⟨fun s m h => (wp_ofExcept _ s m r).2 h⟩

/-- A change of the state that keeps the invariant. -/
theorem modify {f : σ → σ} (hf : ∀ s m, I s m → I (f s) m) :
    Keeps M I (Proc.modify f : Proc E ε σ Unit) := ⟨fun s m h => hf s m h⟩

/-- One operation: its obligation is met, and every allowed answer leads back into `I`. -/
theorem perform {o : E.Op} (ho : ∀ s m, I s m →
      M.require m o ∧ ∀ r, M.allow m o r → I s (M.next m o r)) :
    Keeps M I (Proc.perform o : Proc E ε σ (E.Resp o)) := ⟨fun s m h => ho s m h⟩

/-- Every program keeps an invariant of a monitor that no operation concerns, and of no
state. -/
theorem deaf (hreq : ∀ m o, M.require m o) (hnext : ∀ m o r, M.next m o r = m)
    (hI : ∀ s s' m, I s m → I s' m) : Keeps M I x := by
  refine ⟨fun s m hs => Prog.wp_mono (Prog.wp_deaf hreq hnext (x s) m) ?_⟩
  rintro out m' rfl
  exact hI s out.2 m' hs

/-- Every program keeps a condition on the monitor that every operation keeps. -/
theorem always {J : M.State → Prop} (hJ : ∀ m o, J m →
      M.require m o ∧ ∀ r, M.allow m o r → J (M.next m o r)) :
    Keeps M (fun _ m => J m) x :=
  ⟨fun s m hm => Prog.wp_always hJ (x s) m hm⟩

/-- Sequencing out of an invariant: the rest starts in `I`, whatever came before. -/
theorem wp_bind {f : α → Proc E ε σ β} {Q : Except ε β → σ → M.State → Prop} {s : σ}
    {m : M.State} (hx : Keeps M I x) (h : I s m)
    (hok : ∀ a s' m', I s' m' → (f a).wp M Q s' m')
    (herr : ∀ e s' m', I s' m' → Q (.error e) s' m') : (x >>= f).wp M Q s m := by
  refine (Proc.wp_bind s m x f Q).2 (wp_mono (hx.run s m h) ?_)
  intro r s' m' h'
  cases r with
  | ok a => exact hok a s' m' h'
  | error e => exact herr e s' m' h'

/-- A sequence of two programs that keep it. -/
theorem bind {f : α → Proc E ε σ β} (hx : Keeps M I x) (hf : ∀ a, Keeps M I (f a)) :
    Keeps M I (x >>= f) :=
  ⟨fun _ _ h => hx.wp_bind h (fun a s' m' h' => (hf a).run s' m' h') fun _ _ _ h' => h'⟩

/-- The state read at one point satisfies the invariant there. -/
theorem get_bind {f : σ → Proc E ε σ β} (hf : ∀ s m, I s m → Keeps M I (f s)) :
    Keeps M I (Proc.get >>= f) := ⟨fun s m h => (hf s m h).run s m h⟩

/-- What follows a result at hand knows which result it was. -/
theorem ofExcept_bind {r : Except ε α} {f : α → Proc E ε σ β}
    (hf : ∀ a, r = .ok a → Keeps M I (f a)) : Keeps M I (Proc.ofExcept r >>= f) := by
  cases r with
  | ok a => exact ⟨(hf a rfl).run⟩
  | error e => exact ⟨fun s m h => h⟩

/-- An attempt keeps what its program keeps. -/
theorem attempt (hx : Keeps M I x) :
    Keeps M I (Proc.attempt x : Proc E ε' σ (Except ε α)) :=
  ⟨fun s m h => (wp_attempt s m x _).2 (hx.run s m h)⟩

/-- So does a program whose result is dropped. -/
theorem discard (hx : Keeps M I x) : Keeps M I (Proc.discard x : Proc E ε' σ Unit) :=
  ⟨fun s m h => (wp_discard s m x _).2 (hx.run s m h)⟩

/-- So does one with a value to fall back on. -/
theorem unwrapOr (hx : Keeps M I x) (d : α) :
    Keeps M I (Proc.unwrapOr x d : Proc E ε' σ α) :=
  ⟨fun s m h => (wp_unwrapOr s m x d _).2 (hx.run s m h)⟩

/-- A program that is run on a condition. -/
theorem when {x : Proc E ε σ Unit} {c : Bool} (hx : c = true → Keeps M I x) :
    Keeps M I (Proc.when c x) := by
  cases c with
  | true => exact hx rfl
  | false => exact Keeps.pure ()

/-- A choice between two programs that keep it. -/
theorem ite {c : Prop} [Decidable c] {y : Proc E ε σ α} (hx : c → Keeps M I x)
    (hy : ¬c → Keeps M I y) : Keeps M I (if c then x else y) := by
  by_cases h : c
  · rw [if_pos h]; exact hx h
  · rw [if_neg h]; exact hy h

/-- An invariant `J` of the whole state, seen from the part `x` works on. -/
theorem onPart {view : τ → σ} {put : σ → τ → τ} {J : τ → M.State → Prop}
    (hx : ∀ u m, J u m → x.wp M (fun _ s' m' => J (put s' u) m') (view u) m) :
    Keeps M J (Proc.onPart view put x : Proc E ε' τ (Except ε α)) :=
  ⟨fun u m h => (wp_onPart m view put x u _).2 (hx u m h)⟩

/-- A program over the left operations, watched by the left part of the monitor. -/
theorem inl {N : Machine (E.sum F)} {J : σ → N.State → Prop}
    (hx : Keeps (M := N.onLeft) J x) : Keeps N J x.inl :=
  ⟨fun s m h => (wp_inl s N x _ m).2 (hx.run s m h)⟩

/-- A handled program keeps what the handler of every operation keeps, as long as the part
of the state it works on does not matter. -/
theorem handled {N : Machine F} {J : τ → N.State → Prop} {h : Handler E F τ}
    {view : τ → σ} {put : σ → τ → τ} (x : Proc E ε σ α)
    (hh : ∀ o u m, J u m → (h o u).wp N (fun out m' => J out.2 m') m)
    (hput : ∀ s u m, J u m → J (put s u) m) :
    Keeps N J (Proc.handled h view put x : Proc F ε' τ (Except ε α)) :=
  ⟨fun u m hu => (wp_handled N x h view put u _ m).2
    (Prog.wp_mono (Prog.wp_handle hh (x (view u)) hu) fun _ m' h' => hput _ _ m' h')⟩

end Keeps

end Proc

-- a statement about a concrete log is not to be evaluated while it is read
attribute [irreducible] Proc.wp Machine.Meets

end Effectful
