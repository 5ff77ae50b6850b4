import Mathlib.Logic.Basic

/-!
# `Logic.Prog`: programs that talk to an environment

A driver is a program whose meaning is a conversation: it issues an operation, the
environment answers, and what the program does next depends on the answer. `Prog E α` is
that conversation as a tree. A node carries one operation of the signature `E` and one
subtree for every answer the environment could give, so a statement about *all paths* of
the tree is a statement about *every* environment.

`Proc E ε σ α` adds what straight-line code needs on top: a state `σ` the code mutates and
a failure `ε` it can return early with. Its monad is written out, not stacked from
transformers, so that the equations of `Logic.Machine` see one function and no lifting.

A trace of a program is the list of its exchanges. `Steps p t q` says that `p` can make the
exchanges `t` and is then at `q`. `Yields p t a` says that it then returns `a`. A run cut
short in the middle is a `Steps` too, which is what a safety property needs.

`Prog.diverge` is the leaf of a loop that was given up on. A trace never passes it: nothing
is claimed about what follows.
-/

set_option autoImplicit false

namespace Effectful

/-- An effect signature: the operations a program may issue and the type of the answer to
each one. -/
structure Effect where
  Op : Type
  Resp : Op → Type

/-- How often a loop is followed before its trace is given up on. Every property of a
trace is proved for every instance, so a loop that does not end is covered by all of its
finite parts. -/
class LoopFuel where
  fuel : Nat

/-- A program over the signature `E` with result `α`. -/
inductive Prog (E : Effect) (α : Type) : Type
  | ret (a : α)
  | op (o : E.Op) (k : E.Resp o → Prog E α)
  | diverge

/-- One exchange: an operation and its answer. -/
structure Event (E : Effect) where
  op : E.Op
  resp : E.Resp op

namespace Prog

variable {E : Effect} {α β γ : Type}

/-- Sequencing: `f` continues at every leaf that returns. -/
def bind : Prog E α → (α → Prog E β) → Prog E β
  | .ret a, f => f a
  | .op o k, f => .op o fun r => (k r).bind f
  | .diverge, _ => .diverge

/-- Apply `f` to the result. -/
def map (f : α → β) : Prog E α → Prog E β
  | .ret a => .ret (f a)
  | .op o k => .op o fun r => (k r).map f
  | .diverge => .diverge

/-- `p` can make the exchanges `t`, in order, and is then at `q`. -/
inductive Steps : Prog E α → List (Event E) → Prog E α → Prop
  | refl (p : Prog E α) : Steps p [] p
  | op {o : E.Op} {k : E.Resp o → Prog E α} {r : E.Resp o} {t : List (Event E)}
      {q : Prog E α} : Steps (k r) t q → Steps (.op o k) (⟨o, r⟩ :: t) q

/-- `p` can make the exchanges `t` and then return `a`. -/
abbrev Yields (p : Prog E α) (t : List (Event E)) (a : α) : Prop :=
  Steps p t (.ret a)

/-- Run `p` against an executable environment with state `h`. The answer is the trace, the
final state of the environment, and the result, `none` when the run met `diverge`. -/
def runWith {H : Type} (env : H → (o : E.Op) → E.Resp o × H) :
    H → Prog E α → List (Event E) × H × Option α
  | h, .ret a => ([], h, some a)
  | h, .op o k =>
      let answer := env h o
      let rest := runWith env answer.2 (k answer.1)
      (⟨o, answer.1⟩ :: rest.1, rest.2)
  | h, .diverge => ([], h, none)

/-- A run against an executable environment is a trace of the program. -/
theorem steps_runWith {H : Type} (env : H → (o : E.Op) → E.Resp o × H) (p : Prog E α) :
    ∀ h, ∃ q, Steps p (p.runWith env h).1 q ∧
      ∀ a, (p.runWith env h).2.2 = some a → q = .ret a := by
  induction p with
  | ret a =>
      intro h
      exact ⟨.ret a, .refl _, fun b hb => by simpa [runWith] using hb⟩
  | op o k ih =>
      intro h
      obtain ⟨q, hq, hret⟩ := ih (env h o).1 (env h o).2
      exact ⟨q, .op hq, hret⟩
  | diverge =>
      intro h
      exact ⟨.diverge, .refl _, fun b hb => by simp [runWith] at hb⟩

/-- A run that returned is a complete trace. -/
theorem yields_runWith {H : Type} (env : H → (o : E.Op) → E.Resp o × H) (p : Prog E α)
    (h : H) (a : α) (ha : (p.runWith env h).2.2 = some a) :
    Yields p (p.runWith env h).1 a := by
  obtain ⟨q, hq, hret⟩ := steps_runWith env p h
  rw [hret a ha] at hq
  exact hq

end Prog

/-! ### Stateful programs with early return -/

/-- A program over `E` that reads and writes a state `σ` and may fail with `ε`. The state
survives a failure. -/
def Proc (E : Effect) (ε σ α : Type) : Type :=
  σ → Prog E (Except ε α × σ)

namespace Proc

variable {E : Effect} {ε ε' σ τ α β : Type}

/-- What follows an outcome: the continuation after a value, the failure itself otherwise. -/
def andThen (f : α → Proc E ε σ β) : Except ε α × σ → Prog E (Except ε β × σ)
  | (.ok a, s) => f a s
  | (.error e, s) => .ret (.error e, s)

instance : Monad (Proc E ε σ) where
  pure a := fun s => .ret (.ok a, s)
  bind x f := fun s => (x s).bind (andThen f)

/-- Issue one operation and return its answer. -/
def perform (o : E.Op) : Proc E ε σ (E.Resp o) :=
  fun s => .op o fun r => .ret (.ok r, s)

/-- The current state. -/
def get : Proc E ε σ σ :=
  fun s => .ret (.ok s, s)

/-- Replace the state by its image under `f`. -/
def modify (f : σ → σ) : Proc E ε σ Unit :=
  fun s => .ret (.ok (), f s)

/-- Return early with `e`. -/
def fail (e : ε) : Proc E ε σ α :=
  fun s => .ret (.error e, s)

/-- The loop was given up on. -/
def diverge : Proc E ε σ α :=
  fun _ => .diverge

/-- Return a result that is already at hand. -/
def ofExcept : Except ε α → Proc E ε σ α
  | .ok a => pure a
  | .error e => fail e

/-- Run `x` and hand its outcome over as a value: the failure no longer returns early. -/
def attempt (x : Proc E ε σ α) : Proc E ε' σ (Except ε α) :=
  fun s => (x s).map fun out => (.ok out.1, out.2)

/-- Run `x` for its effect, its outcome is dropped. -/
def discard (x : Proc E ε σ α) : Proc E ε' σ Unit :=
  fun s => (x s).map fun out => (.ok (), out.2)

/-- Run `x`, with `d` in place of a failure. -/
def unwrapOr (x : Proc E ε σ α) (d : α) : Proc E ε' σ α :=
  fun s => (x s).map fun out => (.ok (out.1.toOption.getD d), out.2)

/-- Run `x` only if `c` holds. -/
def when (c : Bool) (x : Proc E ε σ Unit) : Proc E ε σ Unit :=
  if c then x else pure ()

/-- Run `x` on the part of the state that `view` reads and `put` writes back. -/
def onPart (view : τ → σ) (put : σ → τ → τ) (x : Proc E ε σ α) :
    Proc E ε' τ (Except ε α) :=
  fun s => (x (view s)).map fun out => (.ok out.1, put out.2 s)

end Proc

/-! ### One signature inside another -/

/-- The signature that offers the operations of both. -/
def Effect.sum (E F : Effect) : Effect where
  Op := E.Op ⊕ F.Op
  Resp
    | .inl o => E.Resp o
    | .inr o => F.Resp o

/-- A program over the left signature, as a program over the sum. -/
def Prog.inl {E F : Effect} {α : Type} : Prog E α → Prog (E.sum F) α
  | .ret a => .ret a
  | .op o k => .op (.inl o) fun r => (k r).inl
  | .diverge => .diverge

/-- A stateful program over the left signature, as one over the sum. -/
def Proc.inl {E F : Effect} {ε σ α : Type} (x : Proc E ε σ α) : Proc (E.sum F) ε σ α :=
  fun s => (x s).inl

/-! ### Handlers -/

/-- What the operations of `E` stand for: programs over `F` with a state of their own. -/
abbrev Handler (E F : Effect) (τ : Type) : Type := (o : E.Op) → τ → Prog F (E.Resp o × τ)

/-- Run a program over `E` with its operations handled. -/
def Prog.handle {E F : Effect} {τ α : Type} (h : Handler E F τ) :
    Prog E α → τ → Prog F (α × τ)
  | .ret a, u => .ret (a, u)
  | .op o k, u => (h o u).bind fun answer => (k answer.1).handle h answer.2
  | .diverge, _ => .diverge

/-- Run a handled program on the part of the state that `view` reads and `put` writes
back. -/
def Proc.handled {E F : Effect} {ε ε' σ τ α : Type} (h : Handler E F τ) (view : τ → σ)
    (put : σ → τ → τ) (x : Proc E ε σ α) : Proc F ε' τ (Except ε α) :=
  fun u => ((x (view u)).handle h u).map fun out => (.ok out.1.1, put out.1.2 out.2)

end Effectful
