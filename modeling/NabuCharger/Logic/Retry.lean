import NabuCharger.Logic.History
import NabuCharger.Logic.Returns

/-!
# `Logic.Retry`: loops that try again

A retry loop issues one operation until an answer is good enough or its budget is used up. What
it did is told by the answers it got to that operation (`answersTo`), whatever it does between
the attempts. `Settles limit wrap attempts r` is what a caller relies on: there are at most
`limit + 1` attempts, a value comes from one of them, and a failure is the one of the last.

`Settles.failed_first` is the step of the induction over a loop: an attempt that failed in front
of a loop with one attempt less.
-/

set_option autoImplicit false

namespace Effectful

variable {E : Effect} {ε ε' α σ : Type}

/-- The answers to one operation, in order. -/
def answersTo [DecidableEq E.Op] (o : E.Op) (t : List (Event E)) : List (E.Resp o) :=
  t.filterMap fun e => if h : e.op = o then some (h ▸ e.resp) else none

section answersTo

variable [DecidableEq E.Op] {o o' : E.Op}

/-- Nothing was asked. -/
@[simp] theorem answersTo_nil : answersTo o ([] : List (Event E)) = [] := rfl

/-- The operation was answered. -/
@[simp] theorem answersTo_cons_self (answer : E.Resp o) (t : List (Event E)) :
    answersTo o (⟨o, answer⟩ :: t) = answer :: answersTo o t := by
  rw [answersTo, List.filterMap_cons_some (b := answer) (by simp)]
  rfl

/-- Another operation was answered. -/
theorem answersTo_cons_ne (h : o' ≠ o) (answer : E.Resp o') (t : List (Event E)) :
    answersTo o (⟨o', answer⟩ :: t) = answersTo o t :=
  List.filterMap_cons_none (dif_neg h)

/-- The answers of two traces, one after the other. -/
@[simp] theorem answersTo_append (t u : List (Event E)) :
    answersTo o (t ++ u) = answersTo o t ++ answersTo o u :=
  List.filterMap_append

/-- A trace that does not issue the operation has no answer to it. -/
theorem answersTo_eq_nil {t : List (Event E)} (h : ∀ e ∈ t, e.op ≠ o) : answersTo o t = [] := by
  rw [answersTo, List.filterMap_eq_nil_iff]
  exact fun e he => dif_neg (h e he)

end answersTo

/-- What the attempts of a loop decide: `limit` is how often it may try again, `wrap` how it
reports the failure of the last attempt. -/
structure Settles (limit : Nat) (wrap : ε → ε') (attempts : List (Except ε α))
    (r : Except ε' α) : Prop where
  bounded : attempts.length ≤ limit + 1
  success : ∀ value, r = .ok value ↔ .ok value ∈ attempts
  failure : ∀ err', r = .error err' → ∃ err,
    attempts.getLast? = some (.error err) ∧ err' = wrap err

namespace Settles

variable {limit : Nat} {wrap : ε → ε'} {attempts : List (Except ε α)} {r : Except ε' α}

/-- The only attempt succeeds. -/
theorem ok (limit : Nat) (wrap : ε → ε') (value : α) :
    Settles limit wrap [.ok value] (.ok value) where
  bounded := by simp
  success other := by simp [eq_comm]
  failure _ h := by cases h

/-- The only attempt fails, and is not repeated. -/
theorem error (limit : Nat) (wrap : ε → ε') (err : ε) :
    Settles limit wrap [(.error err : Except ε α)] (.error (wrap err)) where
  bounded := by simp
  success _ := by simp
  failure _ h := by
    cases h
    exact ⟨err, rfl, rfl⟩

/-- A failure in front costs one attempt, and changes nothing else. -/
theorem failed_first (h : Settles limit wrap attempts r) (err : ε) :
    Settles (limit + 1) wrap (.error err :: attempts) r where
  bounded := by
    rw [List.length_cons]
    exact Nat.succ_le_succ h.bounded
  success value := by
    rw [h.success value, List.mem_cons]
    simp
  failure err' hr := by
    obtain ⟨err, hlast, rfl⟩ := h.failure err' hr
    refine ⟨err, ?_, rfl⟩
    rw [List.getLast?_cons, hlast]
    rfl

/-- A limit may be raised. -/
theorem mono {limit' : Nat} (h : Settles limit wrap attempts r) (hle : limit ≤ limit') :
    Settles limit' wrap attempts r :=
  ⟨Nat.le_trans h.bounded (Nat.succ_le_succ hle), h.success, h.failure⟩

/-- Without a success, the result is the failure of the last attempt. -/
theorem of_no_success (h : Settles limit wrap attempts r) (hnone : ∀ value, .ok value ∉ attempts) :
    ∃ err, attempts.getLast? = some (.error err) ∧ r = .error (wrap err) := by
  cases r with
  | ok value => exact absurd ((h.success value).1 rfl) (hnone value)
  | error err' =>
      obtain ⟨err, hlast, rfl⟩ := h.failure err' rfl
      exact ⟨err, hlast, rfl⟩

end Settles

/-- The program returns, whatever the answers are, and what it returns is what the attempts
decide. -/
def EndsBy (limit : Nat) (wrap : ε → ε') (attempts : List (Event E) → List (Except ε α))
    (x : Proc E ε' σ α) (s : σ) : Prop :=
  (x s).Returns ∧ ∀ t r s', x.Yields s t r s' → Settles limit wrap (attempts t) r

end Effectful
