import NabuCharger.Logic.History
import NabuCharger.Logic.Served

/-!
# `Logic.Tracking`: the states an environment can be in

An environment that answers as `R` says has a choice, and `Served` follows one of its choices.
`tracking R` is the monitor that follows all of them: its state is the predicate of the states the
environment can be in. A precondition for this monitor speaks of every choice, so the rules for
programs against a monitor are rules for programs against the environment.

`Everywhere I` says that `I` holds of every state the environment can be in.
`Proc.Yields.everywhere` takes it back to one choice.
-/

set_option autoImplicit false

namespace Effectful

variable {E : Effect} {ε σ α H : Type} {R : H → (o : E.Op) → E.Resp o → H → Prop}

/-- Follows the states the environment can be in. Nothing is asked of either side. -/
abbrev tracking (R : H → (o : E.Op) → E.Resp o → H → Prop) : Machine E where
  State := H → Prop
  allow _ _ _ := True
  require _ _ := True
  next S o r h' := ∃ h, S h ∧ R h o r h'

/-- The state the environment is in is one it can be in. -/
theorem Served.tracked {h h' : H} {t : List (Event E)} (hserved : Served R h t h') :
    ∀ S : H → Prop, S h → (tracking R).after S t h' := by
  induction hserved with
  | done h => exact fun S hS => hS
  | @step h h' h'' e t hstep _ ih =>
      intro S hS
      rw [Machine.after_cons]
      exact ih _ ⟨h, hS, hstep⟩

/-- A monitor that tracks assumes nothing. -/
theorem tracking_allowed (t : List (Event E)) : ∀ S, (tracking R).Allowed S t := by
  induction t with
  | nil => exact fun S => trivial
  | cons e t ih => exact fun S => ⟨trivial, ih _⟩

/-- `I` holds wherever the environment can be. -/
abbrev Everywhere (R : H → (o : E.Op) → E.Resp o → H → Prop) (I : H → Prop) :
    σ → (tracking R).State → Prop :=
  fun _ S => ∀ h, S h → I h

/-- What a precondition says of every choice holds of the one that was made. -/
theorem Proc.Yields.everywhere {x : Proc E ε σ α} {Q : Except ε α → σ → H → Prop} {s s' : σ}
    {t : List (Event E)} {r : Except ε α} {h h' : H} (hrun : x.Yields s t r s')
    (hwp : x.wp (tracking R) (fun r s' S => ∀ h', S h' → Q r s' h') s (fun h' => h' = h))
    (hserved : Served R h t h') : Q r s' h' :=
  Prog.Yields.post hrun hwp.prog (tracking_allowed t _) h' (hserved.tracked _ rfl)

/-- An operation after which `I` holds whatever the answer is. -/
theorem Proc.Keeps.tracked {I : H → Prop} {o : E.Op}
    (ho : ∀ h r h', I h → R h o r h' → I h') :
    Proc.Keeps (tracking R) (Everywhere R I) (Proc.perform o : Proc E ε σ (E.Resp o)) :=
  Proc.Keeps.perform fun _ _ hI => ⟨trivial, fun r _ h' hstep => by
    obtain ⟨h, hS, hR⟩ := hstep
    exact ho h r h' (hI h hS) hR⟩

/-- The turns that an executable environment has served. -/
theorem History.served_execute {ι : Type} {env : H → (o : E.Op) → E.Resp o × H}
    (henv : ∀ h o, R h o (env h o).1 (env h o).2) (x : ι → Proc E ε σ α) (is : List ι) :
    ∀ h s turns s', History.execute env x h s is = some (turns, s') →
      ∃ h', Served R h (turnExchanges turns) h' := by
  -- induction on the calls: each is answered from where the one before left the environment
  induction is with
  | nil =>
      intro h s turns s' heq
      cases heq
      exact ⟨h, .done h⟩
  | cons i is ih =>
      intro h s turns s' heq
      have hfirst := Prog.served_runWith henv (x i s) h
      rw [History.execute] at heq
      cases hout : ((x i s).runWith env h).2.2 with
      | none =>
          simp only [hout] at heq
          cases heq
      | some out =>
          simp only [hout, Option.map_eq_some_iff] at heq
          obtain ⟨⟨rest, s''⟩, hrest, heq⟩ := heq
          cases heq
          obtain ⟨h', hserved⟩ := ih _ _ _ _ hrest
          exact ⟨h', hfirst.append hserved⟩

end Effectful
