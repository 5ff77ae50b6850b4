import NabuCharger.Kmdf.Tick
import NabuCharger.Logic.Session

/-!
# `Kmdf.FccRegister`: the fast-charge-current register of the buck

The driver writes register `0x1061` in sessions of its own: open, grant, write, read back
(`writeFccRaw`). The answer is the read-back, so an answer says what the register holds, and no
answer says nothing: the write may have landed all the same. `writeFccRaw_readBack` is this fact,
for any contents the chip may have after a write.

In the driver a session is one operation, `HostOp.writeFccRaw`. `fccRegister` follows the register
over these: `after n` is what it holds after session `n`, whatever that is, and an answer shows
it. A session is confirmed when its answer is the value that was written (`FccView.Took`). Any
other one was missed (`FccView.Missed`). `stray` is the state the policy does not know about, a
value put there by a session whose read-back did not confirm it.
-/

set_option autoImplicit false

namespace Kmdf

open Effectful Ln8000

/-! ### One session -/

/-- The charger peripheral of the PMIC. -/
def spmiPeriChgr : Nat := 0x0010

/-- `CHGR_FAST_CHARGE_CURRENT_CFG`. -/
def spmiRegChgrFcc : PmicAddr := 0x1061

/-- The PMIC bus alone. -/
def SpmiEffect : Effect where
  Op := SpmiOp
  Resp := SpmiOp.Resp

/-- Programs of one `SUPERUSER` session. A failed call ends it. -/
abbrev SessionM (α : Type) : Type := Proc SpmiEffect Unit Unit α

/-- Ends the session unless the call succeeded. -/
def orEnd (ok : Bool) : SessionM Unit :=
  if ok then pure () else Proc.fail ()

/-- Writes the limit and reads it back. -/
def writeFccRaw (raw : Byte) : SessionM Byte := do
  let opened : Bool ← Proc.perform (E := SpmiEffect) .superuserOpen
  orEnd opened
  let granted : Bool ← Proc.perform (E := SpmiEffect) (.superuserGrant spmiPeriChgr)
  orEnd granted
  let written : Bool ← Proc.perform (E := SpmiEffect) (.superuserWrite spmiRegChgrFcc raw)
  orEnd written
  -- read back in the same session; the caller compares
  let read : Option Byte ← Proc.perform (E := SpmiEffect) (.superuserRead spmiRegChgrFcc)
  Proc.ofExcept (read.elim (.error ()) .ok)

/-- The register during one session: `landed` is what it holds once the write was issued. -/
def sessionRegister (landed : Byte) : Machine SpmiEffect where
  State := Byte
  allow holds
    -- a read of the current register returns what it holds, any other is free
    | .superuserRead addr =>
        fun (answer : Option Byte) => addr = spmiRegChgrFcc → ∀ b, answer = some b → b = holds
    | .superuserWrite .. => fun _ => True
    | .sleep _ => fun _ => True
    | .superuserOpen => fun _ => True
    | .superuserGrant _ => fun _ => True
    | .usbinOpen _ => fun _ => True
    | .usbinTransact .. => fun _ => True
  require _ _ := True
  next holds
    -- one write leaves the value the session lands, whatever was asked for
    | .superuserWrite addr _ => fun _ => if addr = spmiRegChgrFcc then landed else holds
    | .superuserRead _ => fun _ => holds
    | .sleep _ => fun _ => holds
    | .superuserOpen => fun _ => holds
    | .superuserGrant _ => fun _ => holds
    | .usbinOpen _ => fun _ => holds
    | .usbinTransact .. => fun _ => holds

/-- A session goes on after a call that succeeded, and ends otherwise. -/
theorem orEnd_bind {α : Type} {M : Machine SpmiEffect} {f : Unit → SessionM α}
    {Q : Except Unit α → Unit → M.State → Prop} {m : M.State} (ok : Bool)
    (hgo : (f ()).wp M Q () m) (hend : Q (.error ()) () m) : (orEnd ok >>= f).wp M Q () m := by
  refine (Proc.wp_bind () m _ _ _).2 (Proc.wp_ite (fun _ => ?_) fun _ => ?_)
  · exact (Proc.wp_pure _ _ _ _).2 hgo
  · exact (Proc.wp_fail _ _ _ _).2 hend

/-- A session that answers shows what the register holds, and one that does not leaves it as it
was or at what the write landed. -/
theorem writeFccRaw_readBack (raw landed : Byte) (holds : (sessionRegister landed).State) :
    (writeFccRaw raw).wp (sessionRegister landed)
      (fun answer _ holds' => (holds' = holds ∨ holds' = landed) ∧
        ∀ b, answer = .ok b → holds' = b) () holds := by
  have hnone : ∀ b, (.error () : Except Unit Byte) = .ok b → landed = b :=
    fun b h => nomatch h
  refine (Proc.wp_perform_bind (M := sessionRegister landed) () holds SpmiOp.superuserOpen _ _).2
    ⟨trivial, fun opened _ => orEnd_bind opened ?_ ⟨.inl rfl, fun b h => nomatch h⟩⟩
  refine (Proc.wp_perform_bind (M := sessionRegister landed) () _ (SpmiOp.superuserGrant _) _ _).2
    ⟨trivial, fun granted _ => orEnd_bind granted ?_ ⟨.inl rfl, fun b h => nomatch h⟩⟩
  -- from here on the write may have landed
  refine (Proc.wp_perform_bind (M := sessionRegister landed) () _
    (SpmiOp.superuserWrite spmiRegChgrFcc raw) _ _).2
    ⟨trivial, fun written _ => orEnd_bind written ?_ ⟨.inr rfl, hnone⟩⟩
  refine (Proc.wp_perform_bind (M := sessionRegister landed) () _
    (SpmiOp.superuserRead spmiRegChgrFcc) _ _).2 ⟨trivial, fun (read : Option Byte) hread => ?_⟩
  refine (Proc.wp_ofExcept _ _ _ _).2 ⟨.inr rfl, fun b hb => ?_⟩
  cases read with
  | none => exact nomatch hb
  | some b' =>
      have hshown := hread rfl b' rfl
      have hsame : b' = b := Except.ok.inj hb
      rw [← hsame]
      exact hshown.symm

/-! ### The register over the life of the driver -/

/-- What is followed of the register. -/
structure FccView where
  /-- Sessions so far. -/
  sessions : Nat
  holds : Byte
  /-- The value was put there by a session that its read-back did not confirm. -/
  stray : Bool
  /-- What the sessions since the last confirmed one have written, in order. -/
  unconfirmed : List Byte
  deriving DecidableEq, Repr

/-- The register that holds `after n` after session `n`. -/
def fccRegister (after : Nat → Byte) : Machine DevEffect where
  State := FccView
  allow v
    -- what the call read back is what the register held at its end
    | .inr (.writeFccRaw _) =>
        fun (answer : Option Byte) => ∀ b, answer = some b → b = after v.sessions
    | .inl _ => fun _ => True
    | .inr (.spmi _) => fun _ => True
    | .inr .now => fun _ => True
    | .inr .pollGauge => fun _ => True
    | .inr .readChargeRegs => fun _ => True
    | .inr .initializeBattery => fun _ => True
    | .inr (.point _) => fun _ => True
  require _ _ := True
  next v
    | .inr (.writeFccRaw raw) => fun (answer : Option Byte) =>
        { sessions := v.sessions + 1
          holds := after v.sessions
          stray :=
            -- a confirmed write ends a stray value, an unconfirmed one may start it
            if answer = some raw then false
            else if after v.sessions = v.holds then v.stray
            else true
          unconfirmed := if answer = some raw then [] else v.unconfirmed ++ [raw] }
    | .inl _ => fun _ => v
    | .inr (.spmi _) => fun _ => v
    | .inr .now => fun _ => v
    | .inr .pollGauge => fun _ => v
    | .inr .readChargeRegs => fun _ => v
    | .inr .initializeBattery => fun _ => v
    | .inr (.point _) => fun _ => v

/-- The factory value was read a moment ago. -/
def FccView.captured (boot : Byte) : FccView := ⟨0, boot, false, []⟩

/-- The last session wrote this value, and its read-back confirmed it. -/
structure FccView.Took (want : Byte) (v : FccView) : Prop where
  holds : v.holds = want
  unconfirmed : v.unconfirmed = []

/-- The session wrote this value, and no read-back confirmed it. It left the register as it was,
or the value in it is stray. -/
structure FccView.Missed (want : Byte) (v v' : FccView) : Prop where
  unconfirmed : v'.unconfirmed = v.unconfirmed ++ [want]
  holds : v'.stray = false → v'.holds = v.holds ∧ v.stray = false

section
variable {after : Nat → Byte} {Q : Except Empty Bool → Held → (fccRegister after).State → Prop}
  {s : Held} {v : (fccRegister after).State}

/-- A write that counts was confirmed, and any other was missed. -/
theorem writeFcc_wp {want : Byte}
    (hok : ∀ v' : (fccRegister after).State, v'.Took want → Q (.ok true) s v')
    (hno : ∀ v' : (fccRegister after).State, v.Missed want v' → Q (.ok false) s v') :
    (writeFcc want).wp (fccRegister after) Q s v := by
  refine (Proc.wp_perform_bind (M := fccRegister after) s v (Sum.inr (.writeFccRaw want)) _ _).2
    ⟨trivial, fun (answer : Option Byte) hanswer => (Proc.wp_pure _ _ _ _).2 ?_⟩
  -- the write took when the read back is the byte asked for
  by_cases hconfirmed : answer = some want
  · rw [decide_eq_true hconfirmed]
    exact hok _ ⟨(hanswer want hconfirmed).symm, if_pos hconfirmed⟩
  · rw [decide_eq_false hconfirmed]
    refine hno _ ⟨if_neg hconfirmed, fun hstray => ?_⟩
    have hstray : (if answer = some want then false
        else if after v.sessions = v.holds then v.stray else true) = false := hstray
    rw [if_neg hconfirmed] at hstray
    -- unconfirmed: either the register did not move, or a stray value stands in it
    by_cases hsame : after v.sessions = v.holds
    · rw [if_pos hsame] at hstray
      exact ⟨hsame, hstray⟩
    · rw [if_neg hsame] at hstray
      exact absurd hstray (by decide)

end

end Kmdf
