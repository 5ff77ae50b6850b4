import NabuCharger.Kmdf.HvdcpRules
import NabuCharger.Logic.History
import NabuCharger.Logic.Returns

/-!
# `Kmdf.VinTrace`: the samples and the sleeps of a negotiation

What a caller of the Quick Charge machine can see of its waits: the samples of `Vin` it took
(`vinReads`) and the time it slept (`sleptMs`). The waits are the only programs that sample, and
the register traffic between two samples is silent (`silent_closed`).

`WorkingBus` says of a trace that every transfer of it got an answer. Over such a trace a pulse
always succeeds, whether or not the latch keeps it off the bus (`pulseAuthStep_ok`).
-/

set_option autoImplicit false

namespace Kmdf

open Effectful Ln8000

/-! ### Readings of a trace -/

/-- The sample an exchange took. -/
def vinOf : Event HvdcpEffect → Option Int
  | ⟨.readVin, vin⟩ => some vin
  | ⟨.spmi _, _⟩ => none

/-- The samples of `Vin` in a trace, in order. -/
def vinReads (t : List (Event HvdcpEffect)) : List Int := t.filterMap vinOf

/-- The time an operation sleeps. -/
def HvdcpOp.sleepMs : HvdcpOp → Nat
  | .spmi (.sleep ms) => ms
  | _ => 0

/-- The time slept in a trace. -/
def sleptMs (t : List (Event HvdcpEffect)) : Nat := (t.map fun e => HvdcpOp.sleepMs e.op).sum

/-- Nothing was exchanged, so nothing was sampled. -/
@[simp] theorem vinReads_nil : vinReads [] = [] := rfl

/-- The samples of two traces one after the other. -/
@[simp] theorem vinReads_append (t u : List (Event HvdcpEffect)) :
    vinReads (t ++ u) = vinReads t ++ vinReads u :=
  List.filterMap_append

/-- A sample comes before those behind it. -/
@[simp] theorem vinReads_readVin (vin : Int) (t : List (Event HvdcpEffect)) :
    vinReads (⟨.readVin, vin⟩ :: t) = vin :: vinReads t := rfl

/-- An operation of the bus is no sample. -/
@[simp] theorem vinReads_spmi (o : SpmiOp) (r : o.Resp) (t : List (Event HvdcpEffect)) :
    vinReads (⟨.spmi o, r⟩ :: t) = vinReads t := rfl

/-- Nothing was exchanged, so nothing was slept. -/
@[simp] theorem sleptMs_nil : sleptMs [] = 0 := rfl

/-- A sample takes no time. -/
@[simp] theorem sleptMs_readVin (vin : Int) (t : List (Event HvdcpEffect)) :
    sleptMs (⟨.readVin, vin⟩ :: t) = sleptMs t := Nat.zero_add _

/-- A pause adds its length. -/
@[simp] theorem sleptMs_sleep (ms : Nat) (r : Unit) (t : List (Event HvdcpEffect)) :
    sleptMs (⟨.spmi (.sleep ms), r⟩ :: t) = ms + sleptMs t := rfl

section
variable {ε α : Type} {s s' : HvdcpState} {t : List (Event HvdcpEffect)}

/-- A sample comes first, and the rest goes on from it. -/
theorem readVin_bind_cases {f : Int → Proc HvdcpEffect ε HvdcpState α} {r : Except ε α}
    (h : (readVin >>= f).Yields s t r s') :
    ∃ (vin : Int) (rest : List (Event HvdcpEffect)),
      t = ⟨.readVin, vin⟩ :: rest ∧ (f vin).Yields s rest r s' :=
  Proc.Yields.perform_bind (E := HvdcpEffect) (o := HvdcpOp.readVin) h

/-- A sequence that begins with a pause. -/
theorem sleepMs_bind_cases {ms : Nat} {f : Unit → Proc HvdcpEffect ε HvdcpState α}
    {r : Except ε α} (h : (sleepMs ms >>= f).Yields s t r s') :
    ∃ rest : List (Event HvdcpEffect),
      t = ⟨.spmi (.sleep ms), ()⟩ :: rest ∧ (f ()).Yields s rest r s' :=
  let ⟨_, rest, ht, hrest⟩ :=
    Proc.Yields.perform_bind (E := HvdcpEffect) (o := HvdcpOp.spmi (.sleep ms)) h
  ⟨rest, ht, hrest⟩

/-! ### Programs that take no sample -/

/-- The program takes no sample. -/
def Silent (x : Proc HvdcpEffect ε HvdcpState α) : Prop :=
  ∀ s t r s', x.Yields s t r s' → vinReads t = []

/-- An operation of the bus takes no sample. -/
theorem silent_spmi (o : SpmiOp) : Silent (spmi o : Proc HvdcpEffect ε HvdcpState o.Resp) := by
  intro s t r s' h
  obtain ⟨answer, rfl, -, -⟩ :=
    Proc.Yields.perform_cases (E := HvdcpEffect) (o := HvdcpOp.spmi o) h
  rfl

/-- A sequence of two silent programs. -/
theorem Silent.bind {β : Type} {x : Proc HvdcpEffect ε HvdcpState α}
    {f : α → Proc HvdcpEffect ε HvdcpState β} (hx : Silent x) (hf : ∀ a, Silent (f a)) :
    Silent (x >>= f) := by
  intro s t r s' h
  obtain ⟨t₁, t₂, a, s₁, rfl, hfirst, hsecond⟩ | ⟨e, -, hfirst⟩ := h.bind_cases
  · rw [vinReads_append, hx _ _ _ _ hfirst, hf _ _ _ _ _ hsecond]
    rfl
  · exact hx _ _ _ _ hfirst

end

/-- Everything but a sample is silent. -/
theorem silent_closed : HvdcpClosed fun _ _ x => Silent x where
  pure _ _ _ _ _ h := by
    obtain ⟨rfl, -, -⟩ := h.pure_cases
    rfl
  fail _ _ _ _ _ h := by
    obtain ⟨rfl, -, -⟩ := h.fail_cases
    rfl
  bind hx hf := hx.bind hf
  attempt hx _ _ _ _ h := by
    -- a composed program is silent if its parts are, whatever their outcome
    obtain ⟨out, -, hout⟩ := h.attempt_cases
    exact hx _ _ _ _ hout
  discard hx _ _ _ _ h := by
    obtain ⟨-, out, hout⟩ := h.discard_cases
    exact hx _ _ _ _ hout
  unwrapOr _ hx _ _ _ _ h := by
    obtain ⟨⟨out, s₁⟩, -, hout⟩ := Prog.Yields.map_cases h
    exact hx _ _ _ _ hout
  get_bind _ hf s _ _ _ h := hf s s _ _ _ h.get_bind
  modify _ _ _ _ _ h := by
    obtain ⟨rfl, -, -⟩ := h.modify_cases
    rfl
  quiet _ := silent_spmi _

/-- A program that looks at the state first. -/
theorem Silent.get_bind {ε α : Type} {f : HvdcpState → Proc HvdcpEffect ε HvdcpState α}
    (hf : ∀ st, Silent (f st)) : Silent (Proc.get >>= f) :=
  fun s _ _ _ h => hf s s _ _ _ h.get_bind

/-- A write takes no sample. -/
theorem silent_writeReg (bus : Bus) (addr : PmicAddr) (value : Byte) :
    Silent (writeReg bus addr value) :=
  silent_closed.writeReg_of bus fun _ _ => silent_spmi _

/-- Neither does a step. -/
theorem silent_pulseCmdBit (bus : Bus) (stepBit : Byte) : Silent (pulseCmdBit bus stepBit) := by
  refine .get_bind fun st => silent_closed.ite (fun _ => silent_closed.pure _) fun _ => ?_
  refine .bind (silent_closed.unwrapOr 0 (silent_closed.readReg bus _)) fun _ => ?_
  exact .bind (silent_writeReg bus _ _) fun _ => silent_closed.pure _

/-- A step up with its pause takes none. -/
theorem silent_pulseIncGap (bus : Bus) (gapMs : Nat) : Silent (pulseIncGap bus gapMs) := by
  refine .bind (silent_pulseCmdBit bus _) fun sent => .bind ?_ fun _ => silent_spmi _
  refine silent_closed.when ?_
  intro s t r s' h
  obtain ⟨rfl, -, -⟩ := h.modify_cases
  rfl

/-- A step down with its pause takes none. -/
theorem silent_pulseDecGap (bus : Bus) (gapMs : Nat) : Silent (pulseDecGap bus gapMs) := by
  refine .bind (silent_pulseCmdBit bus _) fun sent => .bind ?_ fun _ => silent_spmi _
  refine silent_closed.when ?_
  intro s t r s' h
  obtain ⟨rfl, -, -⟩ := h.modify_cases
  rfl

/-- Everything without a wait returns. -/
theorem returns_closed : HvdcpClosed fun _ _ x => Proc.Returns x where
  pure a := .pure a
  fail e := .fail e
  bind hx hf := hx.bind hf
  attempt hx := hx.attempt
  discard hx := hx.discard
  unwrapOr d hx := hx.unwrapOr d
  get_bind _ hf := .bind .get hf
  modify _ := .modify _
  quiet _ := .perform _

/-- A write always returns. -/
theorem returns_writeReg (bus : Bus) (addr : PmicAddr) (value : Byte) :
    Proc.Returns (writeReg bus addr value) :=
  returns_closed.writeReg_of bus fun _ _ => .perform _

/-- So does a step. -/
theorem returns_pulseCmdBit (bus : Bus) (stepBit : Byte) :
    Proc.Returns (pulseCmdBit bus stepBit) := by
  refine .bind .get fun st => .ite (.pure _) ?_
  refine .bind (.unwrapOr (returns_closed.readReg bus _) 0) fun _ => ?_
  exact .bind (returns_writeReg bus _ _) fun _ => .pure _

/-- So does a step up with its pause. -/
theorem returns_pulseIncGap (bus : Bus) (gapMs : Nat) : Proc.Returns (pulseIncGap bus gapMs) :=
  .bind (returns_pulseCmdBit bus _) fun sent =>
    .bind (.when sent (.modify _)) fun _ => .perform _

/-- So does a step down with its pause. -/
theorem returns_pulseDecGap (bus : Bus) (gapMs : Nat) : Proc.Returns (pulseDecGap bus gapMs) :=
  .bind (returns_pulseCmdBit bus _) fun sent =>
    .bind (.when sent (.modify _)) fun _ => .perform _

/-! ### A bus that does not fail -/

/-- The transfer of an exchange got through. Sleeps and samples always do. -/
def Event.works : Event HvdcpEffect → Prop
  | ⟨.spmi .superuserOpen, ok⟩ => ok = true
  | ⟨.spmi (.superuserGrant _), ok⟩ => ok = true
  | ⟨.spmi (.superuserRead _), answer⟩ => answer ≠ none
  | ⟨.spmi (.superuserWrite _ _), ok⟩ => ok = true
  | ⟨.spmi (.usbinOpen _), ok⟩ => ok = true
  | ⟨.spmi (.usbinTransact _ _ _), answer⟩ => answer ≠ none
  | ⟨.spmi (.sleep _), _⟩ => True
  | ⟨.readVin, _⟩ => True

instance : ∀ e : Event HvdcpEffect, Decidable (Event.works e)
  | ⟨.spmi .superuserOpen, (ok : Bool)⟩ => inferInstanceAs (Decidable (ok = true))
  | ⟨.spmi (.superuserGrant _), (ok : Bool)⟩ => inferInstanceAs (Decidable (ok = true))
  | ⟨.spmi (.superuserRead _), (answer : Option Byte)⟩ =>
      inferInstanceAs (Decidable (answer ≠ none))
  | ⟨.spmi (.superuserWrite _ _), (ok : Bool)⟩ => inferInstanceAs (Decidable (ok = true))
  | ⟨.spmi (.usbinOpen _), (ok : Bool)⟩ => inferInstanceAs (Decidable (ok = true))
  | ⟨.spmi (.usbinTransact _ _ _), (answer : Option Byte)⟩ =>
      inferInstanceAs (Decidable (answer ≠ none))
  | ⟨.spmi (.sleep _), _⟩ => isTrue trivial
  | ⟨.readVin, _⟩ => isTrue trivial

/-- Every transfer of the trace got through. -/
def WorkingBus (t : List (Event HvdcpEffect)) : Prop := ∀ e ∈ t, Event.works e

instance (t : List (Event HvdcpEffect)) : Decidable (WorkingBus t) :=
  List.decidableBAll _ t

/-- A trace works if and only if both its parts do. -/
theorem workingBus_append {t u : List (Event HvdcpEffect)} :
    WorkingBus (t ++ u) ↔ WorkingBus t ∧ WorkingBus u :=
  List.forall_mem_append

/-- What follows the first exchange of a trace that works. -/
theorem WorkingBus.tail {e : Event HvdcpEffect} {t : List (Event HvdcpEffect)}
    (h : WorkingBus (e :: t)) : WorkingBus t :=
  (List.forall_mem_cons.1 h).2

section
variable {s s' : HvdcpState} {t : List (Event HvdcpEffect)}

/-- On a bus that works, a write succeeds. -/
theorem writeReg_ok {bus : Bus} {addr : PmicAddr} {value : Byte} {r : Except HvdcpError Unit}
    (h : (writeReg bus addr value).Yields s t r s') (hbus : WorkingBus t) : r = .ok () := by
  cases bus with
  | superuser =>
      obtain ⟨ok, rest, rfl, hrest⟩ := Proc.Yields.perform_bind (E := HvdcpEffect)
        (o := HvdcpOp.spmi (.superuserWrite addr value)) h
      -- a delivered write answers true
      have hok : ok = true := hbus _ (List.mem_cons_self ..)
      subst hok
      exact hrest.pure_cases.2.1
  | usbin =>
      obtain ⟨t₁, t₂, a, s₁, rfl, -, hpure⟩ | ⟨e, -, hfail⟩ := h.get_bind.bind_cases
      · exact hpure.pure_cases.2.1
      · obtain ⟨answer, rest, rfl, hrest⟩ := Proc.Yields.perform_bind (E := HvdcpEffect)
          (o := HvdcpOp.spmi (.usbinTransact addr (some value) s.bigEndian)) hfail
        -- a delivered transfer answers with a byte
        have hanswer : answer ≠ none := hbus _ (List.mem_cons_self ..)
        cases answer with
        | none => exact absurd rfl hanswer
        | some read => cases hrest.pure_cases.2.1

/-- A pulse is sent, or the latch keeps it back: neither fails. -/
theorem pulseCmdBit_ok {bus : Bus} {stepBit : Byte} {r : Except HvdcpError Bool}
    (h : (pulseCmdBit bus stepBit).Yields s t r s') (hbus : WorkingBus t) :
    ∃ sent, r = .ok sent := by
  have h := h.get_bind
  -- under the 9 V latch no pulse is sent, and that is a success
  by_cases hlatch : s.force9vLatched = true
  · rw [if_pos hlatch] at h
    exact ⟨false, h.pure_cases.2.1⟩
  rw [if_neg hlatch] at h
  obtain ⟨t₁, t₂, current, s₁, rfl, -, h⟩ | ⟨e, -, h⟩ := h.bind_cases
  · obtain ⟨-, hbus⟩ := workingBus_append.1 hbus
    obtain ⟨t₃, t₄, _, s₂, rfl, -, hpure⟩ | ⟨e, rfl, hwrite⟩ := h.bind_cases
    · exact ⟨true, hpure.pure_cases.2.1⟩
    · cases writeReg_ok hwrite hbus
  · obtain ⟨⟨out, s₁⟩, heq, -⟩ := Prog.Yields.map_cases h
    cases heq

/-- What follows a pulse command, on either side, does not fail. -/
theorem pulseGap_ok {bus : Bus} {stepBit : Byte} {gapMs : Nat} {f : HvdcpState → HvdcpState}
    {r : Except HvdcpError Unit}
    (h : (pulseCmdBit bus stepBit >>= fun sent =>
      Proc.when sent (Proc.modify f) >>= fun _ => sleepMs gapMs : HvdcpM Unit).Yields s t r s')
    (hbus : WorkingBus t) : r = .ok () := by
  obtain ⟨t₁, t₂, sent, s₁, rfl, -, hrest⟩ | ⟨e, -, hfail⟩ := h.bind_cases
  · -- counted or not, the gap follows
    have hcount : ∃ out s₂, (sleepMs gapMs : HvdcpM Unit).Yields s₂ out r s' := by
      cases sent with
      | true => exact ⟨_, _, hrest.modify_bind⟩
      | false => exact ⟨_, _, hrest⟩
    obtain ⟨out, s₂, hsleep⟩ := hcount
    obtain ⟨answer, -, hok, -⟩ := Proc.Yields.perform_cases (E := HvdcpEffect)
      (o := HvdcpOp.spmi (.sleep gapMs)) hsleep
    exact hok
  · obtain ⟨sent, hsent⟩ := pulseCmdBit_ok hfail hbus
    cases hsent

/-- A pulse of a train does not fail, and takes no sample. -/
theorem pulseAuthStep_ok {bus : Bus} {pulse : Qc35AuthPulse} {r : Except Unit Unit}
    (h : (pulseAuthStep bus pulse).Yields s t r s') (hbus : WorkingBus t) :
    r = .ok () ∧ vinReads t = [] := by
  obtain ⟨t₁, t₂, out, s₁, rfl, hpulse, hrest⟩ := h.attempt_bind
  obtain ⟨hworks, -⟩ := workingBus_append.1 hbus
  have hsent : out = .ok () ∧ vinReads t₁ = [] := by
    cases pulse with
    | inc => exact ⟨pulseGap_ok hpulse hworks, silent_pulseIncGap bus _ _ _ _ _ hpulse⟩
    | dec => exact ⟨pulseGap_ok hpulse hworks, silent_pulseDecGap bus _ _ _ _ _ hpulse⟩
  obtain ⟨rfl, hsilent⟩ := hsent
  obtain ⟨rfl, hok, -⟩ := hrest.pure_cases
  rw [vinReads_append, hsilent]
  exact ⟨hok, rfl⟩

/-- Nor does a whole train. -/
theorem pulseTrain_ok {bus : Bus} {pulses : List Qc35AuthPulse} {r : Except Unit Unit}
    (h : (pulseTrain bus pulses).Yields s t r s') (hbus : WorkingBus t) :
    r = .ok () ∧ vinReads t = [] := by
  induction pulses generalizing s t with
  | nil =>
      obtain ⟨rfl, hok, -⟩ := h.pure_cases
      exact ⟨hok, rfl⟩
  | cons pulse rest ih =>
      obtain ⟨t₁, t₂, _, s₁, rfl, hpulse, hrest⟩ | ⟨e, -, hfail⟩ := h.bind_cases
      · obtain ⟨hfirst, hlater⟩ := workingBus_append.1 hbus
        obtain ⟨hok, hsilent⟩ := ih hrest hlater
        rw [vinReads_append, (pulseAuthStep_ok hpulse hfirst).2, hsilent]
        exact ⟨hok, rfl⟩
      · cases (pulseAuthStep_ok hfail hbus).1

end

end Kmdf
