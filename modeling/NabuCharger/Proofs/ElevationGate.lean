import NabuCharger.Kmdf.ElevationRules
import NabuCharger.Proofs.PmicRegisters

/-!
# `Proofs.ElevationGate`: no adapter is raised that was not detected

What `Kmdf.ElevationRules` says of the machine, said of its exchanges. A negotiation writes
`CMD_HVDCP_2` only after the PMIC has shown it an adapter that may be raised, so a computer's port
or a plain supply stays at 5 V. A negotiation that fails has sent the adapter nothing, or was
interrupted by the bus, and then `FORCE_5V` was the last it sent.
-/

set_option autoImplicit false

namespace Kmdf

open Effectful Ln8000

/-- In every negotiation, cut short or not, whatever the PMIC answers, every write of
`CMD_HVDCP_2` comes after an answer that shows an adapter that may be raised. A negotiation that
returns is done and has seen one, or is marked as failed. Then it has written nothing to
`CMD_HVDCP_2`, or the bus failed it and `FORCE_5V` was its last write there. -/
theorem negotiation_gated (usbinId : Option Nat) (vbatUv : Nat) (st : HvdcpState) :
    (∀ t q, Prog.Steps (runNegotiate usbinId vbatUv st) t q → ∀ before e after,
      t = before ++ e :: after → (HvdcpOp.stepWrite? e.op).isSome = true →
        ∃ seen ∈ before, HvdcpOp.shows seen.op seen.resp = true) ∧
    ∀ t r st', (runNegotiate usbinId vbatUv).Yields st t r st' →
      (r = .ok () → st'.phase = .done ∧ ∃ seen ∈ t, HvdcpOp.shows seen.op seen.resp = true) ∧
      ∀ e, r = .error e → st'.phase = .failed ∧ (stepWrites t = [] ∨
        (stepWrites t).getLast? = some Pmic.bitForce5v ∧ e = .spmiIo) := by
  have hgate : (runNegotiate usbinId vbatUv).wp elevationGate Concluded st Elevation.start :=
    gate_runNegotiate usbinId vbatUv rfl
  have hwp := hgate.prog
  constructor
  · rintro t q ht before e after rfl hstep
    have hallow := elevationGate_allowed before Elevation.start
    -- any prefix of the run meets the gate, so a step in it found the adapter shown
    have hmeets := Machine.Meets.require_at elevationGate (ht.meets hwp) hallow
    rcases (shown_after before Elevation.start).1 (hmeets hstep) with hstart | hseen
    · cases hstart
    · exact hseen
  · intro t r st' h
    -- a negotiation that ends has concluded, and the last read says which way
    have hpost := Prog.Yields.post h hwp (elevationGate_allowed t _)
    have hshown := shown_after t Elevation.start
    have hlast := last_after t Elevation.start
    rw [show Elevation.start.last = none from rfl, Option.or_none] at hlast
    constructor
    · rintro rfl
      refine ⟨hpost.1, (hshown.1 hpost.2).resolve_left ?_⟩
      exact Bool.false_ne_true
    · rintro e rfl
      refine ⟨hpost.1, ?_⟩
      have hend := hpost.2
      unfold GivesUp at hend
      rw [hlast, List.getLast?_eq_none_iff] at hend
      exact hend

/-- The pulses of a negotiation with a QC3 adapter. -/
theorem negotiation_gated_qc3 : ∃ t st',
    (runNegotiate none 3900000).Yields HvdcpState.new t (.ok ()) st' ∧ stepWrites t ≠ [] ∧
      st'.phase = .done ∧ ∃ seen ∈ t, HvdcpOp.shows seen.op seen.resp = true := by
  have hrun : ((runNegotiate none 3900000 HvdcpState.new).runWith fileEnv qc3File).2.2.map
      (fun out => decide (out.1.toOption.isSome = true)) = some true := by decide +kernel
  have hsteps : stepWrites ((runNegotiate none 3900000 HvdcpState.new).runWith
      fileEnv qc3File).1 ≠ [] := by decide +kernel
  obtain ⟨⟨r, st'⟩, hout, hok⟩ := Option.map_eq_some_iff.1 hrun
  have hyields := Prog.yields_runWith (E := HvdcpEffect) fileEnv _ _ _ hout
  cases r with
  | error e => cases hok
  | ok _ =>
      have hdone := ((negotiation_gated none 3900000 HvdcpState.new).2 _ _ _ hyields).1 rfl
      exact ⟨_, st', hyields, hsteps, hdone⟩

end Kmdf
