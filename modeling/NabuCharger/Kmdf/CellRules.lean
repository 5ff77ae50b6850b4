import NabuCharger.Kmdf.DriverRules
import NabuCharger.Ln8000.RegisterCell

/-!
# `Kmdf.CellRules`: invariants of a setpoint or of the ADC mode

The input current stands in `IIN_CTRL`, the mode of the ADC in `ADC_CTRL`, and a reset of the chip
clears both. Few steps of the driver write them. `CellRules` is what an invariant about them asks
for: that it hears nothing else (`quietOp`), and reads of the driver state only what a step must
not move unseen.

`CellSteps` adds the three steps of the pump that do write: the taper, `configure` and the soft
reset. From there the entry points follow. The tick leaves open what the wake of the ADC
establishes for the protection step (`CellSteps.telemetryTick`).
-/

set_option autoImplicit false

namespace Kmdf

open Effectful Ln8000

/-- The operation writes neither the setpoint nor the ADC mode, resets no chip, and begins no
`configure`. -/
def quietOp : BusOp → Bool
  | .write addr _ => addr != Regs.iinCtrl && addr != Regs.adcCtrl && addr != Regs.bcOp2
  | .mark .configureBegin => false
  | _ => true

/-- A write of any other register is quiet. -/
theorem quietOp_write {addr : RegAddr} (hiin : addr ≠ Regs.iinCtrl) (hadc : addr ≠ Regs.adcCtrl)
    (hop : addr ≠ Regs.bcOp2) (value : Byte) : quietOp (.write addr value) = true := by
  show (addr != Regs.iinCtrl && addr != Regs.adcCtrl && addr != Regs.bcOp2) = true
  rw [bne_iff_ne.2 hiin, bne_iff_ne.2 hadc, bne_iff_ne.2 hop, Bool.and_self, Bool.and_self]

/-- The registers of the housekeeping are among them. -/
theorem quietOp_housekeeping {addr : RegAddr} (h : addr ∈ housekeeping) (value : Byte) :
    quietOp (.write addr value) = true := by
  have hall : (housekeeping.all fun addr =>
      addr != Regs.iinCtrl && addr != Regs.adcCtrl && addr != Regs.bcOp2) = true := by decide
  exact List.all_eq_true.1 hall addr h

/-- Both registers are spared. -/
theorem spares_of_quietOp {o : BusOp} (h : quietOp o = true) :
    o.spares Regs.iinCtrl = true ∧ o.spares Regs.adcCtrl = true := by
  cases o with
  | write addr value =>
      have haddr : (addr != Regs.iinCtrl && addr != Regs.adcCtrl && addr != Regs.bcOp2) = true := h
      rw [Bool.and_eq_true, Bool.and_eq_true, bne_iff_ne, bne_iff_ne, bne_iff_ne] at haddr
      rw [BusOp.spares, BusOp.spares, isSoftReset_of_ne haddr.2, bne_iff_ne.2 haddr.1.1,
        bne_iff_ne.2 haddr.1.2]
      exact ⟨rfl, rfl⟩
  | read addr => exact ⟨rfl, rfl⟩
  | readPair addr => exact ⟨rfl, rfl⟩
  | reset => exact ⟨rfl, rfl⟩
  | postResetDelay => exact ⟨rfl, rfl⟩
  | mark mk => exact ⟨rfl, rfl⟩

variable {N : Machine DevEffect} {P : DriverState → N.State → Prop}

/-- The bus on which transfers of `IIN_CTRL` succeed and a read returns what was written. -/
abbrev iinBus : Machine DevEffect := (cellBus Regs.iinCtrl).alongside HostEffect

/-- Whether an answer agrees with the known setpoint can be computed. -/
def decideIinBus : ∀ (known : Option Byte) (o : DevEffect.Op) (r : DevEffect.Resp o),
    Decidable (iinBus.allow known o r)
  | known, .inl o, r => decidableCellAnswers Regs.iinCtrl known o r
  | _, .inr _, _ => isTrue trivial

/-- What an invariant of these registers asks for. -/
structure CellRules (N : Machine DevEffect) (P : DriverState → N.State → Prop) : Prop where
  timeless : DriverState.Timeless P
  strikeless : Held.Strikeless (heldOf P)
  windowless : Held.Windowless (heldOf P)
  session : ∀ s (p p' : Pump) m, p.Continues p' →
    onPumpOf (heldOf P) s p m → onPumpOf (heldOf P) s p' m
  host : ∀ o : HostOp, o.silent = true → HostKeeps N P o
  quiet : ∀ s o, quietOp o = true → OpKeeps N.onLeft (onPumpOf (heldOf P) s) o

namespace CellRules

variable (c : CellRules N P)

include c

/-- Every operation of the pump that is not about these registers keeps the invariant. -/
theorem calm (s : Held) : Calm N.onLeft (onPumpOf (heldOf P) s) where
  session := c.session s
  reset := c.quiet s _ rfl
  read _ _ := c.quiet s _ rfl
  safety := c.quiet s _ rfl
  delay := c.quiet s _ rfl
  write _ haddr value := c.quiet s _ (quietOp_housekeeping haddr value)
  pair _ _ := c.quiet s _ rfl

/-- So do the programs of the driver around them. -/
theorem driver : DriverRules N P where
  frame s s' m h hs := c.timeless s s' m h.toAlike hs
  host := c.host
  calm := c.calm
  vinPair s := c.quiet s _ rfl

variable [LoopFuel]

/-- The fault register is one of the others. -/
theorem faultRules (s : Held) : FaultRules N.onLeft (onPumpOf (heldOf P) s) :=
  FaultRules.of_write (c.calm s).toSteady fun value =>
    c.quiet s _ (quietOp_write (by decide) (by decide) (by decide) value)

/-- A mode is requested in `SYS_CTRL`, which is not one of these registers. -/
theorem setOpMode (s : Held) (target : OpMode) :
    Proc.Keeps N.onLeft (onPumpOf (heldOf P) s) (setOpMode target) :=
  setOpMode_keeps (c.calm s).toModes (c.quiet s _ rfl) fun _ _ _ =>
    c.quiet s _ (quietOp_write (by decide) (by decide) (by decide) _)

/-- The detection of reverse current is a bit of `SYS_CTRL`. -/
theorem reverse (s : Held) (field : String) : Proc.Keeps N.onLeft (onPumpOf (heldOf P) s)
    (update Regs.sysCtrl (bit 2) 0 field) :=
  update_keeps (c.calm s).toSteady (by decide) fun _ =>
    c.quiet s _ (quietOp_write (by decide) (by decide) (by decide) _)

/-- A 1:1 request touches none of these registers. -/
theorem enableBypass (s : Held) :
    Proc.Keeps N.onLeft (onPumpOf (heldOf P) s) enableBypass :=
  enableBypass_keeps (c.calm s).toModes (c.quiet s _ rfl) (c.setOpMode s .bypass)

/-- A new float voltage touches another register, and the profile. -/
theorem setVbatFloat (s : Held) {vbatUv : Nat}
    (hprofile : ∀ p m, onPumpOf (heldOf P) s p m →
      onPumpOf (heldOf P) s { p with config := { p.config with vbatFloatUv := vbatUv } } m) :
    Proc.Keeps N.onLeft (onPumpOf (heldOf P) s) (setVbatFloat vbatUv) :=
  setVbatFloat_keeps (c.calm s).toSettled hprofile

end CellRules

/-- The steps of the pump that write these registers. -/
structure CellSteps [LoopFuel] (N : Machine DevEffect) (P : DriverState → N.State → Prop) : Prop
    extends CellRules N P where
  taper : ∀ s p m tapered field, onPumpOf (heldOf P) s p m → tapered < p.config.iinLimitUa →
    Proc.Keeps N.onLeft (onPumpOf (heldOf P) s) (writeIinLimit tapered field)
  configure : ∀ s, Proc.Keeps N.onLeft (onPumpOf (heldOf P) s) Ln8000.configure
  softReset : ∀ s, Proc.Keeps N.onLeft (onPumpOf (heldOf P) s) Ln8000.softReset

namespace CellSteps

variable [LoopFuel] (c : CellSteps N P)

include c

/-- The taper writes the float voltage and the fault mask. -/
theorem taperRules (s : Held) : TaperRules N.onLeft (onPumpOf (heldOf P) s) where
  vinPair := c.quiet s _ rfl
  taper := c.taper s

/-- The recovery of the 5 V bypass resets the chip and configures it. -/
theorem recover (s : Held) : Proc.Keeps N.onLeft (onPumpOf (heldOf P) s) recover5vBypass := by
  have hmodes := (c.calm s).toModes
  have hfault : ∀ value, OpKeeps N.onLeft (onPumpOf (heldOf P) s) (.write Regs.faultCtrl value) :=
    fun value => c.quiet s _ (quietOp_write (by decide) (by decide) (by decide) value)
  have hclean := recoverClean_keeps hmodes (c.taperRules s) hfault (c.setOpMode s .bypass)
  have hrest := recoverConfigured_keeps hmodes (c.taperRules s) (c.configure s) hclean
  exact recover5vBypass_keeps (c.calm s) (c.quiet s _ rfl)
    (resetAndRecover_keeps hmodes (c.softReset s) hrest)

/-- So every start of a charge keeps the invariant, if its setpoints do. -/
theorem start : StartRules N (heldOf P) where
  toHeldRules := c.driver.held
  charge s :=
    { toTaperRules := c.taperRules s
      toFaultRules := c.faultRules s
      reverse := c.reverse s
      standby := c.setOpMode s .standby
      switching := c.setOpMode s .switching
      enableBypass := c.enableBypass s
      recover := c.recover s }
  configure := c.configure
  softReset := c.softReset

/-- So does every landing, if the setpoint for 5 V does. -/
theorem land (hfive : Proc.Keeps N (heldOf P) set5vCurrent) : LandRules N P where
  toDriverRules := c.driver
  start := c.start
  five := hfive

/-- A tick leads from `P₀` to `P`: the wake of the ADC from `P₀` to `L` of the observation, and the
protection step from there to `P`. A tick without a status, or without a pump, finds `P` in
`P₀`. -/
theorem telemetryTick_wp (hfive : Proc.Keeps N (heldOf P) set5vCurrent)
    {P₀ : DriverState → N.State → Prop} (c₀ : CellRules N P₀) (hle : ∀ s m, P₀ s m → P s m)
    {L : Observation → DriverState → N.State → Prop} (hL : ∀ obs, HeldRules N (heldOf (L obs)))
    (hwake : ∀ obs s m, heldOf P₀ s m →
      (keepAdcAwake obs).wp N (fun _ s' m' => heldOf (L obs) s' m') s m)
    (hprotect : ∀ obs s m, heldOf (L obs) s m → (protect obs).wp N
      (fun outcome s' m' => ∃ changed, outcome = .ok changed ∧ heldOf P s' m') s m)
    (hlanding : HostKeeps N P (.point .landing)) (hdone : HostKeeps N P (.point .tickDone))
    (s : DriverState) (m : N.State) (hs : P₀ s m) :
    telemetryTick.wp N (fun _ s' m' => P s' m') s m := by
  have hheld := c.driver.held
  -- the body runs on the open pump, with the cell tracked by the sharper rules of `c₀`
  have hbody : ∀ gauge s m, heldOf P₀ s m →
      (tickOnPump gauge).wp N (fun _ s' m' => heldOf P s' m') s m := by
    intro gauge s m hs
    refine c₀.driver.held.tickOnPump_wp (L := fun obs => heldOf (L obs)) hL hwake ?_
      (fun s m hs => hle s.released m hs) gauge s m hs
    intro obs s m hs
    refine Proc.wp_mono (act_wp (K := fun _ => heldOf P) (hprotect obs) (fun _ => hheld)
      (fun _ => c.timeless.held) (fun _ => c.windowless) (fun _ s => c.setOpMode s .standby)
      c.start s m hs) ?_
    rintro outcome s m ⟨changed, hs⟩
    exact hs
  refine (c₀.host .pollGauge rfl).perform.wp_bind hs ?_ fun e => e.elim
  intro gauge s m hs
  have hborrow := withPump_wp (hbody gauge) (fun s m _ hs => hle s m hs) s m hs
  refine (Proc.wp_bind _ _ _ _ _).2 (Proc.wp_mono hborrow ?_)
  rintro (e | wants) s m hs
  · exact e.elim
  -- the landing that follows is judged by the rules for between the ticks
  have hlandings := (c.land hfive).tickLandings_wp c.driver c.timeless c.timeless hlanding
    (fun _ _ hs => hs) (fun _ _ hs => hs) wants.join s m hs
  refine (Proc.wp_bind _ _ _ _ _).2 (Proc.wp_mono hlandings ?_)
  rintro (e | _) s m hs
  · exact e.elim
  exact (Proc.wp_perform s m (E := DevEffect) _ _).2 (hdone s m hs)

/-- A tick: the wake of the ADC leads from `P` to `L` of the observation, and the protection step
back to `P`. -/
theorem telemetryTick (hfive : Proc.Keeps N (heldOf P) set5vCurrent)
    {L : Observation → DriverState → N.State → Prop} (hL : ∀ obs, HeldRules N (heldOf (L obs)))
    (hwake : ∀ obs s m, heldOf P s m →
      (keepAdcAwake obs).wp N (fun _ s' m' => heldOf (L obs) s' m') s m)
    (hprotect : ∀ obs s m, heldOf (L obs) s m → (protect obs).wp N
      (fun outcome s' m' => ∃ changed, outcome = .ok changed ∧ heldOf P s' m') s m)
    (hlanding : HostKeeps N P (.point .landing)) (hdone : HostKeeps N P (.point .tickDone)) :
    Proc.Keeps N P telemetryTick :=
  ⟨fun s m hs => c.telemetryTick_wp hfive c.toCellRules (fun _ _ hs => hs) hL hwake hprotect
    hlanding hdone s m hs⟩

/-- So does a negotiation that a client asks for. -/
theorem handleRunHvdcp (hfive : Proc.Keeps N (heldOf P) set5vCurrent)
    (hlanding : HostKeeps N P (.point .landing)) (command : Nat) :
    Proc.Keeps N P (handleRunHvdcp command) :=
  (c.land hfive).handleRunHvdcp c.timeless hlanding command

end CellSteps

end Kmdf
