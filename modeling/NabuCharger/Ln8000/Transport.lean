import NabuCharger.Logic.Machine
import NabuCharger.Ln8000.Status

/-!
# `Ln8000.Transport`: the register bus as an effect

The driver core talks to the chip through four calls of the `RegisterBus` trait, and it
has the caller sleep after a reset. Each of them is an operation of `BusEffect`. Nothing is
assumed about the answers: every transfer may fail, and a read may return any value.

Two facts the properties speak of cannot be told from the transfers alone, a mode request
(a write of `SYS_CTRL` may also be the reverse-current step) and the two ends of
`configure`. `BusOp.mark` makes them visible in a trace. It is not a transfer and its
answer carries nothing, so no program can depend on it.
-/

set_option autoImplicit false

namespace Ln8000

open Effectful

/-- A point of the driver made visible in its trace. -/
inductive Mark
  /-- `set_op_mode` is about to write this mode. -/
  | request (mode : OpMode)
  /-- `configure` starts. -/
  | configureBegin
  /-- `configure` returns `Ok`. -/
  | configured
  deriving DecidableEq, Repr

/-- Operations of the pump driver. -/
inductive BusOp
  | read (addr : RegAddr)
  | write (addr : RegAddr) (value : Byte)
  | reset
  | readPair (addr : RegAddr)
  /-- The delay the caller passes in, slept after a soft reset. -/
  | postResetDelay
  | mark (m : Mark)
  deriving DecidableEq, Repr

/-- The register bus. -/
def BusEffect : Effect where
  Op := BusOp
  Resp
    | .read _ => Except BusError Byte
    | .write _ _ => Except BusError Unit
    | .reset => Except BusError Unit
    | .readPair _ => Except BusError (BitVec 16)
    | .postResetDelay => Unit
    | .mark _ => Unit

/-- Operations can be compared. -/
instance : DecidableEq BusEffect.Op := inferInstanceAs (DecidableEq BusOp)

/-- What a transport without a pair transfer of its own does for `readPair`: two reads, the low
byte first. -/
def readPairBytes {σ : Type} (addr : RegAddr) : Proc BusEffect BusError σ (BitVec 16) := do
  let low : Byte ← Proc.perform (E := BusEffect) (BusOp.read addr) >>= Proc.ofExcept
  let high : Byte ← Proc.perform (E := BusEffect) (BusOp.read (addr + 1)) >>= Proc.ofExcept
  pure (low.setWidth 16 ||| high.setWidth 16 <<< 8)

end Ln8000
