import NabuCharger.Logic.Word

/-!
# `Ln8000.Error`: failures of the bus and of the pump driver

`BusError` is a failed transfer, `PumpError` everything an operation of the driver can
return. Only three categories of bus failure are worth another attempt
(`busRecoverable`).
-/

set_option autoImplicit false

namespace Ln8000

open Effectful

/-- Category of an I²C bus failure. -/
inductive BusErrorKind
  | io
  | timeout
  | disconnected
  | protocol
  | unsupported
  deriving DecidableEq, Repr

/-- Failure of an I²C bus transfer. -/
structure BusError where
  kind : BusErrorKind
  code : Int
  detail : String
  deriving DecidableEq, Repr

namespace BusError

/-- An error of the bus. -/
def io (detail : String) : BusError := ⟨.io, 0, detail⟩
/-- The bus took too long. -/
def timeout (detail : String) : BusError := ⟨.timeout, 0, detail⟩
/-- The answer was not what the protocol asks for. -/
def protocol (detail : String) : BusError := ⟨.protocol, 0, detail⟩
/-- The bus cannot do this. -/
def unsupported (detail : String) : BusError := ⟨.unsupported, 0, detail⟩

end BusError

/-- Error of the pump driver. -/
inductive PumpError
  | bus (err : BusError)
  | notOpen
  | wrongDeviceId (got : Byte)
  | modeNotReached (wanted rawStatus : Byte)
  | bypassNeedsFiveVoltVin (vinUv : Int)
  | fault (mask : Byte) (detail : String)
  | outOfRange (field : String) (requested : Nat)
  | watchdogExpired
  deriving DecidableEq, Repr

/-- Whether the transfer is worth another attempt after a bus reset. -/
def busRecoverable (err : BusError) : Bool :=
  match err.kind with
  | .timeout | .disconnected | .io => true
  | .protocol | .unsupported => false

end Ln8000
