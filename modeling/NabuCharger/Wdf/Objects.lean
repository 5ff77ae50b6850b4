import NabuCharger.Logic.Machine
import NabuCharger.Wdf.Request

/-!
# `Wdf.Objects`: framework objects and what may be done with them

A driver that talks to a device for a short time makes its objects on the way: an I/O target, a
request and the memories of the request. It gets them as handles and has to delete them. `ObjectOp`
are the calls it makes, and nothing is assumed about what they return.

`framework` is the monitor of these calls over a device. It keeps the objects that exist, with what
is in them, and asks for the rules: only what exists is used, a request goes to an open target with
memories that are filled, a target is closed before it is deleted, and nothing is deleted twice. A
handle that a successful call returns is new.

The device is a function of its own state, of any type, so it may answer one call in one way and
the next in another. A completed request has the status and the bytes of the device in it.
-/

set_option autoImplicit false

namespace Wdf

open Effectful

/-- A framework handle. -/
abbrev Handle : Type := Nat

/-- `WDF_IO_TARGET_OPEN_PARAMS` of an open by name. -/
structure OpenParams where
  targetDeviceName : String
  desiredAccess : Nat
  shareAccess : Nat
  createDisposition : Nat
  fileAttributes : Nat
  createOptions : Nat
  deriving DecidableEq, Repr

/-- Calls on objects. `copyIn`, `fill` and `copyOut` are what the driver does with the buffer of a
memory. -/
inductive ObjectOp
  | createTarget
  | openTarget (target : Handle) (params : OpenParams)
  | closeTarget (target : Handle)
  | createRequest (target : Handle)
  | createMemory (size : Nat)
  | copyIn (memory : Handle) (bytes : List Byte)
  | fill (memory : Handle) (byte : Byte) (size : Nat)
  | copyOut (memory : Handle) (size : Nat)
  | formatForIoctl (target request : Handle) (ioctl : Nat) (input : Handle)
      (output : Option Handle)
  | send (request target : Handle) (options : SendOptions)
  | getStatus (request : Handle)
  | delete (object : Handle)
  deriving DecidableEq, Repr

/-- A call that makes an object returns a status and a handle. -/
def ObjectEffect : Effect where
  Op := ObjectOp
  Resp
    | .createTarget => Int × Handle
    | .openTarget .. => Int
    | .closeTarget _ => Unit
    | .createRequest _ => Int × Handle
    | .createMemory _ => Int × Handle
    | .copyIn .. => Unit
    | .fill .. => Unit
    | .copyOut .. => List Byte
    | .formatForIoctl .. => Int
    | .send .. => Bool
    | .getStatus _ => Int
    | .delete _ => Unit

/-! ### The objects -/

/-- Where a request is. -/
inductive Stage
  | created
  | formatted (ioctl : Nat) (input : Handle) (output : Option Handle)
  | completed (status : Int)
  deriving DecidableEq, Repr

/-- An object that exists. The bytes of a memory are there once it was filled. -/
inductive Object
  | target (isOpen : Bool)
  | request (stage : Stage)
  | memory (size : Nat) (content : Option (List Byte))
  deriving DecidableEq, Repr

/-- A device: the status of a request, the bytes it returns, and its next state. -/
abbrev Device (D : Type) : Type := D → Nat → List Byte → Nat → (Int × List Byte) × D

/-- The objects that exist, and the device behind the targets. -/
structure Framework (D : Type) where
  objects : Handle → Option Object
  device : D

namespace Framework

variable {D : Type}

/-- Nothing has been made. -/
def start (d : D) : Framework D := { objects := fun _ => none, device := d }

/-- The object behind a handle, or none. -/
def put (m : Framework D) (handle : Handle) (object : Option Object) : Framework D :=
  { m with objects := Function.update m.objects handle object }

/-- The object of a successful call exists from now on. -/
def make (m : Framework D) (object : Object) (answer : Int × Handle) : Framework D :=
  if ntOk answer.1 = true then m.put answer.2 (some object) else m

/-- The memory is there, and filled. -/
def Filled (m : Framework D) (handle : Handle) : Prop :=
  ∃ size bytes, m.objects handle = some (.memory size (some bytes))

/-- What a memory object holds, empty if it is none. -/
def bytesOf (m : Framework D) (handle : Handle) : List Byte :=
  match m.objects handle with
  | some (.memory _ (some bytes)) => bytes
  | _ => []

/-- A device may return fewer bytes than there is room for. -/
def overlay (bytes old : List Byte) : List Byte :=
  bytes.take old.length ++ old.drop bytes.length

/-- The memory behind the output of a request. -/
def outputOf (m : Framework D) : Option Handle → List Byte
  | none => []
  | some handle => m.bytesOf handle

/-- The device takes the request and completes it. -/
def complete (dev : Device D) (m : Framework D) (request : Handle) (ioctl : Nat)
    (input : Handle) (output : Option Handle) : Framework D :=
  let room := m.outputOf output
  let ran := dev m.device ioctl (m.bytesOf input) room.length
  let done := { m.put request (some (.request (.completed ran.1.1))) with device := ran.2 }
  match output with
  | none => done
  | some handle => done.put handle (some (.memory room.length (some (overlay ran.1.2 room))))

/-- What a call may be made on. -/
def Requires (m : Framework D) : ObjectOp → Prop
  | .createTarget => True
  | .openTarget target _ => m.objects target = some (.target false)
  | .closeTarget target => m.objects target = some (.target true)
  | .createRequest target => m.objects target = some (.target true)
  | .createMemory size => 0 < size
  | .copyIn memory bytes => ∃ content, m.objects memory = some (.memory bytes.length content)
  | .fill memory _ size => ∃ content, m.objects memory = some (.memory size content)
  | .copyOut memory size => ∃ bytes, m.objects memory = some (.memory size (some bytes))
  | .formatForIoctl target request _ input output =>
      m.objects target = some (.target true) ∧
        (∃ stage, m.objects request = some (.request stage)) ∧ m.Filled input ∧
        ∀ handle, output = some handle → m.Filled handle
  | .send request target _ =>
      m.objects target = some (.target true) ∧ ∃ ioctl input output,
        m.objects request = some (.request (.formatted ioctl input output)) ∧ m.Filled input ∧
          ∀ handle, output = some handle → m.Filled handle
  | .getStatus request => ∃ status, m.objects request = some (.request (.completed status))
  | .delete object => ∃ there, m.objects object = some there ∧ there ≠ .target true

/-- What a call can answer. -/
def Allows (m : Framework D) : (o : ObjectOp) → ObjectEffect.Resp o → Prop
  | .createTarget => fun answer => m.objects (Prod.snd answer) = none
  | .createRequest _ => fun answer => m.objects (Prod.snd answer) = none
  | .createMemory _ => fun answer => m.objects (Prod.snd answer) = none
  | .copyOut memory _ => fun bytes => bytes = m.bytesOf memory
  | .getStatus request => fun status =>
      ∀ done, m.objects request = some (.request (.completed done)) → status = done
  | .openTarget .. => fun _ => True
  | .closeTarget _ => fun _ => True
  | .copyIn .. => fun _ => True
  | .fill .. => fun _ => True
  | .formatForIoctl .. => fun _ => True
  | .send .. => fun _ => True
  | .delete _ => fun _ => True

/-- What an operation does to the objects: it makes, opens, fills, sends and deletes them. -/
def next (dev : Device D) (m : Framework D) :
    (o : ObjectOp) → ObjectEffect.Resp o → Framework D
  | .createTarget => fun answer => m.make (.target false) answer
  | .openTarget target _ => fun (status : Int) =>
      if ntOk status = true then m.put target (some (.target true)) else m
  | .closeTarget target => fun _ => m.put target (some (.target false))
  | .createRequest _ => fun answer => m.make (.request .created) answer
  | .createMemory size => fun answer => m.make (.memory size none) answer
  | .copyIn memory bytes => fun _ => m.put memory (some (.memory bytes.length (some bytes)))
  | .fill memory byte size => fun _ =>
      m.put memory (some (.memory size (some (List.replicate size byte))))
  | .copyOut .. => fun _ => m
  | .formatForIoctl _ request ioctl input output => fun (status : Int) =>
      if ntOk status = true then m.put request (some (.request (.formatted ioctl input output)))
      else m
  | .send request _ _ => fun (sent : Bool) =>
      match sent, m.objects request with
      | true, some (.request (.formatted ioctl input output)) =>
          complete dev m request ioctl input output
      | _, _ => m
  | .getStatus _ => fun _ => m
  | .delete object => fun _ => m.put object none

/-- What a call can answer is checked by looking at one object. -/
instance decidableAllows (m : Framework D) :
    (o : ObjectOp) → (r : ObjectEffect.Resp o) → Decidable (m.Allows o r)
  | .createTarget => fun answer =>
      inferInstanceAs (Decidable (m.objects (Prod.snd answer) = none))
  | .createRequest _ => fun answer =>
      inferInstanceAs (Decidable (m.objects (Prod.snd answer) = none))
  | .createMemory _ => fun answer =>
      inferInstanceAs (Decidable (m.objects (Prod.snd answer) = none))
  | .copyOut memory _ => fun (bytes : List Byte) =>
      inferInstanceAs (Decidable (bytes = m.bytesOf memory))
  | .getStatus request => fun (status : Int) =>
      match h : m.objects request with
      | some (.request (.completed done)) =>
          decidable_of_iff (status = done)
            ⟨fun heq other hother => by rw [h] at hother; cases hother; exact heq,
              fun hall => hall done h⟩
      | some (.request .created) => isTrue fun other hother => by rw [h] at hother; cases hother
      | some (.request (.formatted ..)) =>
          isTrue fun other hother => by rw [h] at hother; cases hother
      | some (.target _) => isTrue fun other hother => by rw [h] at hother; cases hother
      | some (.memory ..) => isTrue fun other hother => by rw [h] at hother; cases hother
      | none => isTrue fun other hother => by rw [h] at hother; cases hother
  | .openTarget .. => fun _ => isTrue trivial
  | .closeTarget _ => fun _ => isTrue trivial
  | .copyIn .. => fun _ => isTrue trivial
  | .fill .. => fun _ => isTrue trivial
  | .formatForIoctl .. => fun _ => isTrue trivial
  | .send .. => fun _ => isTrue trivial
  | .delete _ => fun _ => isTrue trivial

end Framework

/-- The rules of the framework, over a device. -/
abbrev framework {D : Type} (dev : Device D) : Machine ObjectEffect where
  State := Framework D
  allow := Framework.Allows
  require := Framework.Requires
  next := Framework.next dev

instance decidableFramework {D : Type} {dev : Device D} (m : Framework D)
    (t : List (Event ObjectEffect)) : Decidable ((framework dev).Allowed m t) :=
  @Machine.decidableAllowed _ (framework dev) Framework.decidableAllows m t

/-! ### A framework that works -/

/-- A framework in which every call succeeds, with the next handle it gives out. -/
structure Working (D : Type) where
  framework : Framework D
  fresh : Handle

namespace Working

variable {D : Type}

/-- No handle has been given out. -/
def start (d : D) : Working D := { framework := .start d, fresh := 1 }

/-- The status a completed request has. -/
def statusOf (w : Working D) (request : Handle) : Int :=
  match w.framework.objects request with
  | some (.request (.completed status)) => status
  | _ => 0

/-- A working framework grants every call and gives out fresh handles. -/
def response (w : Working D) : (o : ObjectOp) → ObjectEffect.Resp o
  | .createTarget => ((0 : Int), w.fresh)
  | .openTarget .. => (0 : Int)
  | .closeTarget _ => ()
  | .createRequest _ => ((0 : Int), w.fresh)
  | .createMemory _ => ((0 : Int), w.fresh)
  | .copyIn .. => ()
  | .fill .. => ()
  | .copyOut memory _ => w.framework.bytesOf memory
  | .formatForIoctl .. => (0 : Int)
  | .send .. => true
  | .getStatus request => w.statusOf request
  | .delete _ => ()

/-- An answer of the working framework, with what it did to the objects. -/
def answer (dev : Device D) (w : Working D) (o : ObjectOp) :
    ObjectEffect.Resp o × Working D :=
  (w.response o, { framework := w.framework.next dev o (w.response o), fresh := w.fresh + 1 })

end Working

end Wdf
