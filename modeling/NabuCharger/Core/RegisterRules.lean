import NabuCharger.Core.Session
import NabuCharger.Logic.Fields
import NabuCharger.Logic.Tracking

/-!
# `Core.RegisterRules`: what the core driver does to the configuration registers

Three registers of the peripheral keep what the driver writes: the input current limit, its
override, and the voltage of Quick Charge 2. `coreAnswers` is a peripheral that keeps them. A
transfer may fail at any time, a write that failed may have been made, and every other register
answers as it likes. A link reset clears the buffers of the link, not the registers.

`coreFiles` follows the contents these registers can have. Most programs leave them alone: they
keep any `I` (`Filed`). Of a program that writes them, `Leaves` says what holds of the contents when
it returns a value and when it fails. `Makes writes` is the case of a program that makes the writes
of a list: all of them if it returns a value, the first few if it fails.
-/

set_option autoImplicit false

namespace ChargerCore

open Effectful

/-! ### The peripheral -/

/-- The contents of the registers. -/
abbrev CoreFile : Type := RegAddr → Byte

/-- A masked write of one register. -/
abbrev RegWrite : Type := Effectful.Field RegAddr

/-- The registers that keep what is written to them. -/
def coreConfig : List RegAddr := [usbinCurrentLimitCfg, cmdIclOverride, hvdcpPulseCountMax]

/-- How a peripheral answers that keeps its configuration. -/
def coreAnswers (file : CoreFile) : (o : ChargerOp) → ChargerEffect.Resp o → CoreFile → Prop
  | .read addr => fun (answer : Except TransportError Byte) file' =>
      (addr ∈ coreConfig → ∀ read, answer = .ok read → read = file addr) ∧ file' = file
  | .write addr value => fun (answer : Except TransportError Unit) file' =>
      if addr ∈ coreConfig then
        file' = Function.update file addr value ∨ answer.isOk = false ∧ file' = file
      else file' = file
  | _ => fun _ file' => file' = file

/-- A peripheral without failures. -/
def fileAnswer (file : CoreFile) : (o : ChargerOp) → ChargerEffect.Resp o × CoreFile
  | .name => ("file", file)
  | .read addr => ((.ok (file addr) : Except TransportError Byte), file)
  | .write addr value =>
      ((.ok () : Except TransportError Unit),
        if addr ∈ coreConfig then Function.update file addr value else file)
  | .reset => ((.ok () : Except TransportError Unit), file)
  | .nowMs => ((0 : Nat), file)
  | .event _ => ((), file)

/-- The peripheral without failures is one of those `coreAnswers` allows. -/
theorem coreAnswers_fileAnswer (file : CoreFile) (o : ChargerOp) :
    coreAnswers file o (fileAnswer file o).1 (fileAnswer file o).2 := by
  cases o with
  | name => rfl
  | read addr =>
      refine ⟨fun _ read hread => ?_, rfl⟩
      cases hread
      rfl
  | write addr value =>
      show if addr ∈ coreConfig then _ else _
      -- a write outside the configured registers changes none of them
      by_cases haddr : addr ∈ coreConfig
      · rw [if_pos haddr]
        exact .inl (if_pos haddr)
      · rw [if_neg haddr]
        exact if_neg haddr
  | reset => rfl
  | nowMs => rfl
  | event record => rfl

/-- Follows the contents the configuration registers can have. -/
abbrev coreFiles : Machine ChargerEffect := tracking (E := ChargerEffect) coreAnswers

/-- `I` holds of the contents. -/
abbrev Filed (I : CoreFile → Prop) : Charger → coreFiles.State → Prop :=
  Everywhere (E := ChargerEffect) coreAnswers I

/-! ### Writes that are cut short -/

/-- What the writes of a list leave when they are cut short. -/
def Partly (writes : List RegWrite) (file file' : CoreFile) : Prop :=
  ∃ made, made <+: writes ∧ file' = writeAll made file

/-- The program failed before the first write. -/
theorem Partly.none (writes : List RegWrite) (file : CoreFile) :
    Partly writes file file :=
  ⟨[], List.nil_prefix, rfl⟩

/-- It failed after the last one. -/
theorem Partly.all (writes : List RegWrite) (file : CoreFile) :
    Partly writes file (writeAll writes file) :=
  ⟨writes, List.prefix_rfl, rfl⟩

/-- The cut lies in the first of two lists. -/
theorem Partly.append {first : List RegWrite} {file file' : CoreFile}
    (h : Partly first file file') (rest : List RegWrite) :
    Partly (first ++ rest) file file' := by
  obtain ⟨made, hmade, rfl⟩ := h
  exact ⟨made, hmade.trans (List.prefix_append first rest), rfl⟩

/-- The cut lies in the second one. -/
theorem Partly.behind {first rest : List RegWrite} {file file' : CoreFile}
    (h : Partly rest (writeAll first file) file') :
    Partly (first ++ rest) file file' := by
  obtain ⟨made, hmade, rfl⟩ := h
  refine ⟨first ++ made, (List.prefix_append_right_inj first).2 hmade, ?_⟩
  rw [writeAll_append]

namespace Charger

variable {α β : Type} {I J P : CoreFile → Prop}

/-! ### Programs that leave them alone -/

/-- An operation that writes no configuration register. -/
theorem filed_perform {o : ChargerOp} (ho : ∀ file r file', coreAnswers file o r file' →
      file' = file) :
    Proc.Keeps coreFiles (Filed I)
      (Proc.perform (E := ChargerEffect) o : ChargerM (ChargerEffect.Resp o)) :=
  .tracked fun file r file' hI hstep => ho file r file' hstep ▸ hI

/-- The session is not the peripheral: changing it leaves the registers alone. -/
theorem filed_modify (f : Charger → Charger) :
    Proc.Keeps coreFiles (Filed I) (Proc.modify f : ChargerM Unit) :=
  .modify fun _ _ h => h

/-- Counting changes the session only. -/
theorem filed_count (f : Stats → Stats) : Proc.Keeps coreFiles (Filed I) (count f) :=
  filed_modify _

/-- Reading the clock transfers nothing. -/
theorem filed_nowMs : Proc.Keeps coreFiles (Filed I) nowMs :=
  filed_perform (o := .nowMs) fun _ _ _ h => h

/-- A journal record transfers nothing. -/
theorem filed_log (request : Nat) (level : Level) (kind : EventKind) :
    Proc.Keeps coreFiles (Filed I) (log request level kind) := by
  refine .bind (filed_modify _) fun _ => ?_
  refine .bind .get fun charger => ?_
  refine .bind filed_nowMs fun now => ?_
  exact filed_perform (o := .event _) fun _ _ _ h => h

/-- A transition is recorded in the session and in the journal. -/
theorem filed_transition (target : State) :
    Proc.Keeps coreFiles (Filed I) (transition target) := by
  refine .get_bind fun charger _ _ => .ite (fun hsame => .pure ()) fun hother => ?_
  refine .bind (filed_modify _) fun _ => ?_
  exact filed_log ..

/-- A request number is taken from the session. -/
theorem filed_nextRequest : Proc.Keeps coreFiles (Filed I) nextRequest := by
  refine .bind (filed_modify _) fun _ => ?_
  exact .bind .get fun charger => .pure _

/-- A link reset clears the link, not the registers. -/
theorem filed_reset : Proc.Keeps coreFiles (Filed I)
    (Proc.perform (E := ChargerEffect) .reset : ChargerM (Except TransportError Unit)) :=
  filed_perform (o := .reset) fun _ _ _ h => h

/-- The recovery of an access is a reset between journal records. -/
theorem filed_recover (request : Nat) (op : String) (attempt : Nat) (err : TransportError) :
    Proc.Keeps coreFiles (Filed I) (recover request op attempt err) := by
  refine .bind (filed_count _) fun _ => ?_
  refine .bind (filed_log ..) fun _ => ?_
  refine .bind filed_reset fun (answer : Except TransportError Unit) => ?_
  refine .bind (filed_count _) fun _ => ?_
  refine .bind (filed_log ..) fun _ => ?_
  cases answer with
  | ok u => exact .pure ()
  | error e => exact .bind (filed_count _) fun _ => .fail _

/-! ### What a program leaves of the contents -/

/-- `J` holds of the contents behind a value, `P` behind a failure. -/
def LeftFile (J : α → CoreFile → Prop) (P : CoreFile → Prop) :
    Except ChargerError α → Charger → coreFiles.State → Prop
  | .ok value => Filed (J value)
  | .error _ => Filed P

/-- From `I`, the program leaves `J` with a value and `P` with a failure. -/
def Leaves (I : CoreFile → Prop) (x : ChargerM α) (J : α → CoreFile → Prop)
    (P : CoreFile → Prop) : Prop :=
  ∀ s S, Filed I s S → x.wp coreFiles (LeftFile J P) s S

namespace Leaves

variable {x : ChargerM α} {J J' : α → CoreFile → Prop} {K : β → CoreFile → Prop}
  {I' P' : CoreFile → Prop}

/-- A program that keeps `I` leaves it either way. -/
theorem of_keeps (hx : Proc.Keeps coreFiles (Filed I) x) : Leaves I x (fun _ => I) I := by
  intro s S h
  refine Proc.wp_mono (hx.run s S h) fun r s S hI => ?_
  cases r with
  | ok value => exact hI
  | error err => exact hI

/-- And one that leaves `I` either way keeps it. -/
theorem keeps (hx : Leaves I x (fun _ => I) I) : Proc.Keeps coreFiles (Filed I) x where
  run s S h := by
    refine Proc.wp_mono (hx s S h) fun r s S hI => ?_
    cases r with
    | ok value => exact hI
    | error err => exact hI

/-- The rule of consequence. -/
theorem mono (hx : Leaves I x J P) (hI : ∀ file, I' file → I file)
    (hJ : ∀ value file, J value file → J' value file) (hP : ∀ file, P file → P' file) :
    Leaves I' x J' P' := by
  intro s S h
  refine Proc.wp_mono (hx s S fun file hfile => hI file (h file hfile)) fun r s S hpost => ?_
  cases r with
  | ok value => exact fun file hfile => hJ value file (hpost file hfile)
  | error err => exact fun file hfile => hP file (hpost file hfile)

/-- From a stronger start. -/
theorem imp (hI : ∀ file, I' file → I file) (hx : Leaves I x J P) : Leaves I' x J P :=
  hx.mono hI (fun _ _ h => h) fun _ h => h

/-- A choice leaves what its two branches do. -/
theorem ite {c : Prop} [Decidable c] {y : ChargerM α} (hx : c → Leaves I x J P)
    (hy : ¬c → Leaves I y J P) : Leaves I (if c then x else y) J P :=
  fun s S h => Proc.wp_ite (fun hc => hx hc s S h) fun hc => hy hc s S h

/-- A value leaves the contents as they are. -/
theorem pure (value : α) (hJ : ∀ file, I file → J value file) :
    Leaves I (Pure.pure value) J P :=
  fun s S h => (Proc.wp_pure (LeftFile J P) s S value).2 fun file hfile => hJ file (h file hfile)

/-- So does a failure. -/
theorem fail (err : ChargerError) (hP : ∀ file, I file → P file) :
    Leaves I (Proc.fail err) J P :=
  fun s S h => (Proc.wp_fail (LeftFile J P) s S err).2 fun file hfile => hP file (h file hfile)

/-- A sequence: the second part starts from what the first one leaves with its value. -/
theorem bind {f : α → ChargerM β} (hx : Leaves I x J P)
    (hf : ∀ value, Leaves (J value) (f value) K P) : Leaves I (x >>= f) K P := by
  intro s S h
  refine (Proc.wp_bind s S x f _).2 (Proc.wp_mono (hx s S h) fun r s S hpost => ?_)
  cases r with
  | ok value => exact hf value s S hpost
  | error err => exact hpost

/-- Behind a program that leaves the registers alone. -/
theorem behind {f : α → ChargerM β} (hx : Proc.Keeps coreFiles (Filed I) x)
    (hIP : ∀ file, I file → P file) (hf : ∀ value, Leaves I (f value) K P) :
    Leaves I (x >>= f) K P :=
  .bind ((of_keeps hx).mono (fun _ h => h) (fun _ _ h => h) hIP) hf

/-- A failure leaves the contents alone. -/
theorem of_fail (request : Nat) (op : String) (err : ChargerError) :
    Leaves P (Charger.fail request op err) J P := by
  refine .behind (filed_count _) (fun _ h => h) fun _ => ?_
  refine .behind (filed_transition _) (fun _ h => h) fun _ => ?_
  exact .behind (filed_log ..) (fun _ h => h) fun _ => .fail err fun _ h => h

/-- Recording a failure leaves what the failed program left. -/
theorem orFail {request : Nat} {op : String} (hx : Leaves I x J P) :
    Leaves I (Charger.orFail request op x) J P := by
  intro s S h
  refine (Proc.wp_attempt_bind s S x _ _).2 (Proc.wp_mono (hx s S h) fun r s S hpost => ?_)
  cases r with
  | ok value => exact (Proc.wp_pure (LeftFile J P) s S value).2 hpost
  | error err => exact of_fail request op err s S hpost

/-- What a failure leaves does not depend on what would have come next. -/
theorem fail_bind (request : Nat) (op : String) (err : ChargerError) (f : α → ChargerM β) :
    Leaves P (Charger.fail request op err >>= f) K P := by
  rw [Charger.fail]
  simp only [Proc.bind_assoc]
  refine .behind (filed_count _) (fun _ h => h) fun _ => ?_
  refine .behind (filed_transition _) (fun _ h => h) fun _ => ?_
  exact .behind (filed_log ..) (fun _ h => h) fun _ => .fail err fun _ h => h

/-- Behind a computation that may fault the session. -/
theorem behind_ofExcept {request : Nat} {op : String} {r : Except ChargerError α}
    {f : α → ChargerM β} (hIP : ∀ file, I file → P file)
    (hf : ∀ value, r = .ok value → Leaves I (f value) K P) :
    Leaves I (Charger.orFail request op (Proc.ofExcept r) >>= f) K P := by
  cases r with
  | ok value => exact hf value rfl
  | error err => exact (fail_bind request op err f).imp hIP

end Leaves

/-- What an answer leaves. -/
def AnsweredFile {ε : Type} (I : CoreFile → Prop) (J : α → CoreFile → Prop) :
    Except ε α → CoreFile → Prop
  | .ok value => J value
  | .error _ => I

/-- A caught failure is an answer as well. -/
theorem Leaves.attempt {x : ChargerM α} {J : α → CoreFile → Prop} {P' : CoreFile → Prop}
    (hx : Leaves I x J P) : Leaves I (Proc.attempt x) (AnsweredFile P J) P' := by
  intro s S h
  refine (Proc.wp_attempt (M := coreFiles) s S x _).2 (Proc.wp_mono (hx s S h) ?_)
  intro r s S hpost
  cases r with
  | ok value => exact hpost
  | error err => exact hpost

/-- The loop of a register access. The attempts that fail keep `I`, and the one that succeeds
leaves `J`. -/
theorem attemptLoop_leaves {request : Nat} {op : String}
    {transfer : ChargerM (Except TransportError α)} {finish : α → ChargerM β}
    {J : α → CoreFile → Prop} {K : β → CoreFile → Prop}
    (htransfer : Leaves I transfer (AnsweredFile I J) P)
    (hfinish : ∀ value, Leaves (J value) (finish value) K P) (hIP : ∀ file, I file → P file)
    (fuel : Nat) :
    ∀ attempt, Leaves I (attemptLoop request op transfer finish fuel attempt) K P := by
  induction fuel with
  | zero => exact fun attempt s S _ => (Proc.wp_diverge _ s S).2 trivial
  | succ fuel ih =>
      intro attempt
      refine .bind htransfer fun answer => ?_
      cases answer with
      | ok value => exact hfinish value
      -- A failed attempt kept `I`, and so does the recovery before the next one.
      | error err =>
          refine .behind .get hIP fun charger => .ite (fun _ => ?_) fun _ => ?_
          · exact .behind (filed_count _) hIP fun _ => .fail _ hIP
          · exact .behind (filed_recover ..) hIP fun _ => ih _

/-! ### Register accesses -/

/-- A register that keeps its contents answers with them. -/
theorem read_leaves {addr : RegAddr} {J : Byte → CoreFile → Prop}
    (hJ : ∀ file value, I file → (addr ∈ coreConfig → value = file addr) → J value file) :
    Leaves I (Proc.perform (E := ChargerEffect) (.read addr)) (AnsweredFile I J) P := by
  intro s S h
  refine (Proc.wp_perform (M := coreFiles) s S (.read addr) _).2 ⟨trivial, ?_⟩
  intro (answer : Except TransportError Byte) _
  cases answer with
  | ok value =>
      rintro file' ⟨file, hfile, hread, rfl⟩
      exact hJ _ value (h _ hfile) fun haddr => hread haddr value rfl
  | error err =>
      rintro file' ⟨file, hfile, hread, rfl⟩
      exact h _ hfile

/-- A write can be made, answered or not, and one that is not answered can be lost. -/
theorem write_leaves {addr : RegAddr} {value : Byte} {J : Unit → CoreFile → Prop}
    (hmade : ∀ file, I file →
      J () (if addr ∈ coreConfig then Function.update file addr value else file))
    (hJ : ∀ file, J () file → I file) :
    Leaves I (Proc.perform (E := ChargerEffect) (.write addr value)) (AnsweredFile I J) P := by
  have hstep {file file' : CoreFile} {answer : Except TransportError Unit}
      (hwrite : if addr ∈ coreConfig then
        file' = Function.update file addr value ∨ answer.isOk = false ∧ file' = file
        else file' = file) (hI : I file) : AnsweredFile I J answer file' := by
    have hdone := hmade file hI
    -- An answer means that the write was made. A failure leaves both.
    by_cases haddr : addr ∈ coreConfig
    · rw [if_pos haddr] at hwrite hdone
      cases answer with
      | ok u =>
          rcases hwrite with rfl | ⟨hfailed, -⟩
          · exact hdone
          · cases hfailed
      | error err =>
          rcases hwrite with rfl | ⟨-, rfl⟩
          · exact hJ _ hdone
          · exact hI
    · rw [if_neg haddr] at hwrite hdone
      subst hwrite
      cases answer with
      | ok u => exact hdone
      | error err => exact hI
  intro s S h
  refine (Proc.wp_perform (M := coreFiles) s S (.write addr value) _).2 ⟨trivial, ?_⟩
  intro (answer : Except TransportError Unit) _
  rintro file' ⟨file, hfile, hwrite⟩
  exact hstep hwrite (h file hfile)

/-- The elapsed time takes a reading of the clock. -/
theorem filed_elapsedUs (started : Nat) : Proc.Keeps coreFiles (Filed I) (elapsedUs started) :=
  .bind filed_nowMs fun _ => .pure _

section
variable [LoopFuel]

/-- A register that keeps its contents reads as what it holds. -/
theorem readReg_leaves {addr : RegAddr} (haddr : addr ∈ coreConfig) (request : Nat) :
    Leaves I (readReg addr request) (fun value file => I file ∧ file addr = value) I := by
  refine .behind filed_nowMs (fun _ h => h) fun started => ?_
  refine attemptLoop_leaves (J := fun value file => I file ∧ file addr = value)
    (read_leaves fun file value hI hread => ⟨hI, (hread haddr).symm⟩) (fun value => ?_)
    (fun _ h => h) _ _
  refine .behind (filed_count _) (fun _ h => h.1) fun _ => ?_
  refine .behind (filed_elapsedUs _) (fun _ h => h.1) fun _ => ?_
  exact .behind (filed_log ..) (fun _ h => h.1) fun _ => .pure value fun _ h => h

/-- Reading any register leaves all of them alone, recovery included. -/
theorem filed_readReg (addr : RegAddr) (request : Nat) :
    Proc.Keeps coreFiles (Filed I) (readReg addr request) := by
  refine .bind filed_nowMs fun started => Leaves.keeps ?_
  refine attemptLoop_leaves (J := fun _ => I) (read_leaves fun _ _ hI _ => hI)
    (fun value => .of_keeps ?_) (fun _ h => h) _ _
  refine .bind (filed_count _) fun _ => ?_
  refine .bind (filed_elapsedUs _) fun elapsed => ?_
  exact .bind (filed_log ..) fun _ => .pure _

/-- So does the read-back of a write. -/
theorem filed_verify (addr : RegAddr) (wrote : Byte) (request : Nat) :
    Proc.Keeps coreFiles (Filed I) (verify addr wrote request) := by
  refine .bind .get fun charger => .ite (fun _ => .pure ()) fun _ => ?_
  refine .bind (filed_readReg ..) fun read => ?_
  refine .ite (fun hmismatch => ?_) fun hmatch => .pure ()
  refine .bind (filed_count _) fun _ => ?_
  exact .bind (filed_log ..) fun _ => .fail _

/-- The contents after a write of one register. -/
def Written (I : CoreFile → Prop) (addr : RegAddr) (value : Byte) (file' : CoreFile) : Prop :=
  ∃ file, I file ∧ file' = Function.update file addr value

/-- A write that returns has been made. One that fails may have been: an attempt can reach the
register and lose its answer, and the next attempts then write the same again. -/
theorem writeReg_leaves {addr : RegAddr} (haddr : addr ∈ coreConfig) (value : Byte)
    (request : Nat) : Leaves I (writeReg addr value request) (fun _ => Written I addr value)
      fun file => I file ∨ Written I addr value file := by
  refine .behind filed_nowMs (fun _ h => Or.inl h) fun started => ?_
  refine .imp (I := fun file => I file ∨ Written I addr value file) (fun _ h => Or.inl h) ?_
  refine attemptLoop_leaves (J := fun _ => Written I addr value) ?_ (fun _ => ?_)
    (fun _ h => h) _ _
  · refine write_leaves (fun file hI => ?_) fun _ h => Or.inr h
    rw [if_pos haddr]
    -- A repeated write finds the register as the first one left it, or as it was before.
    rcases hI with hI | ⟨before, hI, rfl⟩
    · exact ⟨file, hI, rfl⟩
    · exact ⟨before, hI, Function.update_idem ..⟩
  · refine .behind (filed_count _) (fun _ h => Or.inr h) fun _ => ?_
    refine .behind (filed_elapsedUs _) (fun _ h => Or.inr h) fun _ => ?_
    refine .behind (filed_log ..) (fun _ h => Or.inr h) fun _ => ?_
    exact (Leaves.of_keeps (filed_verify ..)).mono (fun _ h => h) (fun _ _ h => h)
      fun _ h => Or.inr h

/-- A write of another register leaves those of the configuration alone. -/
theorem filed_writeReg {addr : RegAddr} (haddr : addr ∉ coreConfig) (value : Byte)
    (request : Nat) : Proc.Keeps coreFiles (Filed I) (writeReg addr value request) := by
  refine .bind filed_nowMs fun started => Leaves.keeps ?_
  refine attemptLoop_leaves (J := fun _ => I) (write_leaves (fun file hI => ?_) fun _ h => h)
    (fun _ => .of_keeps ?_) (fun _ h => h) _ _
  · rw [if_neg haddr]
    exact hI
  · refine .bind (filed_count _) fun _ => ?_
    refine .bind (filed_elapsedUs _) fun elapsed => ?_
    refine .bind (filed_log ..) fun _ => ?_
    exact filed_verify ..

/-- So does an update. -/
theorem filed_updateReg {addr : RegAddr} (haddr : addr ∉ coreConfig) (mask value : Byte)
    (request : Nat) : Proc.Keeps coreFiles (Filed I) (updateReg addr mask value request) :=
  .bind (filed_readReg ..) fun _ => filed_writeReg haddr ..

end

/-! ### Programs that make writes -/

/-- Makes the writes, in order. A failure cuts them short. -/
def Makes (writes : List RegWrite) (x : ChargerM α) : Prop :=
  ∀ file, Leaves (· = file) x (fun _ => (· = writeAll writes file)) (Partly writes file)

namespace Makes

variable {x : ChargerM α} {writes rest : List RegWrite}

/-- A value makes no write. -/
theorem nothing (value : α) : Makes [] (pure value : ChargerM α) :=
  fun _ => .pure value fun _ h => h

/-- A sequence makes the writes of its parts. -/
theorem bind {f : α → ChargerM β} (hx : Makes writes x) (hf : ∀ value, Makes rest (f value)) :
    Makes (writes ++ rest) (x >>= f) := by
  intro file
  refine .bind ((hx file).mono (fun _ h => h) (fun _ _ h => h) fun _ h => h.append rest)
    fun value => ?_
  refine (hf value (writeAll writes file)).mono (fun _ h => h) (fun _ file' h => ?_)
    fun _ h => h.behind
  rw [writeAll_append]
  exact h

/-- A failure that is recorded was cut short at the same point. -/
theorem orFail {request : Nat} {op : String} (hx : Makes writes x) :
    Makes writes (orFail request op x) :=
  fun file => (hx file).orFail

variable [LoopFuel]

/-- A masked write. It reads the register once, so every attempt writes the same. -/
theorem update (field : RegWrite) (haddr : field.addr ∈ coreConfig) (request : Nat) :
    Makes [field] (updateReg field.addr field.mask field.value request) := by
  intro file
  -- The value that was read is the one the register holds, so the merged byte is the masked write.
  refine .bind ((readReg_leaves haddr request).mono (fun _ h => h) (fun _ _ h => h) ?_)
    fun current => (writeReg_leaves haddr _ _).mono (fun _ h => h) ?_ ?_
  · rintro file' rfl
    exact .none ..
  · rintro _ file' ⟨_, ⟨rfl, rfl⟩, rfl⟩
    rfl
  · rintro file' (⟨rfl, -⟩ | ⟨_, ⟨rfl, rfl⟩, rfl⟩)
    · exact .none ..
    · exact .all [field] _

/-- A write of the whole register. -/
theorem whole (field : RegWrite) (haddr : field.addr ∈ coreConfig)
    (hmask : field.mask = 0xFF) (request : Nat) :
    Makes [field] (writeReg field.addr field.value request) := by
  -- a write of the whole byte is a merge under the full mask
  have hwrite (file : CoreFile) :
      Function.update file field.addr field.value = writeAll [field] file := by
    have hall := mergeBits_and_self (file field.addr) 0xFF field.value
    rw [show (0xFF : Byte) = BitVec.allOnes 8 from rfl, BitVec.and_allOnes,
      BitVec.and_allOnes] at hall
    rw [writeAll_cons, writeAll_nil, Effectful.Field.write, hmask]
    exact congrArg (Function.update file field.addr) hall.symm
  intro file
  refine (writeReg_leaves haddr _ _).mono (fun _ h => h) ?_ ?_
  · rintro _ file' ⟨_, rfl, rfl⟩
    exact hwrite _
  · rintro file' (rfl | ⟨_, rfl, rfl⟩)
    · exact .none ..
    · rw [hwrite]
      exact .all ..

end Makes

/-! ### The operations -/

/-- Recording a failure writes no register. -/
theorem filed_fail (request : Nat) (op : String) (err : ChargerError) :
    Proc.Keeps coreFiles (Filed I) (fail request op err : ChargerM α) :=
  (Leaves.of_fail request op err).keeps

/-- So it adds nothing to what a program does. -/
theorem filed_orFail {request : Nat} {op : String} {x : ChargerM α}
    (hx : Proc.Keeps coreFiles (Filed I) x) :
    Proc.Keeps coreFiles (Filed I) (orFail request op x) :=
  (Leaves.of_keeps hx).orFail.keeps

/-- The start of a detection is noted in the session. -/
theorem filed_beginDetection (now : Nat) :
    Proc.Keeps coreFiles (Filed I) (beginDetection now) := by
  refine .bind .get fun charger => ?_
  cases charger.detectStartedMs with
  | some started => exact .pure _
  | none =>
      refine .bind (filed_modify _) fun _ => ?_
      exact .bind (filed_transition _) fun _ => .pure _

/-- So is the adapter that a poll finds. -/
theorem filed_compareAdapter (request : Nat) (status result : Byte) (adapter : AdapterType) :
    Proc.Keeps coreFiles (Filed I) (compareAdapter request status result adapter) := by
  refine .bind .get fun charger => ?_
  refine .bind (filed_modify _) fun _ => ?_
  refine .ite (fun hsame => .pure _) fun hother => ?_
  exact .bind (filed_log ..) fun _ => .pure _

/-- An adapter that is gone leaves its limit in the registers. -/
theorem filed_detach : Proc.Keeps coreFiles (Filed I) detach :=
  .bind (filed_modify _) fun _ => .pure _

section
variable [LoopFuel]

/-- The check of the link reads the status, and writes nothing. -/
theorem filed_probe : Proc.Keeps coreFiles (Filed I) probe := by
  refine .bind filed_nextRequest fun request => ?_
  refine .bind (filed_readReg ..) fun status => ?_
  exact .ite (fun hdead => .fail _) fun halive => .pure ()

/-- Opening a session resets the link and checks it. -/
theorem filed_openSession : Proc.Keeps coreFiles (Filed I) openSession := by
  refine .bind filed_nextRequest fun request => ?_
  refine .bind (filed_perform (o := .name) fun _ _ _ h => h) fun name => ?_
  refine .bind filed_reset fun answer => ?_
  refine .bind (filed_log ..) fun _ => ?_
  refine .bind (.attempt filed_probe) fun checked => ?_
  cases checked with
  | ok u =>
      refine .bind (filed_transition _) fun _ => ?_
      exact filed_log ..
  | error err =>
      refine .bind (filed_count _) fun _ => ?_
      refine .bind (filed_log ..) fun _ => ?_
      exact .bind (filed_log ..) fun _ => .fail _

/-- A rerun of the detection writes the command register only. -/
theorem filed_retryDetection (request : Nat) (reason : String) :
    Proc.Keeps coreFiles (Filed I) (retryDetection request reason) := by
  refine .bind .get fun charger => .ite (fun hoff => .pure ()) fun hon => ?_
  refine .bind (filed_modify _) fun _ => ?_
  refine .bind (filed_log ..) fun _ => ?_
  exact filed_orFail (filed_updateReg (by decide) ..)

/-- The result is read when the detection is complete. -/
theorem filed_readResult (status : Byte) (request : Nat) :
    Proc.Keeps coreFiles (Filed I) (readResult status request) :=
  .ite (fun _ => filed_orFail (filed_readReg ..)) fun _ => .pure _

/-- Each conclusion is a rerun, a failure, or an adapter noted in the session. -/
theorem filed_concludeDetection (request : Nat) (status result : Byte) (elapsedMs : Nat) :
    Proc.Keeps coreFiles (Filed I) (concludeDetection request status result elapsedMs) := by
  -- both rerun branches log a reason and write the command register, which is no configured one
  have hretry (reason : String) (pending : Detection) : Proc.Keeps coreFiles (Filed I) (do
      retryDetection request reason
      pure pending : ChargerM Detection) :=
    .bind (filed_retryDetection ..) fun _ => .pure _
  refine .bind .get fun charger => ?_
  cases AdapterType.decode status result charger.config.qc35 with
  | ok adapter =>
      refine .bind (filed_count _) fun _ => ?_
      refine .bind (filed_modify _) fun _ => ?_
      refine .bind (filed_transition _) fun _ => ?_
      exact .bind (filed_log ..) fun _ => .pure _
  | error err =>
      cases err with
      | detectionNotComplete =>
          refine .ite (fun hlate => ?_) fun hearly => .pure _
          exact .ite (fun hspent => filed_fail ..) fun hleft => hretry ..
      | adapterCheckTimeout rawStatus =>
          exact .ite (fun hspent => filed_fail ..) fun hleft => hretry ..
      | _ => exact filed_fail ..

/-- A detection step leaves the configuration alone. -/
theorem filed_detectStep : Proc.Keeps coreFiles (Filed I) detectStep := by
  refine .bind .get fun charger => .ite (fun hclosed => .fail _) fun hopen => ?_
  refine .bind filed_nextRequest fun request => ?_
  refine .bind filed_nowMs fun now => ?_
  refine .bind (filed_beginDetection _) fun started => ?_
  refine .bind (filed_orFail (filed_readReg ..)) fun status => ?_
  refine .bind (filed_readResult ..) fun result => ?_
  refine .bind (filed_modify _) fun _ => ?_
  exact filed_concludeDetection ..

/-- So does a poll of the adapter. -/
theorem filed_monitor : Proc.Keeps coreFiles (Filed I) monitor := by
  refine .bind .get fun charger => .ite (fun hclosed => .fail _) fun hopen => ?_
  refine .bind filed_nextRequest fun request => ?_
  refine .bind (filed_orFail (filed_readReg ..)) fun status => ?_
  refine .ite (fun hdetached => filed_detach) fun hattached => ?_
  refine .bind (filed_orFail (filed_readReg ..)) fun result => ?_
  cases AdapterType.decode status result charger.config.qc35 with
  | ok adapter => exact filed_compareAdapter ..
  | error err =>
      cases err with
      | detectionNotComplete => exact filed_detach
      | _ => exact filed_fail ..

/-- So does a new start of the link. The one operation left is `apply`. -/
theorem filed_reinit : Proc.Keeps coreFiles (Filed I) reinit := by
  refine .bind .get fun charger => .ite (fun hclosed => .fail _) fun hopen => ?_
  refine .bind filed_nextRequest fun request => ?_
  refine .bind filed_reset fun (answer : Except TransportError Unit) => ?_
  refine .bind (filed_count _) fun _ => ?_
  refine .bind (filed_log ..) fun _ => ?_
  cases answer with
  | error err => exact filed_fail ..
  | ok u =>
      refine .bind (filed_modify _) fun _ => ?_
      refine .bind (filed_transition _) fun _ => ?_
      exact filed_probe

end

end Charger

end ChargerCore
