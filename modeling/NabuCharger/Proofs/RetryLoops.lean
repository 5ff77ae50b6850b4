import NabuCharger.Core.Access
import NabuCharger.Ln8000.Chip
import NabuCharger.Logic.Retry

/-!
# `Proofs.RetryLoops`: the retry loops end

The pump and the core driver repeat a failed transfer until their counter is above the limit of
the profile. The counter is a byte and saturates. Below 255 it passes the limit after one more
failure than the limit (`satAdd_le_iff`), so the loop ends by the attempts `Settles` allows. At
255 the comparison is never true, and a bus that keeps failing keeps the loop running.

`retryLoops_end_iff` says so for the three transfers of the pump and the two accesses of the
core, each with the answers its attempts got.
-/

set_option autoImplicit false

namespace Effectful

/-- Below 255 the counter of the attempts counts them. -/
theorem satAdd_of_le {attempt limit : Nat} (hle : attempt ≤ limit) (hlimit : limit < 255) :
    satAdd 8 attempt 1 = attempt + 1 := by
  simp only [satAdd, wordMax]
  omega

/-- The counter never passes the largest byte. -/
theorem satAdd_le_wordMax (attempt : Nat) : satAdd 8 attempt 1 ≤ 255 := by
  simp only [satAdd, wordMax]
  omega

end Effectful

namespace Ln8000

open Effectful

/-- The answers to the reads of a register. -/
def readAnswers (addr : RegAddr) (t : List (Event BusEffect)) : List (Except BusError Byte) :=
  answersTo (E := BusEffect) (BusOp.read addr) t

/-- The answers to the reads of a pair of registers. -/
def pairAnswers (addr : RegAddr) (t : List (Event BusEffect)) :
    List (Except BusError (BitVec 16)) :=
  answersTo (E := BusEffect) (BusOp.readPair addr) t

/-- The answers to the writes of a value. -/
def writeAnswers (addr : RegAddr) (value : Byte) (t : List (Event BusEffect)) :
    List (Except BusError Unit) :=
  answersTo (E := BusEffect) (BusOp.write addr value) t

/-- The read answers of two traces in a row are those of each. -/
theorem readAnswers_append (addr : RegAddr) (t u : List (Event BusEffect)) :
    readAnswers addr (t ++ u) = readAnswers addr t ++ readAnswers addr u :=
  answersTo_append (E := BusEffect) t u

/-- A trace that does not read the register has no answers of it. -/
theorem readAnswers_eq_nil {addr : RegAddr} {t : List (Event BusEffect)}
    (h : ∀ e ∈ t, e.op ≠ BusOp.read addr) : readAnswers addr t = [] :=
  answersTo_eq_nil (E := BusEffect) h

/-- `transfer` is the exchange `o` on the bus, and `attempts` collects its answers. -/
structure OneExchange {α : Type} (o : BusOp) (transfer : PumpM (Except BusError α))
    (attempts : List (Event BusEffect) → List (Except BusError α)) : Prop where
  nil : attempts [] = []
  reset : ∀ (answer : BusEffect.Resp BusOp.reset) t,
    attempts (Event.mk (E := BusEffect) BusOp.reset answer :: t) = attempts t
  returns : ∀ {β : Type} (f : Except BusError α → PumpM β) p,
    ((transfer >>= f) p).Returns ↔ ∀ answer, (f answer p).Returns
  yields : ∀ {β : Type} {f : Except BusError α → PumpM β} {p p' : Pump} {t r},
    (transfer >>= f).Yields p t r p' → ∃ e answer rest, t = e :: rest ∧ e.op = o ∧
      attempts t = answer :: attempts rest ∧ (f answer).Yields p rest r p'

/-- A register read is one exchange. -/
theorem oneExchange_read (addr : RegAddr) :
    OneExchange (.read addr) (busRead addr) (readAnswers addr) where
  nil := rfl
  reset answer t := answersTo_cons_ne (E := BusEffect) (by intro h; cases h) answer t
  returns f p := Iff.rfl
  yields h := by
    obtain ⟨answer, rest, rfl, hrest⟩ := Proc.Yields.perform_bind h
    exact ⟨_, answer, rest, rfl, rfl, answersTo_cons_self (E := BusEffect) answer rest, hrest⟩

/-- A read of a pair is one exchange. -/
theorem oneExchange_readPair (addr : RegAddr) :
    OneExchange (.readPair addr) (busReadPair addr) (pairAnswers addr) where
  nil := rfl
  reset answer t := answersTo_cons_ne (E := BusEffect) (by intro h; cases h) answer t
  returns f p := Iff.rfl
  yields h := by
    obtain ⟨answer, rest, rfl, hrest⟩ := Proc.Yields.perform_bind h
    exact ⟨_, answer, rest, rfl, rfl, answersTo_cons_self (E := BusEffect) answer rest, hrest⟩

/-- A register write is one exchange. -/
theorem oneExchange_write (addr : RegAddr) (value : Byte) :
    OneExchange (.write addr value) (busWrite addr value) (writeAnswers addr value) where
  nil := rfl
  reset answer t := answersTo_cons_ne (E := BusEffect) (by intro h; cases h) answer t
  returns f p := Iff.rfl
  yields h := by
    obtain ⟨answer, rest, rfl, hrest⟩ := Proc.Yields.perform_bind h
    exact ⟨_, answer, rest, rfl, rfl, answersTo_cons_self (E := BusEffect) answer rest, hrest⟩

section retryLoop

variable {α : Type} {o : BusOp} {transfer : PumpM (Except BusError α)} {count : Pump → Pump}
  {attempts : List (Event BusEffect) → List (Except BusError α)}

/-- With a limit below 255, the loop returns by the time its budget is used up. -/
theorem retryLoop_returns (h : OneExchange o transfer attempts) {p : Pump}
    (hlimit : p.config.maxBusRetries < 255) (fuel : Nat) : ∀ {attempt : Nat},
      attempt ≤ p.config.maxBusRetries → p.config.maxBusRetries < attempt + fuel →
      (retryLoop transfer count fuel attempt p).Returns := by
  -- induction on the fuel: each failed try below the limit spends one unit
  induction fuel with
  | zero => exact fun hle hfuel => by omega
  | succ fuel ih =>
      intro attempt hle hfuel
      rw [retryLoop, h.returns]
      intro answer
      cases answer with
      | ok value => trivial
      | error err =>
          rw [satAdd_of_le hle hlimit]
          show ((if (!busRecoverable err || decide (attempt + 1 > p.config.maxBusRetries)) = true
            then _ else _ : PumpM α) p).Returns
          split
          next hstop => trivial
          next hgo =>
            simp only [Bool.or_eq_true, decide_eq_true_eq, not_or, not_lt] at hgo
            exact fun _ => ih hgo.2 (by omega)

/-- What the attempts of the loop decide: `attempt` of them have failed before. -/
theorem retryLoop_settles (h : OneExchange o transfer attempts) (fuel : Nat) :
    ∀ {attempt : Nat} {p p' : Pump} {t : List (Event BusEffect)} {r : Except PumpError α},
      p.config.maxBusRetries < 255 → attempt ≤ p.config.maxBusRetries →
      (retryLoop transfer count fuel attempt).Yields p t r p' →
      Settles (p.config.maxBusRetries - attempt) PumpError.bus (attempts t) r := by
  -- induction on the fuel: a success ends the loop, a failure at the limit does too
  induction fuel with
  | zero =>
      intro attempt p p' t r _ _ hloop
      exact absurd hloop (fun h => by cases h)
  | succ fuel ih =>
      intro attempt p p' t r hlimit hle hloop
      rw [retryLoop] at hloop
      obtain ⟨_, answer, rest, -, -, hattempts, hrest⟩ := h.yields hloop
      rw [hattempts]
      cases answer with
      | ok value =>
          obtain ⟨rfl, rfl, -⟩ := (Proc.Yields.modify_bind hrest).pure_cases
          rw [h.nil]
          exact .ok _ _ value
      | error err =>
          replace hrest := Proc.Yields.get_bind hrest
          rw [satAdd_of_le hle hlimit] at hrest
          split at hrest
          next hstop =>
            obtain ⟨rfl, rfl, -⟩ := (Proc.Yields.modify_bind hrest).fail_cases
            rw [h.nil]
            exact .error _ _ err
          next hgo =>
            simp only [Bool.or_eq_true, decide_eq_true_eq, not_or, not_lt] at hgo
            obtain ⟨reset, rest', rfl, hagain⟩ := Proc.Yields.perform_bind hrest
            rw [show attempts _ = _ from h.reset reset rest']
            exact ((ih hlimit hgo.2 hagain).failed_first err).mono (by omega)

/-- What the loop shows: attempts and resets, and a value at most once, when it returns it. -/
structure Tried (o : BusOp) (attempts : List (Event BusEffect) → List (Except BusError α))
    (p : Pump) (t : List (Event BusEffect)) (r : Except PumpError α) (p' : Pump) : Prop where
  config : p'.config = p.config
  ops : ∀ e ∈ t, e.op = o ∨ e.op = BusOp.reset
  issued : ∃ e ∈ t, e.op = o
  values : (attempts t).filterMap Except.toOption = r.toOption.toList

/-- The loop tries up to its limit and stops at the first answer. The induction is on its fuel. -/
theorem retryLoop_tried (h : OneExchange o transfer attempts)
    (hcount : ∀ p, (count p).config = p.config) (fuel : Nat) : ∀ {attempt : Nat} {p p' : Pump}
      {t : List (Event BusEffect)} {r : Except PumpError α},
      (retryLoop transfer count fuel attempt).Yields p t r p' → Tried o attempts p t r p' := by
  -- induction on the fuel: every exchange of the loop is a try or a reset
  induction fuel with
  | zero =>
      intro attempt p p' t r hloop
      exact absurd hloop (fun h => by cases h)
  | succ fuel ih =>
      intro attempt p p' t r hloop
      rw [retryLoop] at hloop
      obtain ⟨e, answer, rest, rfl, ho, hattempts, hrest⟩ := h.yields hloop
      have hfirst : ∀ f ∈ [e], f.op = o ∨ f.op = BusOp.reset := by
        intro f hf
        rw [List.mem_singleton.1 hf]
        exact Or.inl ho
      have hissued : ∀ u, ∃ f ∈ e :: u, f.op = o := fun u => ⟨e, List.mem_cons_self .., ho⟩
      cases answer with
      | ok value =>
          obtain ⟨rfl, rfl, rfl⟩ := (Proc.Yields.modify_bind hrest).pure_cases
          refine ⟨hcount p, hfirst, hissued [], ?_⟩
          rw [hattempts, h.nil]
          rfl
      | error err =>
          replace hrest := Proc.Yields.get_bind hrest
          split at hrest
          next hstop =>
            obtain ⟨rfl, rfl, rfl⟩ := (Proc.Yields.modify_bind hrest).fail_cases
            refine ⟨rfl, hfirst, hissued [], ?_⟩
            rw [hattempts, h.nil]
            rfl
          next hgo =>
            obtain ⟨reset, rest', rfl, hagain⟩ := Proc.Yields.perform_bind hrest
            obtain ⟨hconfig, hops, -, hvalues⟩ := ih hagain
            refine ⟨hconfig, ?_, hissued _, ?_⟩
            · intro f hf
              rcases List.mem_cons.1 hf with rfl | hf
              · exact Or.inl ho
              · rcases List.mem_cons.1 hf with rfl | hf
                · exact Or.inr rfl
                · exact hops f hf
            · rw [hattempts, show attempts _ = _ from h.reset reset rest', ← hvalues]
              rfl

/-- At 255 a bus that times out on every attempt keeps the loop running. -/
theorem not_retryLoop_returns (h : OneExchange o transfer attempts) {p : Pump}
    (hlimit : p.config.maxBusRetries = 255) (fuel : Nat) : ∀ {attempt : Nat},
      ¬(retryLoop transfer count fuel attempt p).Returns := by
  induction fuel with
  | zero => exact fun h => h
  | succ fuel ih =>
      intro attempt hreturns
      rw [retryLoop, h.returns] at hreturns
      obtain ⟨err, herr⟩ : ∃ err, busRecoverable err = true := ⟨⟨.timeout, 0, ""⟩, rfl⟩
      -- the counter saturates at 255, so the limit is never passed
      have hgo : ¬(!busRecoverable err
          || decide (satAdd 8 attempt 1 > p.config.maxBusRetries)) = true := by
        rw [herr, hlimit, decide_eq_false (not_lt.2 (satAdd_le_wordMax attempt))]
        exact Bool.false_ne_true
      -- the bus that always times out
      refine absurd (hreturns (.error err)) ?_
      show ¬((if (!busRecoverable err
          || decide (satAdd 8 attempt 1 > p.config.maxBusRetries)) = true
        then _ else _ : PumpM α) p).Returns
      rw [if_neg hgo]
      exact fun hagain => ih (hagain (.ok ()))

/-- A transfer of the pump ends by its attempts exactly below a limit of 255. -/
theorem endsBy_retrying_iff [LoopFuel] (h : OneExchange o transfer attempts) {p : Pump}
    (hbyte : p.config.maxBusRetries ≤ 255) :
    EndsBy p.config.maxBusRetries PumpError.bus attempts (retrying transfer count) p ↔
      p.config.maxBusRetries ≠ 255 := by
  constructor
  · rintro ⟨hreturns, -⟩ hlimit
    exact not_retryLoop_returns h hlimit _ hreturns
  · intro hlimit
    have hlt : p.config.maxBusRetries < 255 := by omega
    have hfuel : p.config.maxBusRetries < 0 + (LoopFuel.fuel + 256) := by
      rw [Nat.zero_add]
      exact Nat.lt_add_left _ (Nat.lt_succ_of_lt hlt)
    refine ⟨retryLoop_returns h hlt (LoopFuel.fuel + 256) (Nat.zero_le _) hfuel, ?_⟩
    exact fun t r p' hloop => retryLoop_settles h _ hlt (Nat.zero_le _) hloop

variable [LoopFuel]

/-- The loop with all its fuel, from the first attempt. -/
theorem retrying_tried (h : OneExchange o transfer attempts)
    (hcount : ∀ p, (count p).config = p.config) {p p' : Pump} {t : List (Event BusEffect)}
    {r : Except PumpError α} (hloop : (retrying transfer count).Yields p t r p') :
    Tried o attempts p t r p' :=
  retryLoop_tried h hcount _ hloop

end retryLoop

variable [LoopFuel] {p p' : Pump} {t : List (Event BusEffect)}

/-- A read of the pump tries as the loop does. -/
theorem read_tried {addr : RegAddr} {r : Except PumpError Byte}
    (h : (read addr).Yields p t r p') : Tried (.read addr) (readAnswers addr) p t r p' :=
  retrying_tried (oneExchange_read addr) (fun _ => by exact rfl) h

/-- A read of a pair tries as the loop does. -/
theorem readPair_tried {addr : RegAddr} {r : Except PumpError (BitVec 16)}
    (h : (readPair addr).Yields p t r p') :
    Tried (.readPair addr) (pairAnswers addr) p t r p' :=
  retrying_tried (oneExchange_readPair addr) (fun _ => by exact rfl) h

/-- A write of the pump tries as the loop does. -/
theorem write_tried {addr : RegAddr} {value : Byte} {r : Except PumpError Unit}
    (h : (write addr value).Yields p t r p') :
    Tried (.write addr value) (writeAnswers addr value) p t r p' :=
  retrying_tried (oneExchange_write addr value) (fun _ => by exact rfl) h

/-- The transfers of the pump end by their attempts, whatever the bus answers. -/
structure LoopsEnd (p : Pump) : Prop where
  read : ∀ addr, EndsBy p.config.maxBusRetries PumpError.bus (readAnswers addr) (read addr) p
  readPair : ∀ addr,
    EndsBy p.config.maxBusRetries PumpError.bus (pairAnswers addr) (readPair addr) p
  write : ∀ addr value,
    EndsBy p.config.maxBusRetries PumpError.bus (writeAnswers addr value) (write addr value) p

/-- The loops of the pump end exactly below a limit of 255. -/
theorem loopsEnd_iff (hbyte : p.config.maxBusRetries ≤ 255) :
    LoopsEnd p ↔ p.config.maxBusRetries ≠ 255 := by
  constructor
  · exact fun h => (endsBy_retrying_iff (oneExchange_read 0) hbyte).1 (h.read 0)
  · intro hlimit
    exact ⟨fun addr => (endsBy_retrying_iff (oneExchange_read addr) hbyte).2 hlimit,
      fun addr => (endsBy_retrying_iff (oneExchange_readPair addr) hbyte).2 hlimit,
      fun addr value => (endsBy_retrying_iff (oneExchange_write addr value) hbyte).2 hlimit⟩

end Ln8000

namespace ChargerCore

open Effectful

instance : DecidableEq ChargerEffect.Op := inferInstanceAs (DecidableEq ChargerOp)

/-- A transfer over the link, as opposed to bookkeeping. -/
def ChargerOp.isTransfer : ChargerOp → Bool
  | .read _ | .write _ _ => true
  | .name | .reset | .nowMs | .event _ => false

/-- The answers to the reads of a register. -/
def readAnswers (addr : RegAddr) (t : List (Event ChargerEffect)) :
    List (Except TransportError Byte) :=
  answersTo (E := ChargerEffect) (ChargerOp.read addr) t

/-- The answers to the writes of a value. -/
def writeAnswers (addr : RegAddr) (value : Byte) (t : List (Event ChargerEffect)) :
    List (Except TransportError Unit) :=
  answersTo (E := ChargerEffect) (ChargerOp.write addr value) t

/-- Exchanges without a transfer. -/
def Silent (t : List (Event ChargerEffect)) : Prop :=
  ∀ e ∈ t, ChargerOp.isTransfer e.op = false

/-- A trace without transfers answers none. -/
theorem answersTo_silent {o : ChargerOp} (ho : o.isTransfer = true)
    {t : List (Event ChargerEffect)} (ht : Silent t) :
    answersTo (E := ChargerEffect) o t = [] := by
  refine answersTo_eq_nil (E := ChargerEffect) fun e he heq => ?_
  have hquiet := ht e he
  rw [show ChargerOp.isTransfer e.op = ChargerOp.isTransfer o from congrArg _ heq, ho] at hquiet
  cases hquiet

namespace Charger

/-- The monitor of bookkeeping. -/
abbrev bookkeeping : Machine ChargerEffect :=
  Machine.only ChargerEffect fun o => ChargerOp.isTransfer o = false

/-- A program that only keeps the books. -/
abbrev Books {α : Type} (x : ChargerM α) : Prop := Proc.Keeps bookkeeping (fun _ _ => True) x

/-- Reading the clock is bookkeeping. -/
theorem nowMs_books : Books nowMs := Proc.Keeps.perform fun _ _ _ => ⟨rfl, fun _ _ => trivial⟩

/-- Logging is bookkeeping. -/
theorem log_books (request : Nat) (level : Level) (kind : EventKind) :
    Books (log request level kind) := by
  refine Proc.Keeps.bind (Proc.Keeps.modify fun _ _ _ => trivial) fun _ => ?_
  refine Proc.Keeps.get.bind fun charger => nowMs_books.bind fun tsMs => ?_
  exact Proc.Keeps.perform fun _ _ _ => ⟨rfl, fun _ _ => trivial⟩

/-- Counting is bookkeeping. -/
theorem count_books (f : Stats → Stats) : Books (count f) :=
  Proc.Keeps.modify fun _ _ _ => trivial

/-- Timing is bookkeeping. -/
theorem elapsedUs_books (started : Nat) : Books (elapsedUs started) :=
  nowMs_books.bind fun _ => Proc.Keeps.pure _

/-- What happens between two attempts is bookkeeping. -/
theorem recover_books (request : Nat) (op : String) (attempt : Nat) (err : TransportError) :
    Books (recover request op attempt err) := by
  refine (count_books _).bind fun _ => (log_books _ _ _).bind fun _ => ?_
  refine Proc.Keeps.bind (Proc.Keeps.perform fun _ _ _ => ⟨rfl, fun _ _ => trivial⟩)
    fun answer => ?_
  refine (count_books _).bind fun _ => (log_books _ _ _).bind fun _ => ?_
  cases answer with
  | ok _ => exact Proc.Keeps.pure _
  | error _ => exact (count_books _).bind fun _ => Proc.Keeps.fail _

/-- Logging returns. -/
theorem log_returns (request : Nat) (level : Level) (kind : EventKind) :
    Proc.Returns (log request level kind) := by
  refine (Proc.Returns.modify _).bind fun _ => Proc.Returns.get.bind fun charger => ?_
  exact (Proc.Returns.perform _).bind fun tsMs => Proc.Returns.perform _

/-- What happens between two attempts returns. -/
theorem recover_returns (request : Nat) (op : String) (attempt : Nat) (err : TransportError) :
    Proc.Returns (recover request op attempt err) := by
  refine (Proc.Returns.modify _).bind fun _ => (log_returns _ _ _).bind fun _ => ?_
  refine (Proc.Returns.perform _).bind fun answer => (Proc.Returns.modify _).bind fun _ => ?_
  refine (log_returns _ _ _).bind fun _ => ?_
  cases answer with
  | ok _ => exact Proc.Returns.pure _
  | error _ => exact (Proc.Returns.modify _).bind fun _ => Proc.Returns.fail _

/-- `transfer` is the exchange `o` over the link, and `attempts` collects its answers. -/
structure LinkExchange {α : Type} (o : ChargerOp) (transfer : ChargerM (Except TransportError α))
    (attempts : List (Event ChargerEffect) → List (Except TransportError α)) : Prop where
  silent : ∀ t, Silent t → attempts t = []
  append : ∀ t u, attempts (t ++ u) = attempts t ++ attempts u
  returns : ∀ {β : Type} (f : Except TransportError α → ChargerM β) s,
    ((transfer >>= f) s).Returns ↔ ∀ answer, (f answer s).Returns
  yields : ∀ {β : Type} {f : Except TransportError α → ChargerM β} {s s' : Charger} {t r},
    (transfer >>= f).Yields s t r s' → ∃ e answer rest, t = e :: rest ∧ e.op = o ∧
      attempts [e] = [answer] ∧ (f answer).Yields s rest r s'

/-- A register read is one exchange on the link. -/
theorem linkExchange_read (addr : RegAddr) :
    LinkExchange (.read addr) (Proc.perform (E := ChargerEffect) (.read addr))
      (readAnswers addr) where
  silent t ht := answersTo_silent rfl ht
  append t u := answersTo_append (E := ChargerEffect) t u
  returns f s := Iff.rfl
  yields h := by
    obtain ⟨answer, rest, rfl, hrest⟩ := Proc.Yields.perform_bind h
    exact ⟨_, answer, rest, rfl, rfl, answersTo_cons_self (E := ChargerEffect) answer [], hrest⟩

/-- A register write is one exchange on the link. -/
theorem linkExchange_write (addr : RegAddr) (value : Byte) :
    LinkExchange (.write addr value) (Proc.perform (E := ChargerEffect) (.write addr value))
      (writeAnswers addr value) where
  silent t ht := answersTo_silent rfl ht
  append t u := answersTo_append (E := ChargerEffect) t u
  returns f s := Iff.rfl
  yields h := by
    obtain ⟨answer, rest, rfl, hrest⟩ := Proc.Yields.perform_bind h
    exact ⟨_, answer, rest, rfl, rfl, answersTo_cons_self (E := ChargerEffect) answer [], hrest⟩

section attemptLoop

variable {α β : Type} {o : ChargerOp} {transfer : ChargerM (Except TransportError α)}
  {finish : α → ChargerM β} {request : Nat} {op : String}
  {attempts : List (Event ChargerEffect) → List (Except TransportError α)}

/-- With a limit below 255, the loop returns by the time its budget is used up. -/
theorem attemptLoop_returns (h : LinkExchange o transfer attempts) (hop : op ≠ "detect.rerun")
    {cfg : ChargerConfig} (hlimit : cfg.maxTransportRetries < 255)
    (hfinish : ∀ value s, s.config = cfg → (finish value s).Returns) (fuel : Nat) :
    ∀ {attempt : Nat} {s : Charger}, s.config = cfg → attempt ≤ cfg.maxTransportRetries →
      cfg.maxTransportRetries < attempt + fuel →
      (attemptLoop request op transfer finish fuel attempt s).Returns := by
  -- induction on the fuel, with the configuration kept by each recovery
  induction fuel with
  | zero => exact fun _ hle hfuel => by omega
  | succ fuel ih =>
      intro attempt s hs hle hfuel
      rw [attemptLoop, h.returns]
      intro answer
      cases answer with
      | ok value => exact hfinish value s hs
      | error err =>
          show ((if recoverable err = false ∨
            s.config.maxTransportRetries < satAdd 8 attempt 1 then _ else _ : ChargerM β) s).Returns
          rw [satAdd_of_le hle hlimit, hs]
          split
          next hstop => trivial
          next hgo =>
            rw [not_or, not_lt] at hgo
            refine ((recover_returns _ _ _ _).run s).bind_yields fun t out hrecover => ?_
            obtain ⟨outcome, s₁⟩ := out
            cases outcome with
            | error e => trivial
            | ok _ =>
                obtain ⟨-, hkept, -⟩ := recover_yields hop hrecover
                exact ih (hkept.config.trans hs) hgo.2 (by omega)

/-- At 255 a link that times out on every attempt keeps the loop running. -/
theorem not_attemptLoop_returns (h : LinkExchange o transfer attempts) (fuel : Nat) :
    ∀ {attempt : Nat} {s : Charger}, s.config.maxTransportRetries = 255 →
      ¬(attemptLoop request op transfer finish fuel attempt s).Returns := by
  induction fuel with
  | zero => exact fun _ h => h
  | succ fuel ih =>
      intro attempt s hlimit hreturns
      rw [attemptLoop, h.returns] at hreturns
      obtain ⟨err, herr⟩ : ∃ err, recoverable err = true := ⟨⟨.timeout, 0, ""⟩, rfl⟩
      have hgo : ¬(recoverable err = false ∨
          s.config.maxTransportRetries < satAdd 8 attempt 1) := by
        rw [not_or, hlimit, herr]
        exact ⟨Bool.noConfusion, not_lt.2 (satAdd_le_wordMax attempt)⟩
      refine absurd (hreturns (.error err)) ?_
      show ¬((if recoverable err = false ∨
        s.config.maxTransportRetries < satAdd 8 attempt 1 then _ else _ : ChargerM β) s).Returns
      rw [if_neg hgo]
      -- the clock, the journal and a reset that succeeds
      exact fun hagain => ih (by exact hlimit) (hagain (0 : Nat) () (.ok ()) (0 : Nat) ())

/-- What a loop of the core does: its attempts decide a value or an error. A value goes to
`finish`, an error is returned. `attempt` attempts have failed before. -/
structure AttemptLoop (o : ChargerOp)
    (attempts : List (Event ChargerEffect) → List (Except TransportError α))
    (finish : α → ChargerM β) (limit : Nat) (s : Charger) (t : List (Event ChargerEffect))
    (r : Except ChargerError β) (s' : Charger) : Prop where
  split : ∃ tried rest s₁ decided, t = tried ++ rest ∧ Bookkept s s₁ ∧
    Settles limit ChargerError.transport (attempts tried) decided ∧
    (∀ e ∈ tried, e.op = o ∨ ChargerOp.isTransfer e.op = false) ∧
    (∀ value, decided = .ok value → (finish value).Yields s₁ rest r s') ∧
    ∀ err, decided = .error err → rest = [] ∧ r = .error err ∧ s' = s₁

/-- A loop whose last attempt failed. -/
theorem AttemptLoop.failed {limit : Nat} {s s' : Charger} {t : List (Event ChargerEffect)}
    {err : TransportError} (hkept : Bookkept s s')
    (hsettled : Settles limit ChargerError.transport (attempts t) (.error (.transport err)))
    (hops : ∀ e ∈ t, e.op = o ∨ ChargerOp.isTransfer e.op = false) :
    AttemptLoop o attempts finish limit s t (.error (.transport err)) s' where
  split := by
    refine ⟨t, [], s', .error (.transport err), (List.append_nil t).symm, hkept, hsettled, hops,
      ?_, ?_⟩
    · intro value hvalue
      cases hvalue
    · intro err' herr'
      cases herr'
      exact ⟨rfl, rfl, rfl⟩

/-- The loop of the core tries up to its limit. The induction is on its fuel, the limit being below
255. -/
theorem attemptLoop_settles (h : LinkExchange o transfer attempts) (hop : op ≠ "detect.rerun")
    (fuel : Nat) : ∀ {attempt : Nat} {s s' : Charger} {t : List (Event ChargerEffect)}
      {r : Except ChargerError β}, s.config.maxTransportRetries < 255 →
      attempt ≤ s.config.maxTransportRetries →
      (attemptLoop request op transfer finish fuel attempt).Yields s t r s' →
      AttemptLoop o attempts finish (s.config.maxTransportRetries - attempt) s t r s' := by
  -- induction on the fuel: the tries of the loop, what they decided, and what follows them
  induction fuel with
  | zero =>
      intro attempt s s' t r _ _ hloop
      exact absurd hloop (fun h => by cases h)
  | succ fuel ih =>
      intro attempt s s' t r hlimit hle hloop
      rw [attemptLoop] at hloop
      obtain ⟨e, answer, rest, rfl, ho, hone, hrest⟩ := h.yields hloop
      have hfirst : ∀ f ∈ [e], f.op = o ∨ ChargerOp.isTransfer f.op = false := by
        intro f hf
        rw [List.mem_singleton.1 hf]
        exact Or.inl ho
      -- a try that gives up settles at once
      have hstop : ∀ {err : TransportError} {u : List (Event ChargerEffect)},
          answer = .error err → Silent u →
          Settles (s.config.maxTransportRetries - attempt) ChargerError.transport
            (attempts (e :: u)) (.error (.transport err)) := by
        intro err u hanswer hu
        rw [show e :: u = [e] ++ u from rfl, h.append, hone, h.silent u hu, hanswer]
        exact .error _ _ err
      cases answer with
      | ok value =>
          refine ⟨[e], rest, s, .ok value, rfl, .refl s, ?_, hfirst, ?_, fun _ h => (by cases h)⟩
          · rw [hone]
            exact .ok _ _ value
          · intro other hother
            cases hother
            exact hrest
      | error err =>
          replace hrest := Proc.Yields.get_bind hrest
          rw [satAdd_of_le hle hlimit] at hrest
          split at hrest
          next hover =>
            obtain ⟨rfl, rfl, rfl⟩ := (Proc.Yields.modify_bind hrest).fail_cases
            exact .failed rfl (hstop rfl fun f hf => absurd hf List.not_mem_nil) hfirst
          next hgo =>
            rw [not_or, not_lt] at hgo
            obtain ⟨t₁, t₂, _, s₁, rfl, hrecover, hagain⟩ | ⟨e', rfl, hrecover⟩ :=
              hrest.bind_cases
            · obtain ⟨-, hkept, -⟩ := recover_yields hop hrecover
              have hsilent : Silent t₁ := hrecover.forall_op (recover_books _ _ _ _)
              have hconfig := hkept.config
              obtain ⟨tried, rest, s₂, decided, rfl, hkept', hsettled, hops, hvalue, herror⟩ :=
                (ih (by rw [hconfig]; exact hlimit) (by rw [hconfig]; exact hgo.2) hagain).split
              -- the failed try in front of the later ones
              refine ⟨e :: t₁ ++ tried, rest, s₂, decided, ?_, hkept.trans hkept', ?_, ?_, hvalue,
                herror⟩
              · simp only [List.cons_append, List.append_assoc]
              · rw [show e :: t₁ ++ tried = [e] ++ (t₁ ++ tried) from rfl, h.append, h.append,
                  hone, h.silent t₁ hsilent, List.nil_append]
                rw [hconfig] at hsettled
                exact (hsettled.failed_first err).mono (by omega)
              · intro f hf
                rcases List.mem_append.1 hf with hf | hf
                · rcases List.mem_cons.1 hf with rfl | hf
                  · exact Or.inl ho
                  · exact Or.inr (hsilent f hf)
                · exact hops f hf
            · obtain ⟨hr, hkept, -⟩ := recover_yields hop hrecover
              have hsilent : Silent rest := hrecover.forall_op (recover_books _ _ _ _)
              have he' : e' = .transport err := by
                rcases hr with hr | hr
                · cases hr
                · exact Except.error.inj hr
              subst he'
              refine .failed hkept (hstop rfl hsilent) fun f hf => ?_
              rcases List.mem_cons.1 hf with rfl | hf
              · exact Or.inl ho
              · exact Or.inr (hsilent f hf)

end attemptLoop

/-! ### Reads and writes of the core -/

variable {addr : RegAddr} {value : Byte} {request : Nat} {s s' : Charger}
  {t : List (Event ChargerEffect)}

/-- A transfer that succeeded is put on the books, and `next` follows. -/
theorem account_bind {α : Type} {f : Stats → Stats} {started : Nat} {kind : Nat → EventKind}
    {next : ChargerM α} {r : Except ChargerError α}
    (h : (do
      count f
      let elapsed ← elapsedUs started
      log request .trace (kind elapsed)
      next).Yields s t r s') :
    ∃ booked rest s₁, t = booked ++ rest ∧ Silent booked ∧ Bookkept s s₁ ∧
      next.Yields s₁ rest r s' := by
  -- counting, timing and logging make no transfer
  obtain ⟨s₁, hkept, hcounted⟩ := count_bind h
  obtain ⟨t₁, t₂, us, s₂, rfl, hus, htimed⟩ | ⟨e, -, hus⟩ := hcounted.bind_cases
  · obtain ⟨-, -, -, rfl⟩ := elapsedUs_yields hus
    obtain ⟨t₃, t₄, _, s₃, rfl, hlog, hlogged⟩ | ⟨e, -, hlog⟩ := htimed.bind_cases
    · obtain ⟨-, hkept', -⟩ := log_yields hlog
      refine ⟨t₁ ++ t₃, t₄, s₃, (List.append_assoc ..).symm, ?_, hkept.trans hkept', hlogged⟩
      intro e he
      rcases List.mem_append.1 he with he | he
      · exact hus.forall_op (elapsedUs_books _) e he
      · exact hlog.forall_op (log_books _ _ _) e he
    · obtain ⟨hok, -⟩ := log_yields hlog
      cases hok
  · obtain ⟨_, hok, -⟩ := elapsedUs_yields hus
    cases hok

/-- A loop behind a reading of the clock: what its attempts decide, and what is left. -/
theorem clocked_settles {α β : Type} {o : ChargerOp}
    {transfer : ChargerM (Except TransportError α)} {finish : Nat → α → ChargerM β}
    {attempts : List (Event ChargerEffect) → List (Except TransportError α)} {op : String}
    (hx : LinkExchange o transfer attempts) (hop : op ≠ "detect.rerun")
    (hlimit : s.config.maxTransportRetries < 255) {r : Except ChargerError β} {fuel : Nat}
    (h : (do
      let started ← nowMs
      attemptLoop request op transfer (finish started) fuel 0).Yields s t r s') :
    ∃ started, AttemptLoop o attempts (finish started) s.config.maxTransportRetries s t r s' := by
  obtain ⟨now, rest, rfl, hloop⟩ := Proc.Yields.perform_bind h
  refine ⟨now, ?_⟩
  obtain ⟨tried, after, s₁, decided, rfl, hkept, hsettled, hops, hvalue, herror⟩ :=
    (attemptLoop_settles hx hop _ hlimit (Nat.zero_le _) hloop).split
  -- the reading of the clock in front is no transfer
  have hnow : Silent [⟨.nowMs, now⟩] := by
    intro e he
    rw [List.mem_singleton.1 he]
    rfl
  refine ⟨⟨.nowMs, now⟩ :: tried, after, s₁, decided, rfl, hkept, ?_, ?_, hvalue, herror⟩
  · rw [show (⟨.nowMs, now⟩ :: tried : List (Event ChargerEffect)) = [⟨.nowMs, now⟩] ++ tried
      from rfl, hx.append, hx.silent _ hnow, List.nil_append]
    exact hsettled
  · intro e he
    rcases List.mem_cons.1 he with rfl | he
    · exact Or.inr rfl
    · exact hops e he

variable [LoopFuel]

/-- What the attempts of a read decide is what it returns. -/
theorem readReg_settles (hlimit : s.config.maxTransportRetries < 255)
    {r : Except ChargerError Byte} (h : (readReg addr request).Yields s t r s') :
    Settles s.config.maxTransportRetries ChargerError.transport (readAnswers addr t) r ∧
      Bookkept s s' ∧ ∀ e ∈ t, e.op = .read addr ∨ ChargerOp.isTransfer e.op = false := by
  obtain ⟨started, tried, rest, s₁, decided, rfl, hkept, hsettled, hops, hvalue, herror⟩ :=
    clocked_settles (linkExchange_read addr) (by decide) hlimit h
  have hanswers : Silent rest → readAnswers addr (tried ++ rest) = readAnswers addr tried := by
    intro hrest
    rw [(linkExchange_read addr).append, (linkExchange_read addr).silent _ hrest, List.append_nil]
  have hall : Silent rest → ∀ e ∈ tried ++ rest,
      e.op = .read addr ∨ ChargerOp.isTransfer e.op = false := by
    intro hrest e he
    rcases List.mem_append.1 he with he | he
    · exact hops e he
    · exact Or.inr (hrest e he)
  -- a value is booked and returned, an error ends the call
  cases decided with
  | ok value =>
      obtain ⟨booked, after, s₂, rfl, hsilent, hkept', hlast⟩ := account_bind (hvalue value rfl)
      obtain ⟨rfl, rfl, rfl⟩ := hlast.pure_cases
      rw [List.append_nil] at hanswers hall ⊢
      rw [hanswers hsilent]
      exact ⟨hsettled, hkept.trans hkept', hall hsilent⟩
  | error err =>
      obtain ⟨rfl, rfl, rfl⟩ := herror err rfl
      have hsilent : Silent ([] : List (Event ChargerEffect)) :=
        fun e he => absurd he List.not_mem_nil
      rw [hanswers hsilent]
      exact ⟨hsettled, hkept, hall hsilent⟩

/-- With a limit below 255 a register read returns. -/
theorem readReg_returns (hlimit : s.config.maxTransportRetries < 255) :
    (readReg addr request s).Returns := by
  have hfuel : s.config.maxTransportRetries < 0 + (LoopFuel.fuel + 256) := by
    rw [Nat.zero_add]
    exact Nat.lt_add_left _ (Nat.lt_succ_of_lt hlimit)
  refine fun now => attemptLoop_returns (linkExchange_read addr) (by decide) hlimit ?_ _ rfl
    (Nat.zero_le _) hfuel
  intro value s' _
  refine Proc.Returns.run (x := _) ?_ s'
  refine (Proc.Returns.modify _).bind fun _ => ?_
  refine ((Proc.Returns.perform _).bind fun now => Proc.Returns.pure _).bind fun us => ?_
  exact (log_returns _ _ _).bind fun _ => Proc.Returns.pure _

omit [LoopFuel] in
/-- The comparison of a verification: it succeeds on the value that was written. -/
theorem compare_yields {read : Byte} {r : Except ChargerError Unit}
    (h : (if read ≠ value then do
        let err := ChargerError.verifyFailed addr value read
        count Stats.addError
        log request .error (.error "verify" err.code)
        Proc.fail err
      else pure () : ChargerM Unit).Yields s t r s') :
    Silent t ∧ (r = .ok () ↔ read = value) := by
  -- a difference is booked and fails, agreement returns
  by_cases hsame : read ≠ value
  · rw [if_pos hsame] at h
    refine ⟨h.forall_op ((count_books _).bind fun _ => (log_books _ _ _).bind fun _ =>
      Proc.Keeps.fail _), iff_of_false ?_ hsame⟩
    rintro rfl
    obtain ⟨s₁, -, hcounted⟩ := count_bind h
    obtain ⟨_, _, _, s₂, -, -, hfail⟩ | ⟨e, herr, -⟩ := hcounted.bind_cases
    · obtain ⟨-, herr, -⟩ := hfail.fail_cases
      cases herr
    · cases herr
  · rw [if_neg hsame] at h
    obtain ⟨rfl, rfl, -⟩ := h.pure_cases
    exact ⟨fun e he => absurd he List.not_mem_nil, iff_of_true rfl (not_not.1 hsame)⟩

/-- A written register is read back if the profile asks for it, and the write is confirmed by the
value that was written. -/
theorem verify_settles (hlimit : s.config.maxTransportRetries < 255)
    {r : Except ChargerError Unit} (h : (verify addr value request).Yields s t r s') :
    (readAnswers addr t).length ≤ s.config.maxTransportRetries + 1 ∧
      (r = .ok () ↔ (s.config.verifyWrites = true → .ok value ∈ readAnswers addr t)) ∧
      writeAnswers addr value t = [] := by
  replace h := Proc.Yields.get_bind h
  by_cases hverify : s.config.verifyWrites = false
  · rw [if_pos hverify] at h
    obtain ⟨rfl, rfl, rfl⟩ := h.pure_cases
    exact ⟨Nat.zero_le _, by simp [hverify], rfl⟩
  rw [if_neg hverify] at h
  -- none of its exchanges is a write
  have hno : ∀ e : Event ChargerEffect, e.op = .read addr ∨ ChargerOp.isTransfer e.op = false →
      e.op ≠ .write addr value := by
    rintro e (he | he) hwrite
    · rw [he] at hwrite
      cases hwrite
    · rw [hwrite] at he
      cases he
  obtain ⟨t₁, t₂, read, s₁, rfl, hread, hrest⟩ | ⟨e, rfl, hread⟩ := h.bind_cases
  · obtain ⟨hsettled, -, hops⟩ := readReg_settles hlimit hread
    obtain ⟨hsilent, hr⟩ := compare_yields hrest
    have hreads : readAnswers addr (t₁ ++ t₂) = readAnswers addr t₁ := by
      rw [(linkExchange_read addr).append, (linkExchange_read addr).silent _ hsilent,
        List.append_nil]
    refine ⟨by rw [hreads]; exact hsettled.bounded, ?_, ?_⟩
    · rw [hr, hreads, ← hsettled.success value]
      simp [hverify]
    · refine answersTo_eq_nil (E := ChargerEffect) fun e he => ?_
      rcases List.mem_append.1 he with he | he
      · exact hno e (hops e he)
      · exact hno e (Or.inr (hsilent e he))
  · obtain ⟨hsettled, -, hops⟩ := readReg_settles hlimit hread
    refine ⟨hsettled.bounded, ?_, ?_⟩
    · rw [← hsettled.success value]
      simp [hverify]
    · exact answersTo_eq_nil (E := ChargerEffect) fun e he => hno e (hops e he)

/-- How a write of the core ends: the attempts at the write, and the attempts to read it back. -/
structure WriteSettles (limit : Nat) (verifyWrites : Bool) (value : Byte)
    (writes : List (Except TransportError Unit)) (reads : List (Except TransportError Byte))
    (r : Except ChargerError Unit) : Prop where
  bounded : writes.length ≤ limit + 1
  readBack : reads.length ≤ limit + 1
  success : r = .ok () ↔ .ok () ∈ writes ∧ (verifyWrites = true → .ok value ∈ reads)
  failure : .ok () ∉ writes → reads = [] ∧ ∃ err,
    writes.getLast? = some (.error err) ∧ r = .error (.transport err)

/-- With a limit below 255 a register write settles as its tries say. -/
theorem writeReg_settles (hlimit : s.config.maxTransportRetries < 255)
    {r : Except ChargerError Unit} (h : (writeReg addr value request).Yields s t r s') :
    WriteSettles s.config.maxTransportRetries s.config.verifyWrites value
      (writeAnswers addr value t) (readAnswers addr t) r := by
  obtain ⟨started, tried, rest, s₁, decided, rfl, hkept, hsettled, hops, hvalue, herror⟩ :=
    clocked_settles (linkExchange_write addr value) (by decide) hlimit h
  -- the tries of a write read nothing back
  have hreads : readAnswers addr tried = [] := by
    refine answersTo_eq_nil (E := ChargerEffect) fun e he hread => ?_
    rcases hops e he with hwrite | hquiet
    · rw [hwrite] at hread
      cases hread
    · rw [hread] at hquiet
      cases hquiet
  have hwrites := (linkExchange_write addr value).append tried rest
  have hback := (linkExchange_read addr).append tried rest
  -- a write that went through is verified; one that did not leaves nothing to verify
  cases decided with
  | ok done =>
      obtain ⟨booked, after, s₂, rfl, hsilent, hkept', hverified⟩ :=
        account_bind (hvalue done rfl)
      have hconfig : s₂.config = s.config := (hkept.trans hkept').config
      obtain ⟨hbound, hconfirmed, hnone⟩ := verify_settles (by rw [hconfig]; exact hlimit) hverified
      rw [hconfig] at hbound hconfirmed
      rw [(linkExchange_write addr value).append booked, hnone,
        (linkExchange_write addr value).silent _ hsilent, List.append_nil, List.append_nil]
        at hwrites
      rw [(linkExchange_read addr).append booked, (linkExchange_read addr).silent _ hsilent,
        hreads, List.nil_append, List.nil_append] at hback
      have hdone := (hsettled.success done).1 rfl
      rw [hwrites, hback]
      refine ⟨hsettled.bounded, hbound, ?_, fun hnot => absurd hdone hnot⟩
      rw [hconfirmed]
      exact ⟨fun h => ⟨hdone, h⟩, fun h => h.2⟩
  | error err =>
      obtain ⟨rfl, rfl, rfl⟩ := herror err rfl
      rw [List.append_nil, hreads]
      have hnot : .ok () ∉ writeAnswers addr value tried := by
        intro hmem
        have hok := (hsettled.success ()).2 hmem
        cases hok
      refine ⟨hsettled.bounded, Nat.zero_le _, ?_, fun _ => ⟨rfl, ?_⟩⟩
      · exact iff_of_false (fun h => by cases h) fun h => hnot h.1
      · exact hsettled.of_no_success fun _ => hnot

/-- With a limit below 255 a verification returns. -/
theorem verify_returns (hlimit : s.config.maxTransportRetries < 255) :
    (verify addr value request s).Returns := by
  show ((if s.config.verifyWrites = false then _ else _ : ChargerM Unit) s).Returns
  split
  · trivial
  · refine Prog.Returns.bind (readReg_returns hlimit) fun out => ?_
    obtain ⟨outcome, s₁⟩ := out
    cases outcome with
    | error e => trivial
    | ok read =>
        refine Proc.Returns.run (x := _) (Proc.Returns.ite ?_ (Proc.Returns.pure _)) s₁
        refine (Proc.Returns.modify _).bind fun _ => ?_
        exact (log_returns _ _ _).bind fun _ => Proc.Returns.fail _

/-- With a limit below 255 a register write, verified or not, returns. -/
theorem writeReg_returns (hlimit : s.config.maxTransportRetries < 255) :
    (writeReg addr value request s).Returns := by
  have hfuel : s.config.maxTransportRetries < 0 + (LoopFuel.fuel + 256) := by
    rw [Nat.zero_add]
    exact Nat.lt_add_left _ (Nat.lt_succ_of_lt hlimit)
  refine fun now => attemptLoop_returns (linkExchange_write addr value) (by decide) hlimit ?_ _ rfl
    (Nat.zero_le _) hfuel
  -- two clock readings and the journal, and then the verification
  intro _ s' hs' elapsed now _
  refine verify_returns ?_
  show s'.config.maxTransportRetries < 255
  rw [hs']
  exact hlimit

/-! ### The exact bound -/

/-- A read and a write of the core end by their attempts, whatever the link answers. -/
structure LoopsEnd (s : Charger) : Prop where
  read : ∀ addr request, EndsBy s.config.maxTransportRetries ChargerError.transport
    (readAnswers addr) (readReg addr request) s
  write : ∀ addr value request, (writeReg addr value request s).Returns ∧
    ∀ t r s', (writeReg addr value request).Yields s t r s' →
      WriteSettles s.config.maxTransportRetries s.config.verifyWrites value
        (writeAnswers addr value t) (readAnswers addr t) r

/-- The loops of the core end exactly below a limit of 255. -/
theorem loopsEnd_iff (s : Charger) : LoopsEnd s ↔ s.config.maxTransportRetries ≠ 255 := by
  constructor
  · intro h hlimit
    obtain ⟨hreturns, -⟩ := h.read 0 0
    exact not_attemptLoop_returns (linkExchange_read 0) _ hlimit (hreturns (0 : Nat))
  · intro hlimit
    have hbyte := s.config.maxTransportRetries_le
    rw [show wordMax 8 = 255 from rfl] at hbyte
    have hlt : s.config.maxTransportRetries < 255 := by omega
    exact ⟨fun addr request => ⟨readReg_returns hlt, fun t r s' h => (readReg_settles hlt h).1⟩,
      fun addr value request => ⟨writeReg_returns hlt, fun t r s' h => writeReg_settles hlt h⟩⟩

end Charger

/-- The retry loops of the two drivers return after at most one attempt more than the limit, with
a value an attempt got or the error of the last, exactly if the limit is not the largest byte. -/
theorem retryLoops_end_iff [LoopFuel] (pump : Ln8000.Pump) (charger : Charger)
    (hbyte : pump.config.maxBusRetries ≤ 255) :
    (Ln8000.LoopsEnd pump ↔ pump.config.maxBusRetries ≠ 255) ∧
      (Charger.LoopsEnd charger ↔ charger.config.maxTransportRetries ≠ 255) :=
  ⟨Ln8000.loopsEnd_iff hbyte, Charger.loopsEnd_iff charger⟩

/-- The loops of the default pump profile and of the tablet's profile end. -/
theorem retryLoops_end_default : @Ln8000.LoopsEnd ⟨0⟩ Ln8000.Pump.configuredDefault ∧
    @Charger.LoopsEnd ⟨0⟩ (Charger.new ChargerConfig.forNabu) := by
  obtain ⟨hpump, hcharger⟩ := @retryLoops_end_iff ⟨0⟩ Ln8000.Pump.configuredDefault
    (Charger.new ChargerConfig.forNabu) (by decide)
  exact ⟨hpump.2 (by decide), hcharger.2 (by decide)⟩

/-- A pump with a limit of 255 does not end its reads. -/
theorem not_retryLoops_end : ¬∀ (pump : Ln8000.Pump) (charger : Charger),
    pump.config.maxBusRetries ≤ 255 →
    @Ln8000.LoopsEnd ⟨0⟩ pump ∧ @Charger.LoopsEnd ⟨0⟩ charger := by
  intro hall
  obtain ⟨hpump, -⟩ := hall { Ln8000.Pump.configuredDefault with
    config := { Ln8000.PumpConfig.default with maxBusRetries := 255 } }
    (Charger.new ChargerConfig.forNabu) (by decide)
  exact (@Ln8000.loopsEnd_iff ⟨0⟩ _ (by decide)).1 hpump rfl

end ChargerCore
