import NabuCharger.Ln8000.PumpRules

/-!
# `Ln8000.Reliable`: programs that do not fail

`Sure M I x` is `Keeps` for a program that always returns a value. A transfer is sure when
the monitor allows no failure of it (`OpSure`), and a verified write when the monitor also
allows no other value to be read back (`ReadsBack`).
-/

set_option autoImplicit false

namespace Ln8000

open Effectful

/-- The write sets the soft-reset bit of `BC_OP_2`. -/
def isSoftReset (addr : RegAddr) (value : Byte) : Bool :=
  addr == Regs.bcOp2 && decide (value &&& bit 0 ≠ 0)

/-- A write of any other register resets nothing. -/
theorem isSoftReset_of_ne {addr : RegAddr} (haddr : addr ≠ Regs.bcOp2) (value : Byte) :
    isSoftReset addr value = false := by
  rw [isSoftReset, beq_eq_false_iff_ne.2 haddr, Bool.false_and]

/-- The bit of the reset resets the chip. -/
theorem isSoftReset_set (current : Byte) : isSoftReset Regs.bcOp2 (current ||| bit 0) = true := by
  rw [isSoftReset, or_and_self_right]
  rfl

/-- The bus does not refuse the transfer. -/
def OpSure (M : Machine BusEffect) : BusOp → Prop
  | .read addr => ∀ m r, M.allow m (.read addr) r → ∃ value, r = .ok value
  | .readPair addr => ∀ m r, M.allow m (.readPair addr) r → ∃ raw, r = .ok raw
  | .write addr value => ∀ m r, M.allow m (.write addr value) r → r = .ok ()
  | _ => True

/-- What was written to the register is what the next read returns. -/
def ReadsBack (M : Machine BusEffect) (addr : RegAddr) : Prop :=
  ∀ m value readBack, M.allow m (.write addr value) (.ok ()) →
    M.allow (M.next m (.write addr value) (.ok ())) (.read addr) (.ok readBack) →
    readBack = value

section
variable {M : Machine BusEffect} {I : Pump → M.State → Prop} {α β : Type} {x : PumpM α}

variable [LoopFuel]

/-- A transfer that succeeds at once. -/
theorem retrying_wp {transfer : PumpM (Except BusError α)} {count : Pump → Pump}
    {R : α → Pump → M.State → Prop} {p : Pump} {m : M.State}
    (ht : transfer.wp M
      (fun outcome p' m' => ∃ a, outcome = .ok (.ok a) ∧ R a (count p') m') p m) :
    (retrying transfer count).wp M (fun outcome p' m' => ∃ a, outcome = .ok a ∧ R a p' m')
      p m := by
  unfold retrying
  rw [show LoopFuel.fuel + 256 = LoopFuel.fuel + 255 + 1 from rfl, retryLoop, Proc.wp_bind]
  refine Proc.wp_mono ht ?_
  rintro outcome p' m' ⟨a, rfl, hR⟩
  refine (Proc.thenWp_ok _ _ _ _ _).2 ((Proc.wp_modify_bind _ _ _ _ _).2 ?_)
  exact (Proc.wp_pure _ _ _ _).2 ⟨a, rfl, hR⟩

/-- The rule of a read that cannot fail. -/
theorem read_wp_sure {addr : RegAddr} (hsure : OpSure M (.read addr))
    {R : Byte → Pump → M.State → Prop} {p : Pump} {m : M.State}
    (hreq : M.require m (.read addr))
    (hR : ∀ value, M.allow m (.read addr) (.ok value) →
      R value { p with reads := satAdd 32 p.reads 1 } (M.next m (.read addr) (.ok value))) :
    (read addr).wp M (fun outcome p' m' => ∃ value, outcome = .ok value ∧ R value p' m') p m := by
  refine retrying_wp ((Proc.wp_perform p m (E := BusEffect) (BusOp.read addr) _).2 ⟨hreq, ?_⟩)
  intro r hr
  obtain ⟨value, rfl⟩ := hsure m r hr
  exact ⟨value, rfl, hR value hr⟩

/-- The rule of a write that cannot fail. -/
theorem write_wp_sure {addr : RegAddr} {value : Byte} (hsure : OpSure M (.write addr value))
    {R : Pump → M.State → Prop} {p : Pump} {m : M.State}
    (hreq : M.require m (.write addr value))
    (hR : M.allow m (.write addr value) (.ok ()) →
      R { p with writes := satAdd 32 p.writes 1 } (M.next m (.write addr value) (.ok ()))) :
    (write addr value).wp M (fun outcome p' m' => outcome = .ok () ∧ R p' m') p m := by
  refine Proc.wp_mono (retrying_wp (R := fun _ => R) ?_) fun _ _ _ ⟨_, hv, h⟩ => ⟨hv, h⟩
  refine (Proc.wp_perform p m (E := BusEffect) (BusOp.write addr value) _).2 ⟨hreq, ?_⟩
  intro r hr
  obtain rfl := hsure m r hr
  exact ⟨(), rfl, hR hr⟩

/-- The rule of a read of two registers that cannot fail. -/
theorem readPair_wp_sure {addr : RegAddr} (hsure : OpSure M (.readPair addr))
    {R : BitVec 16 → Pump → M.State → Prop} {p : Pump} {m : M.State}
    (hreq : M.require m (.readPair addr))
    (hR : ∀ raw, M.allow m (.readPair addr) (.ok raw) →
      R raw { p with reads := satAdd 32 p.reads 2 } (M.next m (.readPair addr) (.ok raw))) :
    (readPair addr).wp M (fun outcome p' m' => ∃ raw, outcome = .ok raw ∧ R raw p' m') p m := by
  refine retrying_wp ((Proc.wp_perform p m (E := BusEffect) (BusOp.readPair addr) _).2 ⟨hreq, ?_⟩)
  intro r hr
  obtain ⟨raw, rfl⟩ := hsure m r hr
  exact ⟨raw, rfl, hR raw hr⟩

/-! ### Invariants -/

/-- A read of a register that can always be read. -/
theorem read_sure (st : Retries M I) {addr : RegAddr} (hsure : OpSure M (.read addr))
    (h : OpKeeps M I (.read addr)) : Sure M I (read addr) := by
  refine ⟨fun p m hI => Proc.wp_mono (read_wp_sure (R := fun _ => I) hsure (h p m hI).1 ?_) ?_⟩
  · exact fun value hv => st.frame p _ _ ⟨rfl, rfl, rfl, rfl, Or.inl rfl⟩ ((h p m hI).2 _ hv)
  · exact fun outcome p' m' ⟨value, hv, hI'⟩ => ⟨hI', value, hv⟩

/-- A read of two registers that can always be read. -/
theorem readPair_sure (st : Retries M I) {addr : RegAddr} (hsure : OpSure M (.readPair addr))
    (h : OpKeeps M I (.readPair addr)) : Sure M I (readPair addr) := by
  refine ⟨fun p m hI => Proc.wp_mono (readPair_wp_sure (R := fun _ => I) hsure (h p m hI).1 ?_) ?_⟩
  · exact fun raw hv => st.frame p _ _ ⟨rfl, rfl, rfl, rfl, Or.inl rfl⟩ ((h p m hI).2 _ hv)
  · exact fun outcome p' m' ⟨raw, hv, hI'⟩ => ⟨hI', raw, hv⟩

/-- A write of a register that can always be written. -/
theorem write_sure (st : Retries M I) {addr : RegAddr} {value : Byte}
    (hsure : OpSure M (.write addr value)) (h : OpKeeps M I (.write addr value)) :
    Sure M I (write addr value) := by
  refine ⟨fun p m hI => Proc.wp_mono (write_wp_sure (R := I) hsure (h p m hI).1 ?_) ?_⟩
  · exact fun hv => st.frame p _ _ ⟨rfl, rfl, rfl, rfl, Or.inl rfl⟩ ((h p m hI).2 _ hv)
  · exact fun outcome p' m' ⟨hv, hI'⟩ => ⟨hI', (), hv⟩

/-- A verified write: the value read back is the one written, and what the write has brought
about stays. -/
theorem writeVerified_wp_sure {R : Pump → M.State → Prop}
    (hframe : ∀ (p p' : Pump) m, p.Transfers p' → R p m → R p' m)
    {addr : RegAddr} {value : Byte} {field : String} (hread : OpSure M (.read addr))
    (hwrite : OpSure M (.write addr value)) (hback : ReadsBack M addr)
    (hkeeps : OpKeeps M R (.read addr)) {p : Pump} {m : M.State}
    (hreq : M.require m (.write addr value))
    (hR : M.allow m (.write addr value) (.ok ()) → R p (M.next m (.write addr value) (.ok ()))) :
    (writeVerified addr value field).wp M
      (fun outcome p' m' => R p' m' ∧ outcome = .ok ()) p m := by
  have hallowed := write_wp_sure (R := fun p' m' => R p' m' ∧
      ∀ readBack, M.allow m' (.read addr) (.ok readBack) → readBack = value) (p := p)
    hwrite hreq fun hv => ⟨hframe p _ _ ⟨rfl, rfl, rfl, rfl, Or.inl rfl⟩ (hR hv),
      fun readBack hread => hback m value readBack hv hread⟩
  refine (Proc.wp_bind _ _ _ _ _).2 (Proc.wp_mono hallowed ?_)
  rintro outcome p m ⟨rfl, hI, hvalue⟩
  refine (Proc.thenWp_ok _ _ _ _ _).2 ((Proc.wp_get_bind _ _ _ _).2 ?_)
  -- where writes are verified, the register reads back what was written
  cases hverify : p.config.verifyWrites with
  | false => exact (Proc.wp_pure _ p m ()).2 ⟨hI, rfl⟩
  | true =>
      have hback := read_wp_sure (R := fun readBack p' m' => R p' m' ∧ readBack = value) (p := p)
        hread (hkeeps p m hI).1 fun readBack hv =>
          ⟨hframe p _ _ ⟨rfl, rfl, rfl, rfl, Or.inl rfl⟩ ((hkeeps p m hI).2 _ hv),
            hvalue readBack hv⟩
      refine (Proc.wp_bind _ _ _ _ _).2 (Proc.wp_mono hback ?_)
      rintro outcome p m ⟨readBack, rfl, hI, rfl⟩
      have hsame : (readBack != readBack) = false := by simp
      refine (Proc.thenWp_ok _ _ _ _ _).2 ?_
      rw [hsame]
      exact (Proc.wp_pure _ p m ()).2 ⟨hI, rfl⟩

/-- A verified write, when the register can be written and reads back. -/
theorem writeVerified_sure (st : Retries M I) {addr : RegAddr} {value : Byte} {field : String}
    (hread : OpSure M (.read addr)) (hwrite : OpSure M (.write addr value))
    (hback : ReadsBack M addr) (hkeepsRead : OpKeeps M I (.read addr))
    (hkeepsWrite : OpKeeps M I (.write addr value)) :
    Sure M I (writeVerified addr value field) := by
  refine ⟨fun p m hI => Proc.wp_mono (writeVerified_wp_sure st.frame hread hwrite hback hkeepsRead
    (hkeepsWrite p m hI).1 ((hkeepsWrite p m hI).2 _)) ?_⟩
  exact fun _ _ _ h => ⟨h.1, (), h.2⟩

/-- A read-modify-write, under the same conditions. -/
theorem update_sure (st : Retries M I) {addr : RegAddr} {mask value : Byte} {field : String}
    (hread : OpSure M (.read addr))
    (hwrite : ∀ current, OpSure M (.write addr (mergeBits current mask value)))
    (hback : ReadsBack M addr) (hkeepsRead : OpKeeps M I (.read addr))
    (hkeepsWrite : ∀ current, OpKeeps M I (.write addr (mergeBits current mask value))) :
    Sure M I (update addr mask value field) :=
  (read_sure st hread hkeepsRead).bind fun current =>
    writeVerified_sure st hread (hwrite current) hback hkeepsRead (hkeepsWrite current)

/-- A sample whose pause and pair are sure. -/
theorem readAdc_sure {channel : AdcChannel}
    (hpause : Sure M I
      (update Regs.timerCtrl Regs.timerCtrlPauseAdc Regs.timerCtrlPauseAdc "adc_pause"))
    (hpair : Sure M I (readPair channel.register))
    (hresume : Proc.Keeps M I (update Regs.timerCtrl Regs.timerCtrlPauseAdc 0 "adc_resume")) :
    Sure M I (readAdc channel) := by
  refine hpause.bind fun _ => hpair.attempt_bind fun raw => ?_
  refine (discard_sure hresume).bind fun _ => ?_
  exact Sure.bind (Sure.pure raw) fun raw => Sure.pure (channel.decode raw)

/-- What such a sample returns, on a bus whose pairs read `raw`. -/
theorem readAdc_wp_sure (st : Retries M I) {channel : AdcChannel} {raw : BitVec 16}
    (hpause : Sure M I
      (update Regs.timerCtrl Regs.timerCtrlPauseAdc Regs.timerCtrlPauseAdc "adc_pause"))
    (hsure : OpSure M (.readPair channel.register))
    (hpair : OpKeeps M I (.readPair channel.register))
    (hraw : ∀ m r, M.allow m (.readPair channel.register) (.ok r) → r = raw)
    (hresume : Proc.Keeps M I (update Regs.timerCtrl Regs.timerCtrlPauseAdc 0 "adc_resume"))
    {p : Pump} {m : M.State} (h : I p m) :
    (readAdc channel).wp M
      (fun outcome p' m' => I p' m' ∧ outcome = .ok (channel.decode raw)) p m := by
  -- pause, read, resume: the resume runs also after a failed read
  refine hpause.wp_bind h fun _ p m h => (Proc.wp_attempt_bind p m _ _ _).2 ?_
  have hread := readPair_wp_sure (R := fun r p' m' => I p' m' ∧ r = raw) hsure (hpair p m h).1
    fun r hr => ⟨st.frame p _ _ ⟨rfl, rfl, rfl, rfl, Or.inl rfl⟩ ((hpair p m h).2 _ hr),
      hraw m r hr⟩
  refine Proc.wp_mono hread ?_
  rintro outcome p m ⟨_, rfl, h, rfl⟩
  refine (discard_sure hresume).wp_bind h fun _ p m h => ?_
  refine (Proc.wp_bind p m _ _ _).2 ?_
  rw [Proc.wp_ofExcept, Proc.thenWp_ok, Proc.wp_pure]
  exact ⟨h, rfl⟩

end

end Ln8000
