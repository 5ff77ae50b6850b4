import NabuCharger.Ln8000.Transport
import NabuCharger.Logic.BitStream
import NabuCharger.Logic.History

/-!
# `Proofs.AdcStream`: the channels in the result registers of the ADC

The eight channels come out of the chip as one stream of 80 bits, ten for each, in ten registers.
The driver reads the two registers that hold a channel and cuts its code out of them.

Ten bits do not begin at a register for every channel, and a pair holds bits of its neighbours.
`register_eq` and `rawCode_eq` say where a channel begins, by its place in the stream alone. Then
the code is a slice of the stream (`rawCode_pair`), and the neighbours are outside of it.
-/

set_option autoImplicit false

namespace Ln8000

open Effectful

namespace AdcChannel

/-- The channels in the order of the stream. -/
def stream : List AdcChannel := [.iin, .vac, .vin, .vout, .vbat, .dieTemp, .tsBat, .tsBus]

/-- The place of a channel in the stream. -/
def place : AdcChannel → Nat
  | .iin => 0
  | .vac => 1
  | .vin => 2
  | .vout => 3
  | .vbat => 4
  | .dieTemp => 5
  | .tsBat => 6
  | .tsBus => 7

/-- The reading a channel gives to a code, in microvolts, microamps or tenths of a degree. -/
def scaled (channel : AdcChannel) (code : Int) : Int :=
  match channel with
  | .vin => code * 16000
  | .vout | .vbat => code * 5000
  | .vac => (code + 5) * 16000
  | .iin => code * 4890
  | .dieTemp => max (-250) (min (((935 - code) * 4350).tdiv 1000) 1600)
  | .tsBat | .tsBus => code * 2933

/-- A channel decodes its raw code by its scale. -/
theorem decode_eq (channel : AdcChannel) (raw : BitVec 16) :
    channel.decode raw = channel.scaled (channel.rawCode raw) := by
  cases channel <;> rfl

/-- Every channel has a place in the stream. -/
theorem place_lt (channel : AdcChannel) : channel.place < stream.length := by
  cases channel <;> decide

/-- At its place stands the channel itself. -/
theorem stream_place (channel : AdcChannel) (h : channel.place < stream.length) :
    stream[channel.place] = channel := by
  cases channel <;> rfl

/-- The register of a channel is the one its first bit is in. -/
theorem register_eq (channel : AdcChannel) :
    channel.register = Regs.adcFirstSts + BitVec.ofNat 8 (10 * channel.place / 8) := by
  cases channel <;> rfl

/-- The driver cuts ten bits out of the pair, from the first bit of the channel on. -/
theorem rawCode_eq (channel : AdcChannel) (raw : BitVec 16) :
    channel.rawCode raw = slice raw.toNat (10 * channel.place % 8) 10 := by
  have hraw := raw.isLt
  cases channel <;>
    simp only [rawCode, slice, place, Nat.reduceMul, Nat.reduceMod, Nat.reducePow] <;> omega

end AdcChannel

/-! ### The result registers -/

/-- The stream that carries these codes. -/
def adcStream (codes : AdcChannel → BitVec 10) : Nat :=
  packed 10 (AdcChannel.stream.map fun channel => (codes channel).toNat)

/-- The ten result registers hold the stream, its first byte first. -/
def HoldsStream (regs : RegAddr → Byte) (codes : AdcChannel → BitVec 10) : Prop :=
  ∀ k < 10, (regs (Regs.adcFirstSts + BitVec.ofNat 8 k)).toNat = slice (adcStream codes) (8 * k) 8

/-- The result registers of these codes. -/
def streamRegs (codes : AdcChannel → BitVec 10) (addr : RegAddr) : Byte :=
  BitVec.ofNat 8 (slice (adcStream codes) (8 * (addr - Regs.adcFirstSts).toNat) 8)

/-- The registers made from the codes hold their stream. -/
theorem holdsStream_streamRegs (codes : AdcChannel → BitVec 10) :
    HoldsStream (streamRegs codes) codes := by
  intro k hk
  have haddr : Regs.adcFirstSts + BitVec.ofNat 8 k - Regs.adcFirstSts = BitVec.ofNat 8 k := by
    rw [BitVec.add_comm, BitVec.add_sub_cancel]
  have hindex : (BitVec.ofNat 8 k).toNat = k := by
    rw [BitVec.toNat_ofNat]
    omega
  have hbyte := slice_lt (adcStream codes) (8 * k) 8
  rw [streamRegs, haddr, hindex, BitVec.toNat_ofNat, Nat.mod_eq_of_lt hbyte]

/-- The exchange is with a bus that reads these registers. -/
def AnswersFrom (regs : RegAddr → Byte) : Event BusEffect → Prop
  | ⟨.read addr, answer⟩ => answer = .ok (regs addr)
  | _ => True

section
variable {regs : RegAddr → Byte} {codes : AdcChannel → BitVec 10}

/-- A channel's slice of the stream is its code. -/
theorem slice_adcStream (channel : AdcChannel) :
    slice (adcStream codes) (10 * channel.place) 10 = (codes channel).toNat := by
  have hfields : ∀ f ∈ AdcChannel.stream.map (fun c => (codes c).toNat), f < 2 ^ 10 := by
    intro f hf
    obtain ⟨c, -, rfl⟩ := List.mem_map.1 hf
    exact (codes c).isLt
  have hplace : channel.place < (AdcChannel.stream.map fun c => (codes c).toNat).length := by
    rw [List.length_map]
    exact channel.place_lt
  rw [adcStream, slice_packed hfields hplace, List.getElem_map, channel.stream_place]

/-- Two registers as the pair the driver makes of them. -/
theorem toNat_pair (low high : Byte) :
    (low.setWidth 16 ||| high.setWidth 16 <<< 8).toNat = low.toNat + 2 ^ 8 * high.toNat := by
  have hlow := low.isLt
  have hhigh := high.isLt
  have hshift : (high.setWidth 16 <<< 8).toNat = high.toNat <<< 8 := by
    rw [BitVec.toNat_shiftLeft, BitVec.toNat_setWidth, Nat.shiftLeft_eq]
    omega
  have hwiden : (low.setWidth 16).toNat = low.toNat := by
    rw [BitVec.toNat_setWidth]
    omega
  rw [BitVec.toNat_or, hshift, hwiden, Nat.or_comm, ← Nat.shiftLeft_add_eq_or_of_lt hlow,
    Nat.shiftLeft_eq]
  omega

/-- The pair of a channel carries its code, whatever its neighbours are. -/
theorem rawCode_pair (h : HoldsStream regs codes) (channel : AdcChannel) :
    channel.rawCode ((regs channel.register).setWidth 16 |||
      (regs (channel.register + 1)).setWidth 16 <<< 8) = (codes channel).toNat := by
  have hbyte : 10 * channel.place / 8 + 1 < 10 := by
    cases channel <;> decide
  have hnext : channel.register + 1 =
      Regs.adcFirstSts + BitVec.ofNat 8 (10 * channel.place / 8 + 1) := by
    cases channel <;> rfl
  have hbit : 8 * (10 * channel.place / 8) + 10 * channel.place % 8 = 10 * channel.place := by
    omega
  have hinside : 10 * channel.place % 8 + 10 ≤ 8 + 8 := by
    cases channel <;> decide
  rw [AdcChannel.rawCode_eq, toNat_pair, hnext, channel.register_eq, h _ (by omega),
    h _ hbyte, Nat.mul_add 8 _ 1, ← slice_add, slice_slice hinside, hbit, slice_adcStream]

/-- Over a bus that reads these registers, the transfer of a channel is decoded as the channel's
own code, on its scale. -/
theorem adc_stream_decoded {σ : Type} {s s' : σ} {t : List (Event BusEffect)}
    {r : Except BusError (BitVec 16)} (hregs : HoldsStream regs codes) (channel : AdcChannel)
    (h : (readPairBytes channel.register).Yields s t r s') (hbus : ∀ e ∈ t, AnswersFrom regs e) :
    r.map channel.decode = .ok (channel.scaled (codes channel).toNat) := by
  -- a read of this bus succeeds with the byte the registers hold
  have hread : ∀ {addr : RegAddr} {t : List (Event BusEffect)} {s s' : σ}
      {r : Except BusError Byte},
      (Proc.perform (E := BusEffect) (BusOp.read addr) >>= Proc.ofExcept :
        Proc BusEffect BusError σ Byte).Yields s t r s' →
      (∀ e ∈ t, AnswersFrom regs e) → r = .ok (regs addr) := by
    intro addr t s s' r h hbus
    obtain ⟨answer, rest, rfl, hrest⟩ := Proc.Yields.perform_bind (E := BusEffect) h
    have hanswer : answer = .ok (regs addr) := hbus _ (List.mem_cons_self ..)
    rw [hrest.ofExcept_cases.2.1, hanswer]
  obtain ⟨t₁, t₂, low, s₁, rfl, hlow, hrest⟩ | ⟨e, -, hlow⟩ := h.bind_cases
  · obtain ⟨hfirst, hlater⟩ := List.forall_mem_append.1 hbus
    cases hread hlow hfirst
    obtain ⟨t₃, t₄, high, s₂, rfl, hhigh, hpair⟩ | ⟨e, -, hhigh⟩ := hrest.bind_cases
    · cases hread hhigh (List.forall_mem_append.1 hlater).1
      obtain ⟨-, rfl, -⟩ := hpair.pure_cases
      show Except.ok (channel.decode _) = _
      rw [channel.decode_eq, rawCode_pair hregs]
    · cases hread hhigh hlater
  · cases hread hlow hbus

/-- The codes of a 5 V input, with every bit set that is not of it. -/
def codesOfVin (channel : AdcChannel) : BitVec 10 := if channel = .vin then 313 else 1023

/-- The input of a concrete pair of bytes, at 5.008 V. -/
theorem adc_stream_decoded_vin :
    (Except.ok 0xD39F : Except BusError (BitVec 16)).map AdcChannel.vin.decode = .ok 5008000 :=
  adc_stream_decoded (s := ()) (holdsStream_streamRegs codesOfVin) .vin
    (t := [⟨BusOp.read 0x0B, .ok (streamRegs codesOfVin 0x0B)⟩,
      ⟨BusOp.read 0x0C, .ok (streamRegs codesOfVin 0x0C)⟩])
    (.op (.op (.refl _))) (by
      intro e he
      rcases List.mem_cons.1 he with rfl | he
      · rfl
      · rw [List.mem_singleton.1 he]
        rfl)

end

end Ln8000
