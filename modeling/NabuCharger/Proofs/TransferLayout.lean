import NabuCharger.Wdf.SpmiArea
import NabuCharger.Kmdf.SpbArea

/-!
# `Proofs.TransferLayout`: the transfer lists that a parser finds

Both transports lay out their lists by hand. The question is what the bus driver finds there, for
every memory in front of the access.

The transport over SPMI lays out a write as it should (`carries_prepareWrite`). A read goes wrong
at the second entry. It is written at offset 80, over the payload, and the slot at 48 stays as it
was. So the list says what it should only for the address bytes that the entry leaves there, and
only over a slot that has the entry already (`carries_prepareRead_iff`).

The transport over SPB lays out its lists as it should, whatever stood in the area before
(`prepared_register`, `prepared_spmi16`). What it leaves out is the terminating entry of a 16-bit
access: only the other builder writes one.
-/

set_option autoImplicit false

open Effectful

namespace Wdf

namespace SpmiTransport

section

variable (buffers : Buffers transferArea dataLen) (config : SpmiConfig) (addr : BitVec 16)
  (value : Byte) (m : Bytes)

/-- The payload is in the address space. -/
private theorem payload_lt : buffers.area + payloadOffset < 2 ^ 64 := by
  have hend : buffers.area + 256 ≤ 2 ^ 64 := buffers.area_end
  show buffers.area + 80 < 2 ^ 64
  omega

/-- The entry of the payload points to it. -/
private theorem describes_payload (content : List Byte) (hlength : content.length < 2 ^ 32)
    (h : ∀ i value, content[i]? = some value → m (buffers.area + payloadOffset + i) = value) :
    SpbTransferListEntry.Describes m spbFormatSimple
      (.init spbFormatSimple spbDirectionToDevice (buffers.area + payloadOffset) content.length)
      (.toDevice content) := by
  constructor
  · rw [SpbTransferListEntry.init, BitVec.toNat_ofNat, Nat.mod_eq_of_lt (payload_lt buffers)]
    rfl
  · exact SpbTransferListEntry.content_init (payload_lt buffers) hlength h

/-- The list of a write, in any memory. -/
theorem carries_prepareWrite :
    Carries (prepareWrite buffers config addr value m) buffers.area transferArea spbFormatSimple
      [.toDevice [(config.addressBytes addr).1, (config.addressBytes addr).2, value]] := by
  -- The entry ends at 48, the payload begins at 80.
  have hat : SpbTransferList.HeaderAt (prepareWrite buffers config addr value m) buffers.area 1 :=
    (SpbTransferList.headerAt_storeHeader (m := m) (by decide)).congr fun x _ hx => by
      rw [prepareWrite, SpbTransferListEntry.store_of_apart (by rw [transfersOffset]; omega),
        Bytes.storeBytes_of_apart (by rw [payloadOffset]; omega)]
  have hfirst : SpbTransferListEntry.load (prepareWrite buffers config addr value m)
      (buffers.area + entryOffset 0) =
        .init spbFormatSimple spbDirectionToDevice (buffers.area + payloadOffset) 3 :=
    SpbTransferListEntry.load_store
  have hpayload : ∀ i byte,
      [(config.addressBytes addr).1, (config.addressBytes addr).2, value][i]? = some byte →
        prepareWrite buffers config addr value m (buffers.area + payloadOffset + i) = byte := by
    intro i byte hbyte
    rw [prepareWrite, SpbTransferListEntry.store_of_apart
      (by rw [transfersOffset, payloadOffset]; omega)]
    exact Bytes.storeBytes_get hbyte
  have hparse : SpbTransferList.parse _ buffers.area transferArea = _ :=
    hat.parse_eq (by decide)
  rw [show ∀ f : Nat → SpbTransferListEntry, (List.range 1).map f = [f 0] from fun _ => rfl,
    hfirst] at hparse
  exact ⟨_, hparse, .cons (describes_payload buffers _ [_, _, _] (by simp) hpayload) .nil⟩

/-- The bytes of a read in front of the first entry, and between it and the payload. -/
private theorem prepareRead_frame {x : Nat} (hx : x < buffers.area + 80)
    (hfirst : Bytes.Apart (buffers.area + 16) 32 x 1) :
    prepareRead buffers config addr m x = storeHeader m buffers.area maxTransfers x := by
  have hsecond : Bytes.Apart (buffers.area + 48 + 32) 32 x 1 := by omega
  have hpayload : Bytes.Apart (buffers.area + 80) 2 x 1 := by omega
  exact (SpbTransferListEntry.store_of_apart hsecond).trans
    ((SpbTransferListEntry.store_of_apart hfirst).trans (Bytes.storeBytes_of_apart hpayload))

/-- The header of a read. -/
private theorem headerAt_prepareRead :
    SpbTransferList.HeaderAt (prepareRead buffers config addr m) buffers.area 2 := by
  refine (SpbTransferList.headerAt_storeHeader (m := m) (by decide)).congr fun x hx hx' => ?_
  exact prepareRead_frame buffers config addr m (by omega) (by omega)

/-- The first entry of a read. -/
private theorem first_prepareRead :
    SpbTransferListEntry.load (prepareRead buffers config addr m)
        (buffers.area + entryOffset 0) =
      .init spbFormatSimple spbDirectionToDevice (buffers.area + payloadOffset) 2 := by
  have hapart : Bytes.Apart (buffers.area + 48 + 32) 32 (buffers.area + 16) 32 := by omega
  exact (SpbTransferListEntry.load_store_of_apart hapart).trans SpbTransferListEntry.load_store

/-- No store of a read is in the slot behind the header. -/
private theorem slot_prepareRead :
    SpbTransferListEntry.load (prepareRead buffers config addr m)
        (buffers.area + entryOffset 1) =
      SpbTransferListEntry.load m (buffers.area + TransferList.headerSize) := by
  refine SpbTransferListEntry.load_congr fun x hx hx' => ?_
  have hlow : buffers.area + 48 ≤ x := hx
  have hhigh : x < buffers.area + 48 + 32 := hx'
  rw [prepareRead_frame buffers config addr m (by omega) (by omega)]
  exact SpbTransferList.storeHeader_of_apart (by omega)

/-- The payload of a read has the direction of the second entry. -/
private theorem payload_prepareRead (i : Nat) (hi : i < 4) :
    prepareRead buffers config addr m (buffers.area + payloadOffset + i) =
      BitVec.ofNat 8 (1 / 256 ^ i) := by
  rw [prepareRead]
  exact SpbTransferListEntry.store_direction hi

/-- The list of a read, in any memory: the payload holds the direction of the second entry, and
the second entry is what stood in its slot. -/
theorem carries_prepareRead_iff {first second : Byte} :
    Carries (prepareRead buffers config addr m) buffers.area transferArea spbFormatSimple
        [.toDevice [first, second], .fromDevice buffers.data 1] ↔
      SpbTransferListEntry.load m (buffers.area + TransferList.headerSize) =
          .init spbFormatSimple spbDirectionFromDevice buffers.data 1 ∧
        (first, second) = (1, 0) := by
  have hparse := (headerAt_prepareRead buffers config addr m).parse_eq
    (show areaSize 2 ≤ transferArea by decide)
  have hentries : (List.range 2).map (fun i => SpbTransferListEntry.load
      (prepareRead buffers config addr m) (buffers.area + entryOffset i)) =
        [.init spbFormatSimple spbDirectionToDevice (buffers.area + payloadOffset) 2,
          SpbTransferListEntry.load m (buffers.area + TransferList.headerSize)] := by
    rw [← first_prepareRead buffers config addr m, ← slot_prepareRead buffers config addr m]
    rfl
  rw [hentries] at hparse
  -- the payload holds the register's two bytes, high byte first
  have hpayload : SpbTransferListEntry.Describes (prepareRead buffers config addr m)
      spbFormatSimple
      (.init spbFormatSimple spbDirectionToDevice (buffers.area + payloadOffset) 2)
      (.toDevice [1, 0]) := by
    refine describes_payload buffers _ [1, 0] (by decide) fun i byte hbyte => ?_
    rcases i with _ | _ | i
    · exact (payload_prepareRead buffers config addr m 0 (by decide)).trans
        (Option.some.inj hbyte)
    · exact (payload_prepareRead buffers config addr m 1 (by decide)).trans
        (Option.some.inj hbyte)
    · cases hbyte
  rw [carries_iff [_, _] hparse, List.forall₂_cons, List.forall₂_cons]
  constructor
  · rintro ⟨⟨-, hcontent⟩, hslot, -⟩
    rw [hpayload.2] at hcontent
    cases hcontent
    exact ⟨hslot, rfl⟩
  · rintro ⟨hslot, hbytes⟩
    cases hbytes
    exact ⟨hpayload, hslot, .nil⟩

/-- The transport prepares, for a register address and a value, lists that a parser takes for a
transfer of the address bytes and a byte read, and for one transfer of address and value. The
read is so exactly when the entry of the byte read was in the area before, and the address bytes
are one and zero. The write is always so. -/
theorem layout_iff :
    (Carries (prepareRead buffers config addr m) buffers.area transferArea spbFormatSimple
        [.toDevice [(config.addressBytes addr).1, (config.addressBytes addr).2],
          .fromDevice buffers.data 1] ↔
      SpbTransferListEntry.load m (buffers.area + TransferList.headerSize) =
          .init spbFormatSimple spbDirectionFromDevice buffers.data 1 ∧
        config.addressBytes addr = (1, 0)) ∧
    Carries (prepareWrite buffers config addr value m) buffers.area transferArea spbFormatSimple
      [.toDevice [(config.addressBytes addr).1, (config.addressBytes addr).2, value]] :=
  ⟨carries_prepareRead_iff buffers config addr m,
    carries_prepareWrite buffers config addr value m⟩

end

/-- Two buffers for the runs below. -/
private def demoBuffers : Buffers transferArea dataLen where
  area := 0x1000
  data := 0x2000
  area_end := by decide
  data_end := by decide
  apart := by decide

/-- A read of the register `0x1307` in a cleared area: the payload is overwritten. -/
theorem not_layout :
    ¬ Carries (prepareRead demoBuffers SpmiConfig.nabu 0x1307 fun _ => 0) demoBuffers.area
      transferArea spbFormatSimple
      [.toDevice [(SpmiConfig.nabu.addressBytes 0x1307).1,
          (SpmiConfig.nabu.addressBytes 0x1307).2],
        .fromDevice demoBuffers.data 1] := by
  rw [carries_prepareRead_iff]
  rintro ⟨-, hbytes⟩
  revert hbytes
  decide

end SpmiTransport

end Wdf

namespace Kmdf

namespace SpbArea

open Wdf Ln8000

section

variable (buffers : BusBuffers)

/-- The transfers of an access. The reply byte follows the address in the data buffer, and the
terminated variant has one entry more. -/
def Access.transfers (access : Access) (variant : Byte) : List Transfer :=
  (match access.value with
    | some value => [.toDevice (access.addressBytes ++ [value])]
    | none =>
        [.toDevice access.addressBytes,
          .fromDevice (buffers.data + access.addressBytes.length) 1]) ++
    if variant = variantTerminated then [.terminator] else []

/-- The area has the list of the access, in the view that the request takes. -/
structure Prepared (access : Access) (bus : SpbArea) : Prop where
  carries : Carries bus.bytes buffers.area (Spb.memoryLength (Spb.inputView bus.lastCount))
    (Spb.entryFormat bus.variant) (access.transfers buffers bus.variant)
  lastCount : bus.lastCount = (access.transfers buffers bus.variant).length
  view : Spb.memoryLength (Spb.inputView bus.lastCount) = areaSize bus.lastCount

variable (bus : SpbArea)

/-- The view of a list of one to three transfers has their size. -/
private theorem memoryLength_inputView {count : Nat} (hpos : 0 < count) (hmax : count ≤ 3) :
    Spb.memoryLength (Spb.inputView count) = areaSize count := by
  rcases count with _ | _ | _ | _ | count
  · omega
  · rfl
  · rfl
  · rfl
  · omega

/-- The area as a list of blank slots, with the bytes of the data buffer. -/
private def slots : SpbBus :=
  { SpbBus.opened with
    area := some {
      size := bus.bytes.loadWord buffers.area 4
      reserved := bus.bytes.loadWord (buffers.area + 4) 4
      transferCount := bus.bytes.loadWord (buffers.area + 8) 4
      slots := [.blank, .blank, .blank] }
    data := some ((List.range 8).map fun i => bus.bytes (buffers.data + i))
    variant := bus.variant
    lastCount := bus.lastCount }

/-- Slots with the entries of an access, under its header. -/
private theorem prepared_of_renders {access : Access} {after : SpbArea} {list : TransferList}
    {data : List Byte} (hrenders : Renders buffers after.bytes list data)
    (entries : List TransferEntry) (hheader : list.size = 48 ∧ list.reserved = 0 ∧
      list.transferCount = entries.length ∧ after.lastCount = entries.length)
    (hpos : 0 < entries.length) (hmax : entries.length ≤ 3)
    (hslots : list.slots.take entries.length = entries.map .entry)
    (hdescribes : List.Forall₂
      (SpbTransferListEntry.Describes after.bytes (Spb.entryFormat after.variant))
      (entries.map (TransferEntry.raw buffers)) (access.transfers buffers after.variant)) :
    Prepared buffers access after := by
  -- the header counts the entries that were stored
  obtain ⟨hsize, hreserved, hcount, hlast⟩ := hheader
  have hview : Spb.memoryLength (Spb.inputView after.lastCount) = areaSize after.lastCount := by
    rw [hlast]
    exact memoryLength_inputView hpos hmax
  refine ⟨?_, ?_, hview⟩
  · rw [hview, hlast]
    rw [carries_iff _ (hrenders.parse_eq hsize hreserved hcount hslots (Nat.le_refl _))]
    exact hdescribes
  · rw [hlast, ← hdescribes.length_eq, List.length_map]

/-- What the builder of a register access leaves, in any memory. -/
theorem prepared_register (addr : RegAddr) (value : Option Byte) :
    Prepared buffers (.register addr value) (prepare buffers addr value bus) := by
  have hblank : Renders buffers bus.bytes _ _ :=
    renders_blank buffers bus.bytes 3 (by decide)
  obtain ⟨bus', hbus, hshows⟩ := prepare_renders (slots buffers bus) addr value rfl rfl hblank
    rfl (by rw [List.length_map, List.length_range])
  have hvariant : (slots buffers bus).variant = bus.variant := rfl
  cases value with
  | some byte =>
      cases hbus
      have hr : Renders buffers (prepare buffers addr (some byte) bus).bytes _ _ :=
        hshows.renders _ _ rfl rfl
      have hsend := hr.describes (Spb.entryFormat bus.variant) [addr, byte] ⟨_, rfl⟩
        (by simp) (by simp)
      have hcount : (prepare buffers addr (some byte) bus).lastCount =
        Spb.transferCount true (bus.variant == variantTerminated) := rfl
      rw [hvariant] at hr
      -- the terminated list has one more entry, an empty one
      by_cases hterminated : bus.variant = variantTerminated
      · rw [beq_iff_eq.mpr hterminated] at hr hcount
        rw [show Spb.transferCount (some byte).isSome true = 2 from rfl] at hr
        refine prepared_of_renders buffers hr
          [Spb.entryWithFormat (Spb.entryFormat bus.variant) spbDirectionToDevice
              (some (.data, 0)) 2,
            Spb.entryWithFormat (Spb.entryFormat bus.variant) spbDirectionNone none 0]
          ⟨rfl, rfl, rfl, hcount⟩ (by simp) (by simp) rfl ?_
        show List.Forall₂ _ _ ([_] ++ ite (bus.variant = variantTerminated) [_] [])
        rw [if_pos hterminated]
        exact .cons hsend (.cons rfl .nil)
      · rw [beq_false_of_ne hterminated] at hr hcount
        refine prepared_of_renders buffers hr
          [Spb.entryWithFormat (Spb.entryFormat bus.variant) spbDirectionToDevice
            (some (.data, 0)) 2] ⟨rfl, rfl, rfl, hcount⟩ (by simp) (by simp) rfl ?_
        show List.Forall₂ _ _ ([_] ++ ite (bus.variant = variantTerminated) [_] [])
        rw [if_neg hterminated]
        exact .cons hsend .nil
  | none =>
      cases hbus
      have hr : Renders buffers (prepare buffers addr none bus).bytes _ _ :=
        hshows.renders _ _ rfl rfl
      have hsend := hr.describes (Spb.entryFormat bus.variant) [addr] ⟨_, rfl⟩
        (by simp) (by simp)
      have hcount : (prepare buffers addr none bus).lastCount =
        Spb.transferCount false (bus.variant == variantTerminated) := rfl
      rw [hvariant] at hr
      -- the same for a read, behind its two transfers
      by_cases hterminated : bus.variant = variantTerminated
      · rw [beq_iff_eq.mpr hterminated] at hr hcount
        rw [show Spb.transferCount (none : Option Byte).isSome true = 3 from rfl] at hr
        refine prepared_of_renders buffers hr
          [Spb.entryWithFormat (Spb.entryFormat bus.variant) spbDirectionToDevice
              (some (.data, 0)) 1,
            Spb.entryWithFormat (Spb.entryFormat bus.variant) spbDirectionFromDevice
              (some (.data, 1)) 1,
            Spb.entryWithFormat (Spb.entryFormat bus.variant) spbDirectionNone none 0]
          ⟨rfl, rfl, rfl, hcount⟩ (by simp) (by simp) rfl ?_
        show List.Forall₂ _ _ ([_, _] ++ ite (bus.variant = variantTerminated) [_] [])
        rw [if_pos hterminated]
        exact .cons hsend (.cons rfl (.cons rfl .nil))
      · rw [beq_false_of_ne hterminated] at hr hcount
        refine prepared_of_renders buffers hr
          [Spb.entryWithFormat (Spb.entryFormat bus.variant) spbDirectionToDevice
              (some (.data, 0)) 1,
            Spb.entryWithFormat (Spb.entryFormat bus.variant) spbDirectionFromDevice
              (some (.data, 1)) 1] ⟨rfl, rfl, rfl, hcount⟩ (by simp) (by simp) rfl ?_
        show List.Forall₂ _ _ ([_, _] ++ ite (bus.variant = variantTerminated) [_] [])
        rw [if_neg hterminated]
        exact .cons hsend (.cons rfl .nil)

/-- What the builder of a 16-bit access leaves, in any memory, unless the list is to be
terminated. -/
theorem prepared_spmi16 (addr : BitVec 16) (value : Option Byte) (bigEndian : Bool)
    (h : bus.variant ≠ variantTerminated) :
    Prepared buffers (.spmi16 addr value bigEndian)
      (prepareSpmi16 buffers addr value bigEndian bus) := by
  have hblank : Renders buffers bus.bytes _ _ :=
    renders_blank buffers bus.bytes 3 (by decide)
  obtain ⟨bus', hbus, hshows⟩ := prepareSpmi16_renders (slots buffers bus) addr value bigEndian
    rfl rfl hblank rfl (by rw [List.length_map, List.length_range])
  -- on this bus no list is terminated, so a write is one entry and a read two
  cases value with
  | some byte =>
      cases hbus
      have hr : Renders buffers (prepareSpmi16 buffers addr (some byte) bigEndian bus).bytes _ _ :=
        hshows.renders _ _ rfl rfl
      have hsend := hr.describes (Spb.entryFormat bus.variant)
        [(Spb.addressBytes addr bigEndian).1, (Spb.addressBytes addr bigEndian).2, byte]
        ⟨_, rfl⟩ (by simp) (by simp)
      refine prepared_of_renders buffers hr
        [Spb.entryWithFormat (Spb.entryFormat bus.variant) spbDirectionToDevice
          (some (.data, 0)) 3] ⟨rfl, rfl, rfl, rfl⟩ (by simp) (by simp) rfl ?_
      show List.Forall₂ _ _ ([_] ++ ite (bus.variant = variantTerminated) [_] [])
      rw [if_neg h]
      exact .cons hsend .nil
  | none =>
      cases hbus
      have hr : Renders buffers (prepareSpmi16 buffers addr none bigEndian bus).bytes _ _ :=
        hshows.renders _ _ rfl rfl
      have hsend := hr.describes (Spb.entryFormat bus.variant)
        [(Spb.addressBytes addr bigEndian).1, (Spb.addressBytes addr bigEndian).2]
        ⟨_, rfl⟩ (by simp) (by simp)
      refine prepared_of_renders buffers hr
        [Spb.entryWithFormat (Spb.entryFormat bus.variant) spbDirectionToDevice
            (some (.data, 0)) 2,
          Spb.entryWithFormat (Spb.entryFormat bus.variant) spbDirectionFromDevice
            (some (.data, 2)) 1] ⟨rfl, rfl, rfl, rfl⟩ (by simp) (by simp) rfl ?_
      show List.Forall₂ _ _ ([_, _] ++ ite (bus.variant = variantTerminated) [_] [])
      rw [if_neg h]
      exact .cons hsend (.cons rfl .nil)

/-- The builder of a 16-bit access declares one transfer too few for the terminated variant. -/
theorem not_prepared_spmi16 (addr : BitVec 16) (value : Option Byte) (bigEndian : Bool)
    (h : bus.variant = variantTerminated) :
    ¬ Prepared buffers (.spmi16 addr value bigEndian)
      (prepareSpmi16 buffers addr value bigEndian bus) := by
  intro hprepared
  have hcount := hprepared.lastCount
  have hvariant : (prepareSpmi16 buffers addr value bigEndian bus).variant = variantTerminated := h
  rw [Access.transfers, if_pos hvariant] at hcount
  cases value with
  | some byte => exact absurd hcount (show ¬ 1 = 2 by decide)
  | none => exact absurd hcount (show ¬ 2 = 3 by decide)

/-- A 16-bit access. -/
def Access.IsSpmi16 : Access → Prop
  | .register .. => False
  | .spmi16 .. => True

/-- After any history of a bus, from any memory, the next access leaves its list in the area and
in the view that is sent. It fails to exactly when the access is a 16-bit one in the terminated
variant. -/
theorem prepared_iff (history : List Turn) (access : Access) :
    Prepared buffers access (access.prepare buffers (run buffers bus history)) ↔
      ¬ (access.IsSpmi16 ∧ (run buffers bus history).variant = variantTerminated) := by
  cases access with
  | register addr value =>
      exact iff_of_true (prepared_register buffers _ addr value) fun h => h.1
  | spmi16 addr value bigEndian =>
      by_cases h : (run buffers bus history).variant = variantTerminated
      · exact iff_of_false (not_prepared_spmi16 buffers _ addr value bigEndian h)
          (not_not_intro ⟨trivial, h⟩)
      · exact iff_of_true (prepared_spmi16 buffers _ addr value bigEndian h) fun hboth => h hboth.2

end

/-- Two buffers for the run below. -/
private def demoBuffers : BusBuffers where
  area := 0x1000
  data := 0x2000
  area_end := by decide
  data_end := by decide
  apart := by decide

/-- A bus switched to the terminated variant, then a read of the register `0x1307`. -/
theorem not_prepared :
    ¬ Prepared demoBuffers (.spmi16 0x1307 none true)
      ((Access.spmi16 0x1307 none true).prepare demoBuffers
        (run demoBuffers ⟨fun _ => 0, variantOutputSimple, 0⟩
          [.setVariant variantTerminated])) :=
  not_prepared_spmi16 demoBuffers _ 0x1307 none true rfl

end SpbArea

end Kmdf
