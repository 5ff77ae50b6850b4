import NabuCharger.Wdf.SpbLayout

/-!
# `Wdf.Rendering`: the slots of a transfer area as bytes

The transports are written over `TransferList`, whose slots hold an entry, some bytes, or nothing
that is known. `Renders` says that a memory has these slots, and the content of the data buffer,
at the addresses of `Buffers`. The writes of a transport keep it: a header (`Renders.header`), an
entry (`Renders.putEntry`), payload bytes (`Renders.putBytes`), a data byte (`Renders.setData`).
-/

set_option autoImplicit false

namespace Wdf

open Effectful

/-- The transfer area and the data buffer of a transport, two allocations in a 64-bit address
space. -/
structure Buffers (areaLength dataLength : Nat) where
  area : Nat
  data : Nat
  area_end : area + areaLength ≤ 2 ^ 64
  data_end : data + dataLength ≤ 2 ^ 64
  apart : Bytes.Apart area areaLength data dataLength

/-- Address of a buffer of an entry. The views of the transfer area begin where it begins. -/
def Buffers.address {areaLength dataLength : Nat} (buffers : Buffers areaLength dataLength) :
    Option (Memory × Nat) → Nat
  | none => 0
  | some (.data, offset) => buffers.data + offset
  | some (_, offset) => buffers.area + offset

section

variable {areaLength dataLength : Nat} (buffers : Buffers areaLength dataLength)

/-- A transfer with the address of its buffer. -/
def TransferEntry.raw (transfer : TransferEntry) : SpbTransferListEntry :=
  { SpbTransferListEntry.init transfer.format transfer.direction (buffers.address transfer.buffer)
      transfer.bufferCb with
    delayInUs := BitVec.ofNat 32 transfer.delayInUs }

/-- The slot at `base`. -/
def Slot.HeldAt (m : Bytes) (base : Nat) : Slot → Prop
  | .blank => True
  | .bytes content => ∀ i value, content[i]? = some value → m (base + i) = value
  | .entry transfer => SpbTransferListEntry.load m base = transfer.raw buffers

/-- The memory has the slots in the transfer area and the bytes in the data buffer. -/
structure Renders (m : Bytes) (list : TransferList) (data : List Byte) : Prop where
  size : m.loadWord buffers.area 4 = list.size
  reserved : m.loadWord (buffers.area + 4) 4 = list.reserved
  transferCount : m.loadWord (buffers.area + 8) 4 = list.transferCount
  slots : ∀ (i : Nat) (slot : Slot), list.slots[i]? = some slot →
    slot.HeldAt buffers m (buffers.area + entryOffset i)
  dataBytes : ∀ (i : Nat) (value : Byte), data[i]? = some value → m (buffers.data + i) = value
  /-- The slots and the data are inside their buffers. -/
  slots_fit : areaSize list.slots.length ≤ areaLength
  data_fit : data.length ≤ dataLength
  /-- Payload bytes are inside their slot. -/
  payload_fit : ∀ content, Slot.bytes content ∈ list.slots →
    content.length ≤ TransferList.entrySize

end

variable {areaLength dataLength : Nat} {buffers : Buffers areaLength dataLength} {m m' : Bytes}
  {list : TransferList} {data : List Byte}

/-- A slot depends on its own bytes. -/
theorem Slot.HeldAt.congr {slot : Slot} {base : Nat} (hat : slot.HeldAt buffers m base)
    (hfit : ∀ content, slot = .bytes content → content.length ≤ 32)
    (h : ∀ x, base ≤ x → x < base + 32 → m' x = m x) : slot.HeldAt buffers m' base := by
  cases slot with
  | blank => trivial
  | bytes content =>
      intro i value hvalue
      -- the content lies within the 32 bytes of the slot
      have hlength := hfit content rfl
      obtain ⟨hi, -⟩ := List.getElem?_eq_some_iff.mp hvalue
      rw [h (base + i) (by omega) (by omega)]
      exact hat i value hvalue
  | entry transfer =>
      show SpbTransferListEntry.load m' base = transfer.raw buffers
      rw [SpbTransferListEntry.load_congr h]
      exact hat

/-- The header is inside the area. -/
theorem Renders.header_end (h : Renders buffers m list data) :
    TransferList.headerSize ≤ areaLength := by
  have hfit := h.slots_fit
  rw [areaSize] at hfit
  omega

/-- A slot ends inside the area. -/
theorem Renders.slot_end (h : Renders buffers m list data) {i : Nat}
    (hi : i < list.slots.length) : entryOffset i + 32 ≤ areaLength := by
  have hfit := h.slots_fit
  simp only [areaSize, entryOffset, transfersOffset, TransferList.headerSize,
    TransferList.entrySize] at hfit ⊢
  omega

/-- A slot that was not written. -/
theorem Renders.held (h : Renders buffers m list data) {i : Nat} {slot : Slot}
    (hslot : list.slots[i]? = some slot)
    (hsame : ∀ x, buffers.area + entryOffset i ≤ x → x < buffers.area + entryOffset i + 32 →
      m' x = m x) : slot.HeldAt buffers m' (buffers.area + entryOffset i) := by
  refine (h.slots i slot hslot).congr (fun content hcontent => ?_) hsame
  exact h.payload_fit content (hcontent ▸ List.mem_of_getElem? hslot)

/-- The header of a list is written. -/
theorem Renders.header (h : Renders buffers m list data) {count : Nat}
    (hcount : count < 2 ^ 32) :
    Renders buffers (storeHeader m buffers.area count) (list.withHeader count) data := by
  have hat : SpbTransferList.HeaderAt (storeHeader m buffers.area count) buffers.area count :=
    SpbTransferList.headerAt_storeHeader hcount
  -- the header lies before the entries and away from the data
  have hapart := buffers.apart
  have hheader : 48 ≤ areaLength := h.header_end
  refine ⟨hat.size, hat.reserved, hat.transferCount, fun i slot hslot => ?_,
    fun i value hvalue => ?_, h.slots_fit, h.data_fit, h.payload_fit⟩
  · refine h.held hslot fun x hx _ => SpbTransferList.storeHeader_of_apart ?_
    simp only [entryOffset, transfersOffset] at hx
    omega
  · have hlength := h.data_fit
    obtain ⟨hi, -⟩ := List.getElem?_eq_some_iff.mp hvalue
    rw [SpbTransferList.storeHeader_of_apart (by omega)]
    exact h.dataBytes i value hvalue

/-- A slot is written, by stores that stay inside it. -/
theorem Renders.put (h : Renders buffers m list data) {i : Nat} {slot : Slot}
    (hi : i < list.slots.length) (hheld : slot.HeldAt buffers m' (buffers.area + entryOffset i))
    (hsame : ∀ x, Bytes.Apart (buffers.area + entryOffset i) 32 x 1 → m' x = m x)
    (hfit : ∀ content, slot = .bytes content → content.length ≤ 32) :
    Renders buffers m' (list.put i slot) data := by
  have hend := h.slot_end hi
  have hapart := buffers.apart
  have hheader : ∀ x, buffers.area ≤ x → x < buffers.area + 12 → m' x = m x := by
    intro x hx hx'
    refine hsame x ?_
    simp only [entryOffset, transfersOffset]
    omega
  refine ⟨?_, ?_, ?_, fun j other hother => ?_, fun j value hvalue => ?_, ?_, h.data_fit, ?_⟩
  · rw [Bytes.loadWord_congr fun x hx hx' => hheader x (by omega) (by omega)]
    exact h.size
  · rw [Bytes.loadWord_congr fun x hx hx' => hheader x (by omega) (by omega)]
    exact h.reserved
  · rw [Bytes.loadWord_congr fun x hx hx' => hheader x (by omega) (by omega)]
    exact h.transferCount
  · by_cases hij : i = j
    · subst hij
      rw [TransferList.put, List.getElem?_set_self hi, Option.some.injEq] at hother
      exact hother ▸ hheld
    · rw [TransferList.put, List.getElem?_set_ne hij] at hother
      refine h.held hother fun x hx hx' => hsame x ?_
      -- Two slots are a multiple of 32 apart.
      simp only [entryOffset, TransferList.entrySize] at hx hx' ⊢
      omega
  · have hlength := h.data_fit
    obtain ⟨hj, -⟩ := List.getElem?_eq_some_iff.mp hvalue
    rw [hsame _ (by omega)]
    exact h.dataBytes j value hvalue
  · rw [TransferList.put, List.length_set]
    exact h.slots_fit
  · intro content hcontent
    rw [TransferList.put] at hcontent
    rcases List.mem_or_eq_of_mem_set hcontent with hold | hnew
    · exact h.payload_fit content hold
    · exact hfit content hnew.symm

/-- An entry is written. -/
theorem Renders.putEntry (h : Renders buffers m list data) {i : Nat} (transfer : TransferEntry)
    (hi : i < list.slots.length) :
    Renders buffers
      (SpbTransferListEntry.store m (buffers.area + entryOffset i) (transfer.raw buffers))
      (list.put i (.entry transfer)) data :=
  h.put hi SpbTransferListEntry.load_store
    (fun _ hx => SpbTransferListEntry.store_of_apart hx) nofun

/-- Payload bytes are written. -/
theorem Renders.putBytes (h : Renders buffers m list data) {i : Nat} (content : List Byte)
    (hi : i < list.slots.length) (hlength : content.length ≤ 32) :
    Renders buffers (m.storeBytes (buffers.area + entryOffset i) content)
      (list.put i (.bytes content)) data := by
  refine h.put hi (fun k value hvalue => Bytes.storeBytes_get hvalue) (fun x hx => ?_) ?_
  · exact Bytes.storeBytes_of_apart (by omega)
  · rintro _ ⟨rfl⟩
    exact hlength

/-- A byte of the data buffer is written. -/
theorem Renders.setData (h : Renders buffers m list data) {k : Nat} (value : Byte)
    (hk : k < data.length) :
    Renders buffers (m.storeBytes (buffers.data + k) [value]) list (data.set k value) := by
  have hlength := h.data_fit
  have hapart := buffers.apart
  have hheader : 48 ≤ areaLength := h.header_end
  -- the data buffer is apart from the area, so a byte of it changes nothing there
  have hsame : ∀ x, buffers.area ≤ x → x < buffers.area + areaLength →
      m.storeBytes (buffers.data + k) [value] x = m x :=
    fun x hx hx' => Bytes.storeBytes_of_apart (by rw [List.length_singleton]; omega)
  refine ⟨?_, ?_, ?_, fun i slot hslot => ?_, fun i other hother => ?_, h.slots_fit, ?_,
    h.payload_fit⟩
  · rw [Bytes.loadWord_congr fun x hx hx' => hsame x (by omega) (by omega)]
    exact h.size
  · rw [Bytes.loadWord_congr fun x hx hx' => hsame x (by omega) (by omega)]
    exact h.reserved
  · rw [Bytes.loadWord_congr fun x hx hx' => hsame x (by omega) (by omega)]
    exact h.transferCount
  · obtain ⟨hi, -⟩ := List.getElem?_eq_some_iff.mp hslot
    have hend := h.slot_end hi
    exact h.held hslot fun x hx hx' => hsame x (by omega) (by omega)
  · -- the byte that was set, or another one
    by_cases hki : k = i
    · subst hki
      rw [List.getElem?_set_self hk, Option.some.injEq] at hother
      rw [← hother]
      exact Bytes.storeBytes_get (i := 0) rfl
    · rw [List.getElem?_set_ne hki] at hother
      rw [Bytes.storeBytes_of_apart (by rw [List.length_singleton]; omega)]
      exact h.dataBytes i other hother
  · rw [List.length_set]
    exact hlength

/-! ### What is read back -/

/-- Every memory has blank slots. -/
theorem renders_blank (buffers : Buffers areaLength dataLength) (m : Bytes) (count : Nat)
    (h : areaSize count ≤ areaLength) :
    Renders buffers m
      { size := m.loadWord buffers.area 4
        reserved := m.loadWord (buffers.area + 4) 4
        transferCount := m.loadWord (buffers.area + 8) 4
        slots := List.replicate count .blank }
      ((List.range dataLength).map fun i => m (buffers.data + i)) where
  size := rfl
  reserved := rfl
  transferCount := rfl
  slots i slot hslot := by
    rw [List.eq_of_mem_replicate (List.mem_of_getElem? hslot)]
    trivial
  dataBytes i value hvalue := by
    rw [List.getElem?_map, Option.map_eq_some_iff] at hvalue
    obtain ⟨j, hj, hvalue⟩ := hvalue
    obtain ⟨hlt, hj⟩ := List.getElem?_eq_some_iff.mp hj
    rw [List.getElem_range] at hj
    rw [hj]
    exact hvalue
  slots_fit := by rwa [List.length_replicate]
  data_fit := by rw [List.length_map, List.length_range]
  payload_fit content hcontent := nomatch List.eq_of_mem_replicate hcontent

/-- A parser finds the entries of the first slots. -/
theorem Renders.parse_eq (h : Renders buffers m list data) {entries : List TransferEntry}
    {length : Nat} (hsize : list.size = TransferList.headerSize) (hreserved : list.reserved = 0)
    (hcount : list.transferCount = entries.length)
    (hslots : list.slots.take entries.length = entries.map .entry)
    (hfits : areaSize entries.length ≤ length) :
    SpbTransferList.parse m buffers.area length =
      some ⟨TransferList.headerSize, 0, (entries.map (TransferEntry.raw buffers)).length,
        entries.map (TransferEntry.raw buffers)⟩ := by
  have hlength : (entries.map (TransferEntry.raw buffers)).length = entries.length :=
    List.length_map _
  -- the header tells where the entries are, and each slot holds its entry
  have hat : SpbTransferList.HeaderAt m buffers.area
      (entries.map (TransferEntry.raw buffers)).length :=
    ⟨h.size.trans hsize, h.reserved.trans hreserved,
      h.transferCount.trans (hcount.trans hlength.symm)⟩
  refine hat.parse_entries (by rwa [hlength]) fun i entry hentry => ?_
  rw [List.getElem?_map, Option.map_eq_some_iff] at hentry
  obtain ⟨transfer, htransfer, rfl⟩ := hentry
  have hlt : i < entries.length := (List.getElem?_eq_some_iff.mp htransfer).1
  have hslot : list.slots[i]? = some (.entry transfer) := by
    rw [← List.getElem?_take_of_lt hlt, hslots, List.getElem?_map, htransfer, Option.map_some]
  exact h.slots i _ hslot

/-- An entry that sends bytes of the data buffer. -/
theorem Renders.describes (h : Renders buffers m list data) (format : Nat) (content : List Byte)
    (hcontent : content <+: data) (hroom : content.length < 2 ^ 32) (hnonempty : content ≠ []) :
    SpbTransferListEntry.Describes m format
      (.init format spbDirectionToDevice buffers.data content.length) (.toDevice content) := by
  have hend := buffers.data_end
  have hlength := hcontent.length_le
  have hfit := h.data_fit
  have hpos : 0 < content.length := List.length_pos_iff.mpr hnonempty
  -- the address fits into 64 bits, so storing it loses nothing
  have hspan : buffers.data < 2 ^ 64 := by omega
  constructor
  · rw [SpbTransferListEntry.init, BitVec.toNat_ofNat, Nat.mod_eq_of_lt hspan]
    rfl
  · refine SpbTransferListEntry.content_init hspan hroom fun i value hvalue => ?_
    obtain ⟨rest, rfl⟩ := hcontent
    refine h.dataBytes i value ?_
    rw [List.getElem?_append_left (List.getElem?_eq_some_iff.mp hvalue).1]
    exact hvalue

end Wdf
