import NabuCharger.Logic.Bytes
import NabuCharger.Wdf.Request

/-!
# `Wdf.SpbLayout`: transfer lists as bytes

`SPB_TRANSFER_LIST` in memory, as the bus driver reads it. The header has 48 bytes: the size, a
reserved word, the count, and from offset 16 on the first entry. Entries have 32 bytes, and the
others follow the header. So the entry `i` stands at offset `16 + 32 * i` (`entryOffset`).

`SpbTransferListEntry.store` and `storeHeader` write the fields. The bytes between two fields
stay as they were. `SpbTransferList.parse` reads a list of at most `length` bytes.
`Carries` compares what it finds with the transfers that a caller wants: the bytes to send are
read through the pointer of their entry.

`storeEntries` writes the entries of a list one after the other. Each of them is read back as it was
given (`load_storeEntries`).
-/

set_option autoImplicit false

namespace Wdf

open Effectful

/-- One transfer of a sequence, with the address of its buffer. -/
structure SpbTransferListEntry where
  direction : BitVec 32
  delayInUs : BitVec 32
  format : BitVec 32
  buffer : BitVec 64
  bufferCb : BitVec 32
  deriving DecidableEq, Repr

/-- A transfer list read from memory. -/
structure SpbTransferList where
  size : Nat
  reserved : Nat
  transferCount : Nat
  transfers : List SpbTransferListEntry
  deriving DecidableEq, Repr

/-- Offset of the first entry, in the header. -/
def transfersOffset : Nat := 16

/-- Offset of the entry `i`. -/
def entryOffset (i : Nat) : Nat := transfersOffset + TransferList.entrySize * i

/-- Total area size for `count` transfers. -/
def areaSize (count : Nat) : Nat := TransferList.headerSize + TransferList.entrySize * (count - 1)

namespace SpbTransferListEntry

variable {m m' : Bytes} {base b : Nat} {entry : SpbTransferListEntry}

/-- An entry of the given format without a delay. -/
def init (format direction buffer bufferCb : Nat) : SpbTransferListEntry where
  direction := BitVec.ofNat 32 direction
  delayInUs := 0
  format := BitVec.ofNat 32 format
  buffer := BitVec.ofNat 64 buffer
  bufferCb := BitVec.ofNat 32 bufferCb

/-- Writes the fields of an entry. -/
def store (m : Bytes) (base : Nat) (entry : SpbTransferListEntry) : Bytes :=
  ((((m.storeWord base 4 entry.direction.toNat).storeWord (base + 4) 4
    entry.delayInUs.toNat).storeWord (base + 8) 4
    entry.format.toNat).storeWord (base + 16) 8
    entry.buffer.toNat).storeWord (base + 24) 4 entry.bufferCb.toNat

/-- Reads the fields of an entry. -/
def load (m : Bytes) (base : Nat) : SpbTransferListEntry where
  direction := BitVec.ofNat 32 (m.loadWord base 4)
  delayInUs := BitVec.ofNat 32 (m.loadWord (base + 4) 4)
  format := BitVec.ofNat 32 (m.loadWord (base + 8) 4)
  buffer := BitVec.ofNat 64 (m.loadWord (base + 16) 8)
  bufferCb := BitVec.ofNat 32 (m.loadWord (base + 24) 4)

/-- The bytes of the buffer of an entry. -/
def content (m : Bytes) (entry : SpbTransferListEntry) : List Byte :=
  (List.range entry.bufferCb.toNat).map fun i => m (entry.buffer.toNat + i)

/-- A field read where it was written. -/
private theorem ofNat_mod_word (v : BitVec 32) : BitVec.ofNat 32 (v.toNat % 256 ^ 4) = v := by
  have hbound : v.toNat < 256 ^ 4 := v.isLt
  rw [Nat.mod_eq_of_lt hbound, BitVec.ofNat_toNat, BitVec.setWidth_eq]

/-- Reducing a 64-bit word to its eight bytes loses nothing. -/
private theorem ofNat_mod_pointer (v : BitVec 64) : BitVec.ofNat 64 (v.toNat % 256 ^ 8) = v := by
  have hbound : v.toNat < 256 ^ 8 := v.isLt
  rw [Nat.mod_eq_of_lt hbound, BitVec.ofNat_toNat, BitVec.setWidth_eq]

/-- An entry read where it was written. -/
theorem load_store : load (store m base entry) base = entry := by
  -- The stores behind a field are apart from it.
  have hdirection : (store m base entry).loadWord base 4 = entry.direction.toNat % 256 ^ 4 := by
    rw [store, Bytes.loadWord_storeWord_of_apart (by omega),
      Bytes.loadWord_storeWord_of_apart (by omega), Bytes.loadWord_storeWord_of_apart (by omega),
      Bytes.loadWord_storeWord_of_apart (by omega), Bytes.loadWord_storeWord]
  have hdelay :
      (store m base entry).loadWord (base + 4) 4 = entry.delayInUs.toNat % 256 ^ 4 := by
    rw [store, Bytes.loadWord_storeWord_of_apart (by omega),
      Bytes.loadWord_storeWord_of_apart (by omega), Bytes.loadWord_storeWord_of_apart (by omega),
      Bytes.loadWord_storeWord]
  have hformat : (store m base entry).loadWord (base + 8) 4 = entry.format.toNat % 256 ^ 4 := by
    rw [store, Bytes.loadWord_storeWord_of_apart (by omega),
      Bytes.loadWord_storeWord_of_apart (by omega), Bytes.loadWord_storeWord]
  have hbuffer : (store m base entry).loadWord (base + 16) 8 = entry.buffer.toNat % 256 ^ 8 := by
    rw [store, Bytes.loadWord_storeWord_of_apart (by omega), Bytes.loadWord_storeWord]
  have hcb : (store m base entry).loadWord (base + 24) 4 = entry.bufferCb.toNat % 256 ^ 4 := by
    rw [store, Bytes.loadWord_storeWord]
  rw [load, hdirection, hdelay, hformat, hbuffer, hcb, ofNat_mod_word, ofNat_mod_word,
    ofNat_mod_word, ofNat_mod_pointer, ofNat_mod_word]

/-- A byte apart from an entry is as it was. -/
theorem store_of_apart (h : Bytes.Apart base 32 b 1) : store m base entry b = m b := by
  rw [store, Bytes.storeWord_of_apart (by omega), Bytes.storeWord_of_apart (by omega),
    Bytes.storeWord_of_apart (by omega), Bytes.storeWord_of_apart (by omega),
    Bytes.storeWord_of_apart (by omega)]

/-- A byte of the direction of a written entry. -/
theorem store_direction {k : Nat} (hk : k < 4) :
    store m base entry (base + k) = BitVec.ofNat 8 (entry.direction.toNat / 256 ^ k) := by
  rw [store, Bytes.storeWord_of_apart (by omega), Bytes.storeWord_of_apart (by omega),
    Bytes.storeWord_of_apart (by omega), Bytes.storeWord_of_apart (by omega),
    Bytes.storeWord_of_mem (by omega) (by omega), Nat.add_sub_cancel_left]

/-- A loaded entry depends on its own bytes. -/
theorem load_congr (h : ∀ x, base ≤ x → x < base + 32 → m x = m' x) :
    load m base = load m' base := by
  have hword : ∀ k n, k + n ≤ 32 → m.loadWord (base + k) n = m'.loadWord (base + k) n := by
    intro k n hk
    exact Bytes.loadWord_congr fun x hx hx' => h x (by omega) (by omega)
  have hfirst := hword 0 4 (by omega)
  rw [Nat.add_zero] at hfirst
  rw [load, load, hfirst, hword 4 4 (by omega), hword 8 4 (by omega), hword 16 8 (by omega),
    hword 24 4 (by omega)]

/-- An entry apart from a written one is as it was. -/
theorem load_store_of_apart (h : Bytes.Apart base 32 b 32) :
    load (store m base entry) b = load m b :=
  load_congr fun x hx hx' => store_of_apart (by omega)

/-- The buffer of an entry, at the bytes it has there. -/
theorem content_init {format direction buffer : Nat} {bytes : List Byte}
    (hspan : buffer < 2 ^ 64) (hlength : bytes.length < 2 ^ 32)
    (h : ∀ i value, bytes[i]? = some value → m (buffer + i) = value) :
    (init format direction buffer bytes.length).content m = bytes := by
  have hbuffer : (init format direction buffer bytes.length).buffer.toNat = buffer := by
    rw [init, BitVec.toNat_ofNat, Nat.mod_eq_of_lt hspan]
  have hcb : (init format direction buffer bytes.length).bufferCb.toNat = bytes.length := by
    rw [init, BitVec.toNat_ofNat, Nat.mod_eq_of_lt hlength]
  rw [content, hbuffer, hcb]
  refine List.ext_getElem (by rw [List.length_map, List.length_range]) fun i hi hi' => ?_
  rw [List.getElem_map, List.getElem_range]
  exact h i bytes[i] (List.getElem?_eq_getElem hi')

end SpbTransferListEntry

/-- Writes the header fields of a list of `count` transfers. -/
def storeHeader (m : Bytes) (area count : Nat) : Bytes :=
  ((m.storeWord area 4 TransferList.headerSize).storeWord (area + 4) 4 0).storeWord
    (area + 8) 4 count

namespace SpbTransferList

variable {m m' : Bytes} {area length count b : Nat}

/-- The list at `area`, when its entries fit into `length` bytes. -/
def parse (m : Bytes) (area length : Nat) : Option SpbTransferList :=
  let count := m.loadWord (area + 8) 4
  if areaSize count ≤ length then
    some {
      size := m.loadWord area 4
      reserved := m.loadWord (area + 4) 4
      transferCount := count
      transfers := (List.range count).map fun i =>
        SpbTransferListEntry.load m (area + entryOffset i) }
  else none

/-- The header fields of a list of `count` transfers are at `area`. -/
structure HeaderAt (m : Bytes) (area count : Nat) : Prop where
  size : m.loadWord area 4 = TransferList.headerSize
  reserved : m.loadWord (area + 4) 4 = 0
  transferCount : m.loadWord (area + 8) 4 = count

/-- A byte apart from the header fields is as it was. -/
theorem storeHeader_of_apart (h : Bytes.Apart area 12 b 1) : storeHeader m area count b = m b := by
  rw [storeHeader, Bytes.storeWord_of_apart (by omega), Bytes.storeWord_of_apart (by omega),
    Bytes.storeWord_of_apart (by omega)]

/-- The header where it was written. -/
theorem headerAt_storeHeader (h : count < 2 ^ 32) :
    HeaderAt (storeHeader m area count) area count where
  size := by
    rw [storeHeader, Bytes.loadWord_storeWord_of_apart (by omega),
      Bytes.loadWord_storeWord_of_apart (by omega), Bytes.loadWord_storeWord]
    rfl
  reserved := by
    rw [storeHeader, Bytes.loadWord_storeWord_of_apart (by omega), Bytes.loadWord_storeWord,
      Nat.zero_mod]
  transferCount := by
    rw [storeHeader, Bytes.loadWord_storeWord]
    exact Nat.mod_eq_of_lt h

/-- The header depends on its own bytes. -/
theorem HeaderAt.congr (hat : HeaderAt m area count)
    (h : ∀ x, area ≤ x → x < area + 12 → m' x = m x) : HeaderAt m' area count where
  size := by
    rw [Bytes.loadWord_congr fun x hx hx' => h x (by omega) (by omega)]
    exact hat.size
  reserved := by
    rw [Bytes.loadWord_congr fun x hx hx' => h x (by omega) (by omega)]
    exact hat.reserved
  transferCount := by
    rw [Bytes.loadWord_congr fun x hx hx' => h x (by omega) (by omega)]
    exact hat.transferCount

/-- A list under its header. -/
theorem HeaderAt.parse_eq (hat : HeaderAt m area count) (hfits : areaSize count ≤ length) :
    parse m area length = some {
      size := TransferList.headerSize
      reserved := 0
      transferCount := count
      transfers := (List.range count).map fun i =>
        SpbTransferListEntry.load m (area + entryOffset i) } := by
  rw [parse, hat.transferCount, if_pos hfits, hat.size, hat.reserved]

/-- A list under its header, with the entries that are known. -/
theorem HeaderAt.parse_entries {entries : List SpbTransferListEntry}
    (hat : HeaderAt m area entries.length) (hfits : areaSize entries.length ≤ length)
    (h : ∀ i entry, entries[i]? = some entry →
      SpbTransferListEntry.load m (area + entryOffset i) = entry) :
    parse m area length = some ⟨TransferList.headerSize, 0, entries.length, entries⟩ := by
  rw [hat.parse_eq hfits]
  congr 2
  refine List.ext_getElem (by rw [List.length_map, List.length_range]) fun i hi hi' => ?_
  rw [List.getElem_map, List.getElem_range]
  exact h i _ (List.getElem?_eq_getElem hi')

end SpbTransferList

/-! ### What a list carries -/

/-- A transfer that a caller wants. -/
inductive Transfer
  | toDevice (content : List Byte)
  | fromDevice (address count : Nat)
  | terminator
  deriving DecidableEq, Repr

/-- The entry is the transfer, in the given buffer format. -/
def SpbTransferListEntry.Describes (m : Bytes) (format : Nat) (entry : SpbTransferListEntry) :
    Transfer → Prop
  | .toDevice content =>
      entry = init format spbDirectionToDevice entry.buffer.toNat content.length ∧
        entry.content m = content
  | .fromDevice address count => entry = init format spbDirectionFromDevice address count
  | .terminator => entry = init format spbDirectionNone 0 0

/-- The list of `length` bytes at `area` has a sound header and the entries of the transfers, one
for each and in this order. -/
def Carries (m : Bytes) (area length format : Nat) (transfers : List Transfer) : Prop :=
  ∃ entries, SpbTransferList.parse m area length =
      some ⟨TransferList.headerSize, 0, transfers.length, entries⟩ ∧
    List.Forall₂ (SpbTransferListEntry.Describes m format) entries transfers

/-- What a list carries is told by the entries that a parser finds. -/
theorem carries_iff {m : Bytes} {area length format : Nat} {transfers : List Transfer}
    (entries : List SpbTransferListEntry)
    (h : SpbTransferList.parse m area length =
      some ⟨TransferList.headerSize, 0, entries.length, entries⟩) :
    Carries m area length format transfers ↔
      List.Forall₂ (SpbTransferListEntry.Describes m format) entries transfers := by
  constructor
  · rintro ⟨found, hfound, hdescribes⟩
    rw [h, Option.some.injEq, SpbTransferList.mk.injEq] at hfound
    obtain ⟨-, -, -, rfl⟩ := hfound
    exact hdescribes
  · intro hdescribes
    exact ⟨entries, by rw [h, hdescribes.length_eq], hdescribes⟩

/-! ### The entries of a list -/

/-- Writes the entries from the entry `i` on. -/
def storeEntries (m : Bytes) (area : Nat) : Nat → List SpbTransferListEntry → Bytes
  | _, [] => m
  | i, entry :: rest =>
      storeEntries (SpbTransferListEntry.store m (area + entryOffset i) entry) area (i + 1) rest

section Entries

variable {m : Bytes} {area : Nat}

/-- The bytes in front of the entries that are written stay. -/
theorem storeEntries_of_lt {transfers : List SpbTransferListEntry} {i b : Nat}
    (h : b < area + entryOffset i) : storeEntries m area i transfers b = m b := by
  induction transfers generalizing m i with
  | nil => rfl
  | cons entry rest ih =>
      have hnext : area + entryOffset i + 32 = area + entryOffset (i + 1) := by
        simp only [entryOffset, TransferList.entrySize]
        omega
      rw [storeEntries, ih (by omega), SpbTransferListEntry.store_of_apart (by omega)]

/-- The written entries. -/
theorem load_storeEntries {transfers : List SpbTransferListEntry} {i k : Nat}
    {entry : SpbTransferListEntry} (h : transfers[k]? = some entry) :
    SpbTransferListEntry.load (storeEntries m area i transfers) (area + entryOffset (i + k)) =
      entry := by
  induction transfers generalizing m i k with
  | nil => rw [List.getElem?_nil] at h; cases h
  | cons first rest ih =>
      rw [storeEntries]
      cases k with
      | zero =>
          -- The entries behind the first one leave it alone.
          rw [List.getElem?_cons_zero, Option.some.injEq] at h
          subst h
          have hnext : area + entryOffset i + 32 = area + entryOffset (i + 1) := by
            simp only [entryOffset, TransferList.entrySize]
            omega
          have hlater : ∀ x, area + entryOffset i ≤ x → x < area + entryOffset i + 32 →
              storeEntries (SpbTransferListEntry.store m (area + entryOffset i) first) area
                (i + 1) rest x =
              SpbTransferListEntry.store m (area + entryOffset i) first x :=
            fun x _ hx => storeEntries_of_lt (by omega)
          show SpbTransferListEntry.load _ (area + entryOffset i) = first
          rw [SpbTransferListEntry.load_congr hlater]
          exact SpbTransferListEntry.load_store
      | succ k =>
          rw [List.getElem?_cons_succ] at h
          rw [show i + (k + 1) = i + 1 + k by omega]
          exact ih h

end Entries

end Wdf
