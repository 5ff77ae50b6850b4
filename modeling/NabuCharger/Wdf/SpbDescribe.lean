import NabuCharger.Wdf.SpbLayout

/-!
# `Wdf.SpbDescribe`: the builder of the shared crate, byte by byte

`describe` of the crate writes into a slice of bytes. A write that does not fit into the slice is
skipped without an error, and the offsets saturate. `Area.describe` is the function as it stands,
with the result and the memory it leaves.

A list that fits is never near the ends: every write of it is a plain store (`Area.writeWord_eq`,
`Area.writeEntries_eq`), so the builder leaves what `storeHeader` and `storeEntries` leave.
-/

set_option autoImplicit false

namespace Wdf

open Effectful

/-- Sequence building errors. -/
inductive SequenceError
  | areaTooSmall
  | tooManyTransfers
  deriving DecidableEq, Repr

/-- A slice of bytes at its address. No slice is longer than half of the address space. -/
structure Area where
  start : Nat
  length : Nat
  length_lt : length < 2 ^ 63

/-- A number as an unsigned word, if it is one. -/
def u32TryFrom (value : Nat) : Option (BitVec 32) :=
  if value ≤ wordMax 32 then some (BitVec.ofNat 32 value) else none

/-- Total area size for `count` transfers, saturating. -/
def areaSizeSat (count : Nat) : Nat :=
  satAdd 64 TransferList.headerSize (satMul 64 TransferList.entrySize (count - 1))

namespace Area

variable (area : Area)

/-- Writes the `width` bytes of a number at an offset of the slice, if they fit. -/
def writeWord (m : Bytes) (offset width value : Nat) : Bytes :=
  let stop := satAdd 64 offset width
  if offset ≤ stop ∧ stop ≤ area.length then m.storeWord (area.start + offset) width value else m

/-- A 32-bit field, in the area's byte order. -/
def writeU32 (m : Bytes) (offset : Nat) (value : BitVec 32) : Bytes :=
  area.writeWord m offset 4 value.toNat

/-- A 64-bit field, in the area's byte order. -/
def writePointer (m : Bytes) (offset : Nat) (value : BitVec 64) : Bytes :=
  area.writeWord m offset 8 value.toNat

/-- Writes the fields of the transfer `index`. -/
def writeEntry (m : Bytes) (index : Nat) (transfer : SpbTransferListEntry) : Bytes :=
  let base := satAdd 64 transfersOffset (satMul 64 index TransferList.entrySize)
  let m := area.writeU32 m (satAdd 64 base 0) transfer.direction
  let m := area.writeU32 m (satAdd 64 base 4) transfer.delayInUs
  let bufferBase := satAdd 64 base 8
  let m := area.writeU32 m (satAdd 64 bufferBase 0) transfer.format
  let simpleBase := satAdd 64 bufferBase 8
  let m := area.writePointer m (satAdd 64 simpleBase 0) transfer.buffer
  area.writeU32 m (satAdd 64 simpleBase 8) transfer.bufferCb

/-- Writes the transfers from the transfer `index` on. -/
def writeEntries (m : Bytes) (index : Nat) : List SpbTransferListEntry → Bytes
  | [] => m
  | transfer :: rest => writeEntries (area.writeEntry m index transfer) (index + 1) rest

/-- Builds a transfer list in the slice: the result, and the memory behind it. -/
def describe (m : Bytes) (transfers : List SpbTransferListEntry) :
    Except SequenceError Nat × Bytes :=
  let needed := areaSizeSat transfers.length
  if area.length < needed ∨ area.start % 8 ≠ 0 then (.error .areaTooSmall, m)
  else
    match u32TryFrom transfers.length, u32TryFrom TransferList.headerSize with
    | some count, some sizeField =>
        let m := area.writeU32 m 0 sizeField
        let m := area.writeU32 m 4 0
        let m := area.writeU32 m 8 count
        (.ok needed, area.writeEntries m 0 transfers)
    | _, _ => (.error .tooManyTransfers, m)

/-! ### A list that fits -/

variable {area} {m : Bytes}

/-- A write that fits is a store. -/
theorem writeWord_eq {offset width value : Nat} (h : offset + width ≤ area.length) :
    area.writeWord m offset width value = m.storeWord (area.start + offset) width value := by
  have hlength := area.length_lt
  have hstop : satAdd 64 offset width = offset + width := by
    simp only [satAdd, wordMax]
    omega
  rw [writeWord, hstop, if_pos ⟨by omega, h⟩]

/-- Within the area the saturating offset is a sum. -/
theorem satAdd_offset (area : Area) (base k : Nat) (h : base + k ≤ area.length) :
    satAdd 64 base k = base + k := by
  have hlength := area.length_lt
  simp only [satAdd, wordMax]
  omega

/-- A transfer that fits is stored at its place. -/
theorem writeEntry_eq {index : Nat} {transfer : SpbTransferListEntry}
    (h : entryOffset index + 32 ≤ area.length) :
    area.writeEntry m index transfer =
      SpbTransferListEntry.store m (area.start + entryOffset index) transfer := by
  have hlength := area.length_lt
  -- the entry is within the area, so the saturating offset is its offset
  have hbase : satAdd 64 transfersOffset (satMul 64 index TransferList.entrySize) =
      entryOffset index := by
    simp only [entryOffset, TransferList.entrySize] at h ⊢
    simp only [satAdd, satMul, wordMax]
    omega
  simp only [writeEntry, hbase]
  generalize entryOffset index = base at h
  rw [satAdd_offset area base 0 (by omega),
    satAdd_offset area base 4 (by omega),
    satAdd_offset area base 8 (by omega),
    satAdd_offset area (base + 8) 0 (by omega),
    satAdd_offset area (base + 8) 8 (by omega),
    satAdd_offset area (base + 8 + 8) 0 (by omega),
    satAdd_offset area (base + 8 + 8) 8 (by omega)]
  simp only [writeU32, writePointer]
  rw [writeWord_eq (by omega), writeWord_eq (by omega), writeWord_eq (by omega),
    writeWord_eq (by omega), writeWord_eq (by omega)]
  rfl

/-- So are all of them. -/
theorem writeEntries_eq {transfers : List SpbTransferListEntry} {index : Nat}
    (h : transfers ≠ [] → entryOffset (index + transfers.length) ≤ area.length) :
    area.writeEntries m index transfers = storeEntries m area.start index transfers := by
  induction transfers generalizing m index with
  | nil => rfl
  | cons transfer rest ih =>
      have hall : entryOffset (index + (rest.length + 1)) ≤ area.length := h (List.cons_ne_nil _ _)
      have hfirst : entryOffset index + 32 ≤ area.length := by
        simp only [entryOffset, TransferList.entrySize] at hall ⊢
        omega
      rw [writeEntries, storeEntries, writeEntry_eq hfirst]
      refine ih fun _ => ?_
      rw [Nat.add_assoc, Nat.add_comm 1]
      exact hall

/-- The size of a list that the counter can hold does not saturate. -/
theorem areaSizeSat_eq {count : Nat} (h : count < 2 ^ 32) : areaSizeSat count = areaSize count := by
  simp only [areaSizeSat, areaSize, satAdd, satMul, wordMax, TransferList.headerSize,
    TransferList.entrySize]
  omega

/-- The builder on a list that fits: the header and the entries are stored. -/
theorem describe_eq {transfers : List SpbTransferListEntry} (haligned : area.start % 8 = 0)
    (hroom : areaSize transfers.length ≤ area.length) (hcount : transfers.length < 2 ^ 32) :
    area.describe m transfers =
      (.ok (areaSize transfers.length),
        storeEntries (storeHeader m area.start transfers.length) area.start 0 transfers) := by
  have hsize := areaSizeSat_eq hcount
  have hheader : 48 ≤ area.length := by
    simp only [areaSize, TransferList.headerSize] at hroom
    omega
  have hword : transfers.length ≤ wordMax 32 := by
    rw [wordMax]
    omega
  have hcountField : (BitVec.ofNat 32 transfers.length).toNat = transfers.length := by
    rw [BitVec.toNat_ofNat, Nat.mod_eq_of_lt hcount]
  -- the room for the entries is the room that was checked
  have hentries : transfers ≠ [] → entryOffset (0 + transfers.length) ≤ area.length := by
    intro hne
    have hpos : 0 < transfers.length := List.length_pos_iff.2 hne
    simp only [areaSize, TransferList.headerSize, TransferList.entrySize] at hroom
    simp only [entryOffset, transfersOffset, TransferList.entrySize]
    omega
  -- none of the three checks refuses
  have hroom' : ¬(area.length < areaSize transfers.length ∨ area.start % 8 ≠ 0) := by
    omega
  simp only [describe, hsize, if_neg hroom', u32TryFrom, if_pos hword]
  rw [if_pos (by decide : TransferList.headerSize ≤ wordMax 32)]
  simp only [writeU32]
  rw [writeWord_eq (by omega), writeWord_eq (by omega), writeWord_eq (by omega), hcountField,
    writeEntries_eq hentries]
  rfl

/-- Any other outcome is an error, and nothing was written. -/
theorem describe_error {transfers : List SpbTransferListEntry} {err : SequenceError}
    (h : (area.describe m transfers).1 = .error err) : (area.describe m transfers).2 = m := by
  rw [describe] at h ⊢
  by_cases hroom : area.length < areaSizeSat transfers.length ∨ area.start % 8 ≠ 0
  · rw [if_pos hroom]
  · rw [if_neg hroom] at h ⊢
    cases hcount : u32TryFrom transfers.length with
    | none => rfl
    | some count =>
        rw [hcount] at h
        cases h

/-- A list with more transfers than the counter can hold is refused. -/
theorem describe_too_many {transfers : List SpbTransferListEntry} (haligned : area.start % 8 = 0)
    (hroom : areaSize transfers.length ≤ area.length) (hmany : 2 ^ 32 ≤ transfers.length) :
    area.describe m transfers = (.error .tooManyTransfers, m) := by
  have hsize : areaSizeSat transfers.length ≤ areaSize transfers.length := by
    simp only [areaSizeSat, areaSize, satAdd, satMul, TransferList.headerSize,
      TransferList.entrySize]
    omega
  have hfits : ¬(area.length < areaSizeSat transfers.length ∨ area.start % 8 ≠ 0) := by
    omega
  have hword : ¬transfers.length ≤ wordMax 32 := by
    rw [wordMax]
    omega
  rw [describe, if_neg hfits, u32TryFrom, if_neg hword]

/-- An area that is too small or not aligned is refused. -/
theorem describe_too_small {transfers : List SpbTransferListEntry}
    (h : area.length < areaSize transfers.length ∨ area.start % 8 ≠ 0) :
    area.describe m transfers = (.error .areaTooSmall, m) := by
  have hlength := area.length_lt
  have hsize : area.length < areaSizeSat transfers.length ∨ area.start % 8 ≠ 0 := by
    simp only [areaSize, TransferList.headerSize, TransferList.entrySize] at h
    simp only [areaSizeSat, satAdd, satMul, wordMax, TransferList.headerSize,
      TransferList.entrySize]
    omega
  rw [describe, if_pos hsize]

end Area

end Wdf
