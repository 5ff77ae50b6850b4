import NabuCharger.Wdf.Rendering
import NabuCharger.Kmdf.Spb

/-!
# `Kmdf.SpbArea`: the bytes of an I²C transfer list

What `SpbBus` writes before it sends, byte by byte. `SpbArea` is the memory with the transfer
area and the data buffer, the variant, and the count of the last list. `prepare` and
`prepareSpmi16` are the stores of the two builders, in their order. `prepare_renders` and
`prepareSpmi16_renders` say that the builders over slots make the same lists.

A `Turn` of the bus switches the variant, prepares a list, or brings the reply bytes of a
transaction. The area is never cleared between them. `run` is a history of turns.
-/

set_option autoImplicit false

namespace Kmdf

open Effectful Ln8000 Wdf

namespace Spb

/-- Maximum number of transfers in a sequence. -/
def maxTransfers : Nat := 3

/-- Transfer area size: exactly for the maximum number of transfers. -/
def transferArea : Nat := areaSize maxTransfers

/-- Length of the data buffer. -/
def dataLen : Nat := 8

/-- Length of a memory object. -/
def memoryLength : Memory → Nat
  | .transferArea => transferArea
  | .transferView count => areaSize count
  | .data => dataLen
  | .attachIn => 8
  | .attachOut => 1024

end Spb

/-- The memory of a bus, and the fields that its builders read and write. -/
structure SpbArea where
  bytes : Bytes
  variant : Byte
  lastCount : Nat

namespace SpbArea

/-- The buffers of a bus. -/
abbrev BusBuffers : Type := Buffers Spb.transferArea Spb.dataLen

variable (buffers : BusBuffers)

/-- Writes an entry. -/
def storeEntry (offset : Nat) (entry : SpbTransferListEntry) (m : Bytes) : Bytes :=
  SpbTransferListEntry.store m (buffers.area + offset) entry

/-- The stores of a register read or write. -/
def prepare (addr : RegAddr) (value : Option Byte) (bus : SpbArea) : SpbArea :=
  let terminated := bus.variant == variantTerminated
  -- a write is one transfer and a read two, and a terminated list has one more
  let count := Spb.transferCount value.isSome terminated
  let format := Spb.entryFormat bus.variant
  let m := storeHeader bus.bytes buffers.area count
  let payload := buffers.data
  let readTarget := buffers.data + 1
  let m := match value with
    -- the register and the value go out as one transfer
    | some byte =>
        storeEntry buffers transfersOffset (.init format spbDirectionToDevice payload 2)
          ((m.storeBytes payload [addr]).storeBytes (payload + 1) [byte])
    -- the register goes out, then the value comes in
    | none =>
        storeEntry buffers TransferList.headerSize
          (.init format spbDirectionFromDevice readTarget 1)
          (storeEntry buffers transfersOffset (.init format spbDirectionToDevice payload 1)
            (m.storeBytes payload [addr]))
  let m :=
    if terminated then
      storeEntry buffers (TransferList.headerSize + (count - 2) * TransferList.entrySize)
        (.init format spbDirectionNone 0 0) m
    else m
  { bus with bytes := m, lastCount := count }

/-- The stores of a read or write of an SPMI register with a 16-bit address. -/
def prepareSpmi16 (addr : BitVec 16) (value : Option Byte) (bigEndian : Bool) (bus : SpbArea) :
    SpbArea :=
  let count := if value.isSome then 1 else 2
  let format := Spb.entryFormat bus.variant
  let m := storeHeader bus.bytes buffers.area count
  let bytes := Spb.addressBytes addr bigEndian
  let payload := buffers.data
  let readTarget := buffers.data + 2
  let m := (m.storeBytes payload [bytes.1]).storeBytes (payload + 1) [bytes.2]
  let m := match value with
    | some byte =>
        storeEntry buffers transfersOffset (.init format spbDirectionToDevice payload 3)
          (m.storeBytes (payload + 2) [byte])
    | none =>
        storeEntry buffers TransferList.headerSize
          (.init format spbDirectionFromDevice readTarget 1)
          (storeEntry buffers transfersOffset (.init format spbDirectionToDevice payload 2) m)
  { bus with bytes := m, lastCount := count }

/-- A register access, for the one builder or for the other. -/
inductive Access
  | register (addr : RegAddr) (value : Option Byte)
  | spmi16 (addr : BitVec 16) (value : Option Byte) (bigEndian : Bool)
  deriving DecidableEq, Repr

/-- The byte to write. A read has none. -/
def Access.value : Access → Option Byte
  | .register _ value => value
  | .spmi16 _ value _ => value

/-- The bytes of the register address, in the order of the bus. -/
def Access.addressBytes : Access → List Byte
  | .register addr _ => [addr]
  | .spmi16 addr _ bigEndian =>
      [(Spb.addressBytes addr bigEndian).1, (Spb.addressBytes addr bigEndian).2]

/-- Prepares the list of an access. -/
def Access.prepare : Access → SpbArea → SpbArea
  | .register addr value => SpbArea.prepare buffers addr value
  | .spmi16 addr value bigEndian => SpbArea.prepareSpmi16 buffers addr value bigEndian

/-- What happens to the memory of a bus. -/
inductive Turn
  | setVariant (variant : Byte)
  | transact (access : Access)
  | reply (offset : Nat) (value : Byte)
  deriving DecidableEq, Repr

/-- What a turn leaves in the area. -/
def Turn.apply (bus : SpbArea) : Turn → SpbArea
  | .setVariant variant => { bus with variant }
  | .transact access => access.prepare buffers bus
  | .reply offset value =>
      { bus with bytes := bus.bytes.storeBytes (buffers.data + offset) [value] }

/-- A history of turns. -/
def run (bus : SpbArea) (turns : List Turn) : SpbArea :=
  turns.foldl (Turn.apply buffers) bus

/-! ### The builders over slots -/

section Rendering

variable {buffers} {m : Bytes} {list : TransferList} {data : List Byte} (bus : SpbBus)

/-- The bus over slots is the bus over bytes. -/
structure Shows (buffers : BusBuffers) (bus : SpbBus) (area : SpbArea) : Prop where
  variant : bus.variant = area.variant
  lastCount : bus.lastCount = area.lastCount
  renders : ∀ list data, bus.area = some list → bus.data = some data →
    Renders buffers area.bytes list data

/-- The builder of a register access writes these bytes. -/
theorem prepare_renders (addr : RegAddr) (value : Option Byte) (harea : bus.area = some list)
    (hdata : bus.data = some data) (h : Renders buffers m list data)
    (hslots : list.slots.length = 3) (hlength : data.length = 8) :
    ∃ bus', Spb.prepare addr value bus = .ret (.ok (), bus') ∧
      Shows buffers bus' (prepare buffers addr value ⟨m, bus.variant, bus.lastCount⟩) := by
  obtain ⟨area, bytes, lastStatus, lost, variant, attachIn, attachOut, words, count⟩ := bus
  dsimp only at harea hdata
  subst harea hdata
  have hheader : ∀ count, count < 2 ^ 32 →
      Renders buffers (storeHeader m buffers.area count) (list.withHeader count) data :=
    fun count hcount => h.header hcount
  refine ⟨_, rfl, ⟨rfl, rfl, fun list' data' hlist' hdata' => ?_⟩⟩
  -- a write is one transfer, a read two; a terminated list has an empty entry behind them
  cases value with
  | some byte =>
      cases hlist'
      cases hdata'
      rw [prepare]
      dsimp only
      generalize (variant == variantTerminated) = terminated
      have hcount : Spb.transferCount true terminated < 2 ^ 32 := by cases terminated <;> decide
      have hbytes := ((hheader _ hcount).setData (k := 0) addr (by omega)).setData (k := 1) byte
        (by rw [List.length_set]; omega)
      have hfirst := hbytes.putEntry (i := 0)
        (Spb.entryWithFormat (Spb.entryFormat variant) spbDirectionToDevice (some (.data, 0)) 2)
        (by show 0 < list.slots.length; omega)
      cases terminated with
      | false => exact hfirst
      | true =>
          have hlast := hfirst.putEntry (i := 1)
            (Spb.entryWithFormat (Spb.entryFormat variant) spbDirectionNone none 0)
            (by rw [TransferList.put, List.length_set]; show 1 < list.slots.length; omega)
          rw [show Spb.transferCount (some byte).isSome true = 2 from rfl]
          exact hlast
  | none =>
      cases hlist'
      cases hdata'
      rw [prepare]
      dsimp only
      generalize (variant == variantTerminated) = terminated
      have hcount : Spb.transferCount false terminated < 2 ^ 32 := by cases terminated <;> decide
      have hbytes := (hheader _ hcount).setData (k := 0) addr (by omega)
      have hfirst := hbytes.putEntry (i := 0)
        (Spb.entryWithFormat (Spb.entryFormat variant) spbDirectionToDevice (some (.data, 0)) 1)
        (by show 0 < list.slots.length; omega)
      have hsecond := hfirst.putEntry (i := 1)
        (Spb.entryWithFormat (Spb.entryFormat variant) spbDirectionFromDevice (some (.data, 1)) 1)
        (by rw [TransferList.put, List.length_set]; show 1 < list.slots.length; omega)
      cases terminated with
      | false => exact hsecond
      | true =>
          have hlast := hsecond.putEntry (i := 2)
            (Spb.entryWithFormat (Spb.entryFormat variant) spbDirectionNone none 0)
            (by rw [TransferList.put, TransferList.put, List.length_set, List.length_set]
                show 2 < list.slots.length
                omega)
          rw [show Spb.transferCount (none : Option Byte).isSome true = 3 from rfl]
          exact hlast

/-- The builder of an SPMI access writes these bytes. -/
theorem prepareSpmi16_renders (addr : BitVec 16) (value : Option Byte) (bigEndian : Bool)
    (harea : bus.area = some list) (hdata : bus.data = some data)
    (h : Renders buffers m list data) (hslots : list.slots.length = 3)
    (hlength : data.length = 8) :
    ∃ bus', Spb.prepareSpmi16 addr value bigEndian bus = .ret (.ok (), bus') ∧
      Shows buffers bus'
        (prepareSpmi16 buffers addr value bigEndian ⟨m, bus.variant, bus.lastCount⟩) := by
  obtain ⟨area, bytes, lastStatus, lost, variant, attachIn, attachOut, words, count⟩ := bus
  dsimp only at harea hdata
  subst harea hdata
  have hbytes : ∀ count, count < 2 ^ 32 →
      Renders buffers
        (((storeHeader m buffers.area count).storeBytes (buffers.data + 0)
          [(Spb.addressBytes addr bigEndian).1]).storeBytes (buffers.data + 1)
          [(Spb.addressBytes addr bigEndian).2])
        (list.withHeader count)
        ((data.set 0 (Spb.addressBytes addr bigEndian).1).set 1
          (Spb.addressBytes addr bigEndian).2) := by
    intro count hcount
    exact ((h.header hcount).setData _ (by omega)).setData _ (by rw [List.length_set]; omega)
  refine ⟨_, rfl, ⟨rfl, rfl, fun list' data' hlist' hdata' => ?_⟩⟩
  -- a write is one transfer of three bytes, a read an address and its answer
  cases value with
  | some byte =>
      cases hlist'
      cases hdata'
      have hvalue := (hbytes 1 (by decide)).setData (k := 2) byte
        (by rw [List.length_set, List.length_set]; omega)
      have hfirst := hvalue.putEntry (i := 0)
        (Spb.entryWithFormat (Spb.entryFormat variant) spbDirectionToDevice (some (.data, 0)) 3)
        (by show 0 < list.slots.length; omega)
      exact hfirst
  | none =>
      cases hlist'
      cases hdata'
      have hfirst := (hbytes 2 (by decide)).putEntry (i := 0)
        (Spb.entryWithFormat (Spb.entryFormat variant) spbDirectionToDevice (some (.data, 0)) 2)
        (by show 0 < list.slots.length; omega)
      have hsecond := hfirst.putEntry (i := 1)
        (Spb.entryWithFormat (Spb.entryFormat variant) spbDirectionFromDevice (some (.data, 2)) 1)
        (by rw [TransferList.put, List.length_set]; show 1 < list.slots.length; omega)
      exact hsecond

end Rendering

end SpbArea

end Kmdf
