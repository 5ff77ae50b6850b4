import NabuCharger.Wdf.Rendering
import NabuCharger.Wdf.SpmiTransport

/-!
# `Wdf.SpmiArea`: the bytes of an SPMI transfer list

What `SpmiTransport` writes before it sends, byte by byte. `prepareWrite` and `prepareRead` are
the stores of `write_reg` and `read_reg`, in their order, on the memory with the transfer area and
the data buffer. `writeReg_renders` and `readReg_renders` say that the transport over slots makes
the same lists.

The payload stands at offset 80. The second entry of a read is written one entry behind the
header, at the same offset, and not at 48, where a parser looks for it.
-/

set_option autoImplicit false

namespace Wdf

open Effectful

namespace SpmiTransport

/-- Area for the transfer list, in bytes. -/
def transferArea : Nat := 256

/-- Length of the data buffer. -/
def dataLen : Nat := 8

/-- The stores of a register write. -/
def prepareWrite (buffers : Buffers transferArea dataLen) (config : SpmiConfig)
    (addr : BitVec 16) (value : Byte) (m : Bytes) : Bytes :=
  let bytes := config.addressBytes addr
  let m := storeHeader m buffers.area 1
  let payload := buffers.area + payloadOffset
  let m := m.storeBytes payload [bytes.1, bytes.2, value]
  SpbTransferListEntry.store m (buffers.area + transfersOffset)
    (.init spbFormatSimple spbDirectionToDevice payload 3)

/-- The stores of a register read. -/
def prepareRead (buffers : Buffers transferArea dataLen) (config : SpmiConfig)
    (addr : BitVec 16) (m : Bytes) : Bytes :=
  let bytes := config.addressBytes addr
  let m := storeHeader m buffers.area maxTransfers
  let payload := buffers.area + payloadOffset
  let m := m.storeBytes payload [bytes.1, bytes.2]
  let m := SpbTransferListEntry.store m (buffers.area + transfersOffset)
    (.init spbFormatSimple spbDirectionToDevice payload 2)
  let second := buffers.area + TransferList.headerSize + TransferList.entrySize
  SpbTransferListEntry.store m second (.init spbFormatSimple spbDirectionFromDevice buffers.data 1)

section Rendering

variable {buffers : Buffers transferArea dataLen} {m : Bytes} {list : TransferList}
  {data : List Byte} {transport : SpmiTransport}

/-- A register write prepares these bytes, then sends. -/
theorem writeReg_renders (addr : BitVec 16) (value : Byte) (harea : transport.area = some list)
    (hdata : transport.data = some data) (h : Renders buffers m list data)
    (hslots : 2 < list.slots.length) :
    ∃ list', writeReg addr value transport = send { transport with area := some list' } ∧
      Renders buffers (prepareWrite buffers transport.config addr value m) list' data := by
  -- header, payload and entry, in the order they are stored
  have hheader : Renders buffers (storeHeader m buffers.area 1) (list.withHeader 1) data :=
    h.header (by decide)
  have hpayload := hheader.putBytes
    [(transport.config.addressBytes addr).1, (transport.config.addressBytes addr).2, value]
    hslots (by simp)
  have hfirst := hpayload.putEntry (i := 0)
    (entryInit spbDirectionToDevice (some (.transferArea, payloadOffset)) 3)
    (by rw [TransferList.put, List.length_set]; exact Nat.zero_lt_of_lt hslots)
  refine ⟨_, ?_, hfirst⟩
  obtain ⟨area, bytes, config⟩ := transport
  subst harea hdata
  rfl

/-- A register read prepares these bytes, then sends and reads the reply. -/
theorem readReg_renders (addr : BitVec 16) (harea : transport.area = some list)
    (hdata : transport.data = some data) (h : Renders buffers m list data)
    (hslots : 2 < list.slots.length) :
    ∃ list', readReg addr transport =
        (do send; Proc.perform (E := WdfEffect) (.readByte .data 0) : SpmiM Byte)
          { transport with area := some list' } ∧
      Renders buffers (prepareRead buffers transport.config addr m) list' data := by
  have hheader : Renders buffers (storeHeader m buffers.area 2) (list.withHeader 2) data :=
    h.header (by decide)
  -- header, address bytes, the two entries: the order in which the driver writes them
  have hpayload := hheader.putBytes
    [(transport.config.addressBytes addr).1, (transport.config.addressBytes addr).2]
    hslots (by simp)
  have hfirst := hpayload.putEntry (i := 0)
    (entryInit spbDirectionToDevice (some (.transferArea, payloadOffset)) 2)
    (by rw [TransferList.put, List.length_set]; exact Nat.zero_lt_of_lt hslots)
  have hsecond := hfirst.putEntry (i := 2)
    (entryInit spbDirectionFromDevice (some (.data, 0)) 1)
    (by rw [TransferList.put, TransferList.put, List.length_set, List.length_set]; exact hslots)
  refine ⟨_, ?_, hsecond⟩
  obtain ⟨area, bytes, config⟩ := transport
  subst harea hdata
  rfl

end Rendering

end SpmiTransport

end Wdf
