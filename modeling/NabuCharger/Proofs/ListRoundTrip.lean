import NabuCharger.Wdf.SpbDescribe

/-!
# `Proofs.ListRoundTrip`: a transfer list that is written is read back

The builder of the shared crate fills an area, and the bus driver reads it by the layout of the
header file. `round_trip` says that it finds the list that was given, and that the builder has
touched nothing but the fields of that layout (`ListField`): neither the padding of the header and
of the entries, nor a byte beyond the list. An error leaves the memory alone.

The counter of the header has 32 bits, and a longer list is refused (`Area.describe_too_many`).
-/

set_option autoImplicit false

namespace Wdf

open Effectful

/-- The byte belongs to a field of the entry at `base`. -/
def EntryField (base b : Nat) : Prop := (base ≤ b ∧ b < base + 12) ∨ base + 16 ≤ b ∧ b < base + 28

/-- The byte belongs to a field of the list of `count` transfers at `start`. -/
def ListField (start count b : Nat) : Prop :=
  (start ≤ b ∧ b < start + 12) ∨ ∃ i < count, EntryField (start + entryOffset i) b

section
variable {m : Bytes} {start b : Nat}

/-- Writing an entry changes its fields only. -/
theorem store_of_not_field {base : Nat} {entry : SpbTransferListEntry} (h : ¬EntryField base b) :
    SpbTransferListEntry.store m base entry b = m b := by
  simp only [EntryField, not_or, not_and_or, Nat.not_le, Nat.not_lt] at h
  rw [SpbTransferListEntry.store, Bytes.storeWord_of_apart (by omega),
    Bytes.storeWord_of_apart (by omega), Bytes.storeWord_of_apart (by omega),
    Bytes.storeWord_of_apart (by omega), Bytes.storeWord_of_apart (by omega)]

/-- Writing the entries changes their fields only. -/
theorem storeEntries_of_not_field {transfers : List SpbTransferListEntry} {i : Nat}
    (h : ∀ k < transfers.length, ¬EntryField (start + entryOffset (i + k)) b) :
    storeEntries m start i transfers b = m b := by
  induction transfers generalizing m i with
  | nil => rfl
  | cons entry rest ih =>
      have hfirst : ¬EntryField (start + entryOffset i) b := h 0 (Nat.zero_lt_succ _)
      rw [storeEntries, ih, store_of_not_field hfirst]
      intro k hk
      rw [Nat.add_assoc, Nat.add_comm 1]
      exact h (k + 1) (Nat.succ_lt_succ hk)

/-- A byte beside the fields is as it was. -/
theorem stored_of_not_field {transfers : List SpbTransferListEntry}
    (h : ¬ListField start transfers.length b) :
    storeEntries (storeHeader m start transfers.length) start 0 transfers b = m b := by
  obtain ⟨hheader, hentries⟩ := not_or.1 h
  rw [storeEntries_of_not_field, SpbTransferList.storeHeader_of_apart (by omega)]
  intro k hk hfield
  rw [Nat.zero_add] at hfield
  exact hentries ⟨k, hk, hfield⟩

end

/-- A list that fits, with a count that its header can hold, is read back as it was given, and no
other byte changes. An error changes none. -/
theorem round_trip : (∀ (area : Area) (m : Bytes) (transfers : List SpbTransferListEntry),
      area.start % 8 = 0 → areaSize transfers.length ≤ area.length →
      transfers.length ≤ wordMax 32 →
      (area.describe m transfers).1 = .ok (areaSize transfers.length) ∧
        SpbTransferList.parse (area.describe m transfers).2 area.start area.length =
          some ⟨48, 0, transfers.length, transfers⟩ ∧
        ∀ b, ¬ListField area.start transfers.length b → (area.describe m transfers).2 b = m b) ∧
    ∀ (area : Area) (m : Bytes) (transfers : List SpbTransferListEntry) (err : SequenceError),
      (area.describe m transfers).1 = .error err → (area.describe m transfers).2 = m := by
  constructor
  · intro area m transfers haligned hroom hword
    have hcount : transfers.length < 2 ^ 32 := by
      rw [wordMax] at hword
      omega
    rw [Area.describe_eq haligned hroom hcount]
    refine ⟨rfl, ?_, fun b hb => stored_of_not_field hb⟩
    -- the entries are stored behind the header, so they leave its fields
    have hat : SpbTransferList.HeaderAt
        (storeEntries (storeHeader m area.start transfers.length) area.start 0 transfers)
        area.start transfers.length := by
      refine (SpbTransferList.headerAt_storeHeader (m := m) hcount).congr fun x _ hx => ?_
      refine storeEntries_of_lt ?_
      simp only [entryOffset, transfersOffset]
      omega
    refine hat.parse_entries hroom fun i entry hentry => ?_
    have hload : SpbTransferListEntry.load
        (storeEntries (storeHeader m area.start transfers.length) area.start 0 transfers)
        (area.start + entryOffset (0 + i)) = entry :=
      load_storeEntries hentry
    rwa [Nat.zero_add] at hload
  · intro area m transfers err h
    exact Area.describe_error h

/-- A slice with room for two transfers. -/
def roomForTwo : Area := ⟨4096, areaSize 2, by decide⟩

/-- A register address to send, and a byte to receive. -/
def readTransfers : List SpbTransferListEntry :=
  [.init 1 2 8192 1, .init 1 1 8200 1]

/-- Two transfers are read back from the slice. A third one does not fit: the builder answers with
an error, and the memory is as it was. -/
theorem round_trip_two :
    (SpbTransferList.parse (roomForTwo.describe (fun _ => 255) readTransfers).2 4096 80 =
        some ⟨48, 0, 2, readTransfers⟩ ∧
      (roomForTwo.describe (fun _ => 255) readTransfers).2 (4096 + 12) = 255) ∧
    let longer := readTransfers ++ readTransfers
    (roomForTwo.describe (fun _ => 255) longer).1 = .error .areaTooSmall ∧
      (roomForTwo.describe (fun _ => 255) longer).2 = fun _ => 255 := by
  refine ⟨?_, ?_⟩
  · obtain ⟨-, hparse, hothers⟩ := round_trip.1 roomForTwo (fun _ => 255) readTransfers (by decide)
      (by decide) (by decide)
    -- The bytes 12 to 15 pad the header.
    refine ⟨hparse, hothers _ ?_⟩
    rw [ListField, not_or]
    refine ⟨by decide, fun ⟨i, _, hfield⟩ => ?_⟩
    simp only [EntryField, entryOffset, transfersOffset, roomForTwo] at hfield
    omega
  · intro longer
    have hsmall : (roomForTwo.describe (fun _ => 255) longer).1 = .error .areaTooSmall := by
      rw [Area.describe_too_small (.inl (by decide))]
    exact ⟨hsmall, round_trip.2 _ _ _ _ hsmall⟩

/-- One transfer more than the counter can hold, in an area that has room for all of them. -/
theorem not_round_trip :
    let area : Area := ⟨4096, areaSize (2 ^ 32), by decide⟩
    let transfers := List.replicate (2 ^ 32) (SpbTransferListEntry.init 1 2 0 0)
    area.start % 8 = 0 ∧ areaSize transfers.length ≤ area.length ∧
      (area.describe (fun _ => 0) transfers).1 = .error .tooManyTransfers := by
  intro area transfers
  have hlength : transfers.length = 2 ^ 32 := List.length_replicate
  have hroom : areaSize transfers.length ≤ area.length := by
    rw [hlength]
  refine ⟨(rfl : 4096 % 8 = 0), hroom, ?_⟩
  rw [Area.describe_too_many (rfl : 4096 % 8 = 0) hroom (by rw [hlength])]

end Wdf
