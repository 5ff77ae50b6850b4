import Mathlib.Data.List.Forall2
import Mathlib.Logic.Equiv.Defs
import NabuCharger.Logic.Word

/-!
# `Logic.Layout`: how a value lies in memory

A value in memory is a list of cells. A cell holds a byte, or it is padding: the language says
nothing about the byte there. `Fills bytes cells` says that the bytes are what the cells say.

A `Layout` of a type writes its values as cells and reads them back, and carries both round
trips: reading what a value filled gives the value (`decode_of_fills`), and bytes that were read
fill what was read (`fills_decode`). Layouts are built from words, least significant byte first
(`Layout.word`), and padding, one behind the other (`Layout.pair`).
-/

set_option autoImplicit false

namespace Effectful

/-! ### Words -/

/-- The number `v` in `n` bytes, least significant byte first. -/
def storeLe : Nat → Nat → List Byte
  | 0, _ => []
  | n + 1, v => BitVec.ofNat 8 v :: storeLe n (v / 256)

/-- The number in the bytes, least significant byte first. -/
def loadLe : List Byte → Nat
  | [] => 0
  | b :: rest => b.toNat + 256 * loadLe rest

/-- A number is stored in the bytes it is given. -/
@[simp] theorem storeLe_length (n v : Nat) : (storeLe n v).length = n := by
  induction n generalizing v with
  | zero => rfl
  | succ n ih => rw [storeLe, List.length_cons, ih]

/-- A number is read back up to its width. -/
theorem loadLe_storeLe (n v : Nat) : loadLe (storeLe n v) = v % 256 ^ n := by
  induction n generalizing v with
  | zero => rw [Nat.pow_zero, Nat.mod_one]; rfl
  | succ n ih =>
      have hwidth : 256 ^ (n + 1) = 256 * 256 ^ n := Nat.pow_succ'
      rw [storeLe, loadLe, ih, BitVec.toNat_ofNat, hwidth, Nat.mod_mul]

/-- Bytes that were read as a number are stored again. -/
theorem storeLe_loadLe (bytes : List Byte) : storeLe bytes.length (loadLe bytes) = bytes := by
  induction bytes with
  | nil => rfl
  | cons b rest ih =>
      have hb : b.toNat < 256 := b.isLt
      have hhead : BitVec.ofNat 8 (b.toNat + 256 * loadLe rest) = b := by
        apply BitVec.eq_of_toNat_eq
        rw [BitVec.toNat_ofNat]
        omega
      have htail : (b.toNat + 256 * loadLe rest) / 256 = loadLe rest := by omega
      rw [List.length_cons, loadLe, storeLe, hhead, htail, ih]

/-! ### Cells -/

/-- A byte of a value in memory, or `none` for padding. -/
abbrev Cell : Type := Option Byte

/-- The bytes are what the cells say. -/
def Fills (bytes : List Byte) (cells : List Cell) : Prop :=
  List.Forall₂ (fun b cell => ∀ v, cell = some v → b = v) bytes cells

namespace Fills

variable {bytes : List Byte} {cells : List Cell}

/-- Whatever fills the cells is as long as they are. -/
theorem length_eq (h : Fills bytes cells) : bytes.length = cells.length :=
  List.Forall₂.length_eq h

/-- Cells without padding are filled by their own bytes alone. -/
theorem map_some_iff {held : List Byte} : Fills bytes (held.map some) ↔ bytes = held := by
  induction held generalizing bytes with
  | nil => exact List.forall₂_nil_right_iff
  | cons v held ih =>
      rw [List.map_cons, Fills, List.forall₂_cons_right_iff]
      constructor
      · rintro ⟨b, rest, hb, hrest, rfl⟩
        rw [hb v rfl, ih.1 hrest]
      · rintro rfl
        refine ⟨v, held, fun w hw => Option.some.inj hw, ih.2 rfl, rfl⟩

/-- Anything fills padding. -/
theorem padding (bytes : List Byte) : Fills bytes (List.replicate bytes.length none) := by
  induction bytes with
  | nil => exact .nil
  | cons b rest ih => exact .cons (fun _ hv => by cases hv) ih

/-- Two pieces, one behind the other. -/
theorem append_iff {first rest : List Cell} : Fills bytes (first ++ rest) ↔
    Fills (bytes.take first.length) first ∧ Fills (bytes.drop first.length) rest := by
  constructor
  · intro h
    exact ⟨List.forall₂_take_append _ _ _ h, List.forall₂_drop_append _ _ _ h⟩
  · rintro ⟨hfirst, hrest⟩
    have h : Fills (bytes.take first.length ++ bytes.drop first.length) (first ++ rest) :=
      List.rel_append hfirst hrest
    rwa [List.take_append_drop] at h

end Fills

/-! ### Layouts -/

/-- How the values of a type lie in memory. -/
structure Layout (α : Type) where
  size : Nat
  encode : α → List Cell
  decode : List Byte → α
  length_encode : ∀ a, (encode a).length = size
  decode_of_fills : ∀ a bytes, Fills bytes (encode a) → decode bytes = a
  fills_decode : ∀ bytes, bytes.length = size → Fills bytes (encode (decode bytes))

namespace Layout

variable {α β : Type}

/-- A word of `n` bytes, least significant byte first. -/
def word (n : Nat) : Layout (BitVec (8 * n)) where
  size := n
  encode v := (storeLe n v.toNat).map some
  decode bytes := BitVec.ofNat (8 * n) (loadLe bytes)
  length_encode v := by rw [List.length_map, storeLe_length]
  decode_of_fills v bytes h := by
    have hwidth : 256 ^ n = 2 ^ (8 * n) := by rw [Nat.pow_mul]
    apply BitVec.eq_of_toNat_eq
    rw [Fills.map_some_iff.1 h, loadLe_storeLe, BitVec.toNat_ofNat, hwidth, Nat.mod_mod,
      Nat.mod_eq_of_lt v.isLt]
  fills_decode bytes h := by
    have hwidth : 2 ^ (8 * n) = 256 ^ n := by rw [Nat.pow_mul]
    have hmod : loadLe bytes % 256 ^ n = loadLe bytes := by
      subst h
      rw [← loadLe_storeLe, storeLe_loadLe]
    rw [Fills.map_some_iff, BitVec.toNat_ofNat, hwidth, hmod]
    subst h
    exact (storeLe_loadLe bytes).symm

/-- Padding. -/
def padding (n : Nat) : Layout Unit where
  size := n
  encode _ := List.replicate n none
  decode _ := ()
  length_encode _ := List.length_replicate
  decode_of_fills _ _ _ := rfl
  fills_decode bytes h := h ▸ Fills.padding bytes

/-- One value behind the other. -/
def pair (L : Layout α) (R : Layout β) : Layout (α × β) where
  size := L.size + R.size
  encode a := L.encode a.1 ++ R.encode a.2
  decode bytes := (L.decode (bytes.take L.size), R.decode (bytes.drop L.size))
  length_encode a := by rw [List.length_append, L.length_encode, R.length_encode]
  decode_of_fills a bytes h := by
    obtain ⟨hfirst, hrest⟩ := Fills.append_iff.1 h
    rw [L.length_encode] at hfirst hrest
    rw [L.decode_of_fills _ _ hfirst, R.decode_of_fills _ _ hrest]
  fills_decode bytes h := by
    have hfirst := L.fills_decode (bytes.take L.size) (by rw [List.length_take]; omega)
    have hrest := R.fills_decode (bytes.drop L.size) (by rw [List.length_drop]; omega)
    rw [Fills.append_iff, L.length_encode]
    exact ⟨hfirst, hrest⟩

/-- The layout of a type through an equal one. -/
def map (L : Layout α) (e : α ≃ β) : Layout β where
  size := L.size
  encode b := L.encode (e.symm b)
  decode bytes := e (L.decode bytes)
  length_encode b := L.length_encode _
  decode_of_fills b bytes h := by rw [L.decode_of_fills _ _ h, e.apply_symm_apply]
  fills_decode bytes h := by rw [e.symm_apply_apply]; exact L.fills_decode bytes h

end Layout

end Effectful
