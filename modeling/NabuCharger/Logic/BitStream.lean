import Mathlib.Data.Nat.Digits.Defs

/-!
# `Logic.BitStream`: fields in a stream of bits

A device that packs its results without gaps has one long number in its registers, and a field is
a `slice` of it. A slice of a slice is a slice (`slice_slice`), so a field can be cut out of the
bytes that hold it. `packed` lays fields of one width behind each other, the first lowest.
`slice_packed` cuts each one out again, and `packed_slices` puts a number together from its
slices.
-/

set_option autoImplicit false

namespace Effectful

/-- The `width` bits from `offset` on. -/
def slice (bits offset width : Nat) : Nat := bits / 2 ^ offset % 2 ^ width

/-- Fields of `width` bits behind each other. -/
def packed (width : Nat) (fields : List Nat) : Nat := Nat.ofDigits (2 ^ width) fields

/-- A slice has no more bits than its width. -/
theorem slice_lt (bits offset width : Nat) : slice bits offset width < 2 ^ width :=
  Nat.mod_lt _ (Nat.two_pow_pos width)

/-- A slice that lies inside another one. -/
theorem slice_slice {bits offset width inner size : Nat} (h : inner + size ≤ width) :
    slice (slice bits offset width) inner size = slice bits (offset + inner) size := by
  obtain ⟨rest, rfl⟩ := Nat.exists_eq_add_of_le h
  rw [slice, slice, slice, Nat.add_assoc, Nat.pow_add 2 inner, Nat.mod_mul_right_div_self,
    Nat.pow_add 2 size, Nat.mod_mul_right_mod, Nat.div_div_eq_div_mul, ← Nat.pow_add]

/-- Two neighbouring slices are one. -/
theorem slice_add (bits offset width more : Nat) :
    slice bits offset (width + more) =
      slice bits offset width + 2 ^ width * slice bits (offset + width) more := by
  rw [slice, slice, slice, Nat.pow_add, Nat.mod_mul, Nat.div_div_eq_div_mul, ← Nat.pow_add]

/-- Each field is where its index says. -/
theorem slice_packed {width : Nat} {fields : List Nat} (hfields : ∀ f ∈ fields, f < 2 ^ width)
    {i : Nat} (hi : i < fields.length) :
    slice (packed width fields) (width * i) width = fields[i] := by
  have hdrop : fields.drop i = fields[i] :: fields.drop (i + 1) := List.drop_eq_getElem_cons hi
  have hsmall : fields[i] < 2 ^ width := hfields _ (List.getElem_mem hi)
  rw [slice, packed, Nat.pow_mul,
    Nat.ofDigits_div_pow_eq_ofDigits_drop i (Nat.two_pow_pos width) fields hfields, hdrop,
    Nat.ofDigits_cons, Nat.add_mul_mod_self_left, Nat.mod_eq_of_lt hsmall]

/-- A number is made of its slices. -/
theorem packed_slices (bits width n : Nat) :
    packed width ((List.range n).map fun i => slice bits (width * i) width) =
      bits % 2 ^ (width * n) := by
  induction n with
  | zero => simp [packed, Nat.mod_one]
  | succ n ih =>
      rw [packed] at ih ⊢
      rw [List.range_succ, List.map_append, Nat.ofDigits_append, ih, List.length_map,
        List.length_range, List.map_singleton, Nat.ofDigits_singleton, Nat.mul_succ, Nat.pow_add,
        Nat.mod_mul, ← Nat.pow_mul, slice]

end Effectful
