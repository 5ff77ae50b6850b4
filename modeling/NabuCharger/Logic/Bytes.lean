import NabuCharger.Logic.Word

/-!
# `Logic.Bytes`: words in a memory of bytes

A memory gives every address a byte. `storeWord` writes a number at an address, least
significant byte first, and `loadWord` reads one back. A word read where it was written is the
number, up to its width (`loadWord_storeWord`). A word apart from what was written is as it was
(`loadWord_storeWord_of_apart`), and so is a single byte.

`storeBytes` writes a list of bytes. Its byte `i` is found at that offset
(`storeBytes_get`).
-/

set_option autoImplicit false

namespace Effectful

/-- A memory. -/
abbrev Bytes : Type := Nat → Byte

namespace Bytes

variable {m m' : Bytes} {a b w n v : Nat}

/-- The number `v` in `w` bytes from the address `a` on. -/
def storeWord (m : Bytes) (a w v : Nat) : Bytes :=
  fun x => if a ≤ x ∧ x < a + w then BitVec.ofNat 8 (v / 256 ^ (x - a)) else m x

/-- The number in `w` bytes from the address `a` on. -/
def loadWord (m : Bytes) (a : Nat) : Nat → Nat
  | 0 => 0
  | w + 1 => (m a).toNat + 256 * loadWord m (a + 1) w

/-- The bytes `content` from the address `a` on. -/
def storeBytes (m : Bytes) (a : Nat) (content : List Byte) : Bytes :=
  fun x => if a ≤ x then (content[x - a]?).getD (m x) else m x

/-- Two ranges of addresses without a common one. -/
abbrev Apart (a w b n : Nat) : Prop := a + w ≤ b ∨ b + n ≤ a

/-- A byte of a stored word. -/
theorem storeWord_of_mem (h : a ≤ b) (h' : b < a + w) :
    m.storeWord a w v b = BitVec.ofNat 8 (v / 256 ^ (b - a)) :=
  if_pos ⟨h, h'⟩

/-- A byte apart from a stored word. -/
theorem storeWord_of_apart (h : Apart a w b 1) : m.storeWord a w v b = m b := by
  refine if_neg fun hmem => ?_
  omega

/-- A loaded word depends on its own bytes. -/
theorem loadWord_congr (h : ∀ x, a ≤ x → x < a + n → m x = m' x) :
    m.loadWord a n = m'.loadWord a n := by
  induction n generalizing a with
  | zero => rfl
  | succ n ih =>
      have hfirst := h a (Nat.le_refl a) (by omega)
      have hrest := ih (a := a + 1) fun x hx hx' => h x (by omega) (by omega)
      rw [loadWord, loadWord, hfirst, hrest]

/-- A word apart from a stored one is as it was. -/
theorem loadWord_storeWord_of_apart (h : Apart a w b n) :
    (m.storeWord a w v).loadWord b n = m.loadWord b n := by
  refine loadWord_congr fun x hx hx' => storeWord_of_apart ?_
  omega

/-- The bytes of a stored word from its byte `k` on. -/
theorem loadWord_storeWord_from (k : Nat) (h : k + n ≤ w) :
    (m.storeWord a w v).loadWord (a + k) n = v / 256 ^ k % 256 ^ n := by
  induction n generalizing k with
  | zero => rw [loadWord, Nat.pow_zero, Nat.mod_one]
  | succ n ih =>
      have hbyte : m.storeWord a w v (a + k) = BitVec.ofNat 8 (v / 256 ^ k) := by
        rw [storeWord_of_mem (by omega) (by omega), Nat.add_sub_cancel_left]
      have hrest := ih (k + 1) (by omega)
      have hsplit : v / 256 ^ (k + 1) = v / 256 ^ k / 256 := by
        rw [Nat.pow_succ, Nat.div_div_eq_div_mul]
      have hwidth : 256 ^ (n + 1) = 256 * 256 ^ n := Nat.pow_succ'
      rw [loadWord, hbyte, Nat.add_assoc, hrest, BitVec.toNat_ofNat, hsplit, hwidth, Nat.mod_mul]

/-- A word read where it was written. -/
theorem loadWord_storeWord : (m.storeWord a w v).loadWord a w = v % 256 ^ w := by
  have h := loadWord_storeWord_from (m := m) (a := a) (v := v) (n := w) (w := w) 0 (by omega)
  rwa [Nat.add_zero, Nat.pow_zero, Nat.div_one] at h

/-- A stored byte. -/
theorem storeBytes_get {content : List Byte} {i : Nat} {value : Byte}
    (h : content[i]? = some value) : m.storeBytes a content (a + i) = value := by
  rw [storeBytes, if_pos (by omega), Nat.add_sub_cancel_left, h, Option.getD_some]

/-- A byte apart from the stored ones. -/
theorem storeBytes_of_apart {content : List Byte} (h : Apart a content.length b 1) :
    m.storeBytes a content b = m b := by
  rw [storeBytes]
  split
  · rw [List.getElem?_eq_none (by omega), Option.getD_none]
  · rfl

end Bytes

end Effectful
