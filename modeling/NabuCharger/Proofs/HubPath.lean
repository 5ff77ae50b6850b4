import NabuCharger.Logic.BitStream
import NabuCharger.Wdf.HubPath

/-!
# `Proofs.HubPath`: the digits of a Resource Hub path

Both builders write the sixteen nibbles of the id, the highest first (`nibbles`). A number is made
of its slices, so the nibbles are the number, with the zeros in front that the width asks for. The
parser of the digits finds the id again (`parseHex_hubDigits`), and no two ids share a path.

A builder that skips what does not fit could cut a path off. Neither does: `Holds` says what is in
the buffer of the shared crate, and there is room for every character.
-/

set_option autoImplicit false

namespace Wdf

open Effectful

/-- An ASCII character as a wide one. -/
def wide (c : Char) : WideChar := BitVec.ofNat 16 c.toNat

/-- The prefix of every path. -/
def hubPrefix : Text := "\\Device\\RESOURCE_HUB\\".toList

/-- The nibbles of an id, the highest first. -/
def nibbles (id : BitVec 64) : List Nat :=
  ((List.range 16).map fun i => slice id.toNat (4 * i) 4).reverse

/-- The digits of an id. -/
def hubDigits (id : BitVec 64) : Text := (nibbles id).map lowerHexDigit

/-! ### The digits -/

/-- A 64-bit id renders as sixteen digits. -/
theorem length_hubDigits (id : BitVec 64) : (hubDigits id).length = 16 := by
  rw [hubDigits, List.length_map, nibbles, List.length_reverse, List.length_map, List.length_range]

/-- Each nibble of an id is below sixteen. -/
theorem nibbles_lt (id : BitVec 64) : ∀ d ∈ nibbles id, d < 16 := by
  intro d hd
  obtain ⟨i, -, rfl⟩ := List.mem_map.1 (List.mem_reverse.1 hd)
  exact slice_lt id.toNat (4 * i) 4

/-- Every digit is one of the sixteen in lower case. -/
theorem mem_hubDigits {id : BitVec 64} {c : Char} (h : c ∈ hubDigits id) :
    c ∈ "0123456789abcdef".toList := by
  obtain ⟨d, hd, rfl⟩ := List.mem_map.1 h
  have hall : ∀ d : Fin 16, lowerHexDigit d ∈ "0123456789abcdef".toList := by decide
  exact hall ⟨d, nibbles_lt id d hd⟩

/-- Digits that agree as wide characters agree. -/
theorem map_wide_inj {l l' : Text} (hl : ∀ c ∈ l, c ∈ "0123456789abcdef".toList)
    (hl' : ∀ c ∈ l', c ∈ "0123456789abcdef".toList) (h : l.map wide = l'.map wide) : l = l' := by
  -- on the sixteen digits the widening is one to one
  have hall : ("0123456789abcdef".toList.all fun c => "0123456789abcdef".toList.all fun c' =>
      decide (wide c = wide c' → c = c')) = true := by decide
  have hinj : ∀ c ∈ l, ∀ c' ∈ l', wide c = wide c' → c = c' := by
    intro c hc c' hc' heq
    have hc := List.all_eq_true.1 hall c (hl c hc)
    exact of_decide_eq_true (List.all_eq_true.1 hc c' (hl' c' hc')) heq
  induction l generalizing l' with
  | nil => exact (List.map_eq_nil_iff.1 h.symm).symm
  | cons c rest ih =>
      cases l' with
      | nil => cases h
      | cons c' rest' =>
          obtain ⟨hhead, htail⟩ := List.cons.inj h
          rw [hinj c List.mem_cons_self c' List.mem_cons_self hhead,
            ih (fun x hx => hl x (List.mem_cons_of_mem _ hx))
              (fun x hx => hl' x (List.mem_cons_of_mem _ hx)) htail
              fun x hx x' hx' => hinj x (List.mem_cons_of_mem _ hx) x' (List.mem_cons_of_mem _ hx')]

/-- The digits are read as the id. -/
theorem parseHex_hubDigits (id : BitVec 64) : parseHex 64 (hubDigits id) = some id.toNat := by
  -- the sixteen nibbles are the base-16 digits of the identifier
  have hvalue : Nat.ofDigits 16 (nibbles id).reverse = id.toNat := by
    have hslices := packed_slices id.toNat 4 16
    rw [nibbles, List.reverse_reverse]
    rw [Nat.mod_eq_of_lt id.isLt] at hslices
    exact hslices
  have hne : nibbles id ≠ [] := by
    intro hnil
    have hlength := length_hubDigits id
    rw [hubDigits, hnil] at hlength
    cases hlength
  have hfits : Nat.ofDigits 16 (nibbles id).reverse ≤ wordMax 64 := by
    have hlt := id.isLt
    rw [hvalue, wordMax]
    omega
  rw [hubDigits, parseHex_map (fun d hd => hexValue_lowerHexDigit hd) (nibbles_lt id) hne hfits,
    hvalue]

/-- A nibble is a slice of the id. -/
theorem toNat_nibbleAt (id : BitVec 64) (i : Nat) :
    (nibbleAt id (4 * i)).toNat = slice id.toNat (4 * i) 4 := by
  have hmask : (0xF : BitVec 64).toNat = 2 ^ 4 - 1 := rfl
  have hlt := slice_lt id.toNat (4 * i) 4
  rw [nibbleAt, BitVec.toNat_setWidth, BitVec.toNat_and, BitVec.toNat_ushiftRight, hmask,
    Nat.and_two_pow_sub_one_eq_mod, Nat.shiftRight_eq_div_pow]
  exact Nat.mod_eq_of_lt (by rw [← slice]; omega)

/-- Both builders know the digit of a nibble. -/
theorem digit_of_nibble {digit : Byte} {n : Nat} (hn : digit.toNat = n) (h : n < 16) :
    (hexCharacter digit).setWidth 16 = wide (lowerHexDigit n) ∧
      (Kmdf.hexSymbol digit).setWidth 16 = wide (lowerHexDigit n) := by
  have hall : ∀ n : Fin 16, (hexCharacter (BitVec.ofNat 8 n)).setWidth 16 = wide (lowerHexDigit n) ∧
      (Kmdf.hexSymbol (BitVec.ofNat 8 n)).setWidth 16 = wide (lowerHexDigit n) := by
    decide
  have hdigit : digit = BitVec.ofNat 8 n := by
    rw [← hn, BitVec.ofNat_toNat, BitVec.setWidth_eq]
  rw [hdigit]
  exact hall ⟨n, h⟩

/-! ### The shared crate -/

namespace HubPath

/-- The buffer holds these characters, and no others were dropped. -/
structure Holds (path : HubPath) (l : List WideChar) : Prop where
  length : path.chars.length = hubPathChars
  len : path.len = l.length
  characters : path.characters = l

variable {path : HubPath} {l : List WideChar}

/-- The empty path holds no characters. -/
theorem holds_empty : Holds empty [] where
  length := List.length_replicate
  len := rfl
  characters := rfl

/-- A character that fits goes behind the others. -/
theorem Holds.pushChar (h : Holds path l) (hroom : l.length < hubPathChars) (character : WideChar) :
    Holds (path.pushChar character) (l ++ [character]) := by
  -- there is room, so the character is stored
  have hlen : path.len < path.chars.length := by
    rw [h.len, h.length]
    exact hroom
  -- and the length does not saturate
  have hsat : satAdd 64 path.len 1 = path.len + 1 := by
    rw [h.length, hubPathChars] at hlen
    simp only [satAdd, wordMax]
    omega
  rw [HubPath.pushChar, if_pos hlen]
  exact {
    length := by rw [List.length_set, h.length]
    len := by rw [hsat, List.length_append, h.len, List.length_singleton]
    characters := by
      have htake : path.chars.take path.len = l := h.characters
      rw [HubPath.characters, hsat, List.set_eq_take_append_cons_drop, if_pos hlen, htake, h.len,
        List.take_append, List.take_of_length_le (Nat.le_succ _), Nat.add_sub_cancel_left]
      rfl }

/-- Pushing bytes that fit appends them to what the path holds, by induction on the bytes. -/
theorem Holds.pushAll (h : Holds path l) (bytes : List Byte)
    (hroom : l.length + bytes.length ≤ hubPathChars) :
    Holds (bytes.foldl (fun path byte => path.pushChar (byte.setWidth 16)) path)
      (l ++ bytes.map fun byte => byte.setWidth 16) := by
  induction bytes generalizing path l with
  | nil =>
      rw [List.map_nil, List.append_nil]
      exact h
  | cons byte rest ih =>
      rw [List.length_cons] at hroom
      have hfirst := h.pushChar (by omega) (byte.setWidth 16)
      have hrest := ih hfirst (by rw [List.length_append, List.length_singleton]; omega)
      rw [List.append_assoc] at hrest
      exact hrest

end HubPath

/-- The digits of the lowest nibbles, the highest first. -/
theorem holds_pushNibbles (id : BitVec 64) (n : Nat) : ∀ {path : HubPath} {l : List WideChar},
    path.Holds l → n ≤ 16 → l.length + n ≤ hubPathChars →
    (pushNibbles id n path).Holds (l ++
      ((List.range n).map fun i => wide (lowerHexDigit (slice id.toNat (4 * i) 4))).reverse) := by
  -- induction on the nibbles left, the highest first
  induction n with
  | zero =>
      intro path l h _ _
      rw [List.range_zero, List.map_nil, List.reverse_nil, List.append_nil]
      exact h
  | succ n ih =>
      intro path l h hnibbles hroom
      have hshift : satMul 32 n 4 = 4 * n := by
        simp only [satMul, wordMax]
        omega
      have hdigit : (hexCharacter (nibbleAt id (4 * n))).setWidth 16 =
          wide (lowerHexDigit (slice id.toNat (4 * n) 4)) :=
        (digit_of_nibble (toNat_nibbleAt id n) (slice_lt _ _ _)).1
      have hfirst := h.pushChar (by omega)
        (wide (lowerHexDigit (slice id.toNat (4 * n) 4)))
      have hrest := ih hfirst (by omega) (by rw [List.length_append, List.length_singleton]; omega)
      rw [List.append_assoc] at hrest
      simp only [pushNibbles, hshift, hdigit]
      rw [List.range_succ, List.map_append, List.reverse_append]
      exact hrest

/-- The prefix of the driver is the common one, widened. -/
theorem wide_hubPrefix : hubPathPrefix.map (fun byte => byte.setWidth 16) = hubPrefix.map wide := by
  decide

/-- The path of the shared crate: nothing of it was dropped. -/
theorem holds_resourceHubPath (id : BitVec 64) :
    (resourceHubPath id).Holds ((hubPrefix ++ hubDigits id).map wide) := by
  have hpushed := HubPath.holds_empty.pushAll hubPathPrefix (by decide)
  rw [List.nil_append, wide_hubPrefix] at hpushed
  have hpath := holds_pushNibbles id 16 hpushed (by decide) (by decide)
  have hdigits : (hubDigits id).map wide =
      ((List.range 16).map fun i => wide (lowerHexDigit (slice id.toNat (4 * i) 4))).reverse := by
    rw [hubDigits, nibbles, List.map_map, List.map_reverse, List.map_map]
    rfl
  rw [List.map_append, hdigits]
  exact hpath

/-! ### The driver -/

/-- The slots that are there take the characters. -/
theorem writeSlots_eq {characters : List WideChar} {chars : List WideChar} {index : Nat}
    (h : index + characters.length ≤ chars.length) :
    Kmdf.writeSlots chars index characters =
      chars.take index ++ characters ++ chars.drop (index + characters.length) := by
  -- induction on the characters: each takes its slot, and the others follow
  induction characters generalizing chars index with
  | nil =>
      rw [Kmdf.writeSlots, List.length_nil, Nat.add_zero, List.append_nil, List.take_append_drop]
  | cons character rest ih =>
      rw [List.length_cons] at h ⊢
      have hlength : (chars.set index character).length = chars.length := List.length_set
      have htake : (chars.set index character).take (index + 1) =
          chars.take index ++ [character] := by
        rw [List.set_eq_take_append_cons_drop, if_pos (by omega), List.take_append,
          List.take_take, List.length_take, Nat.min_eq_right (by omega),
          Nat.min_eq_left (by omega), Nat.add_sub_cancel_left]
        rfl
      have hdrop : (chars.set index character).drop (index + 1 + rest.length) =
          chars.drop (index + (rest.length + 1)) := by
        rw [List.drop_set_of_lt (by omega), Nat.add_assoc, Nat.add_comm 1]
      rw [Kmdf.writeSlots, ih (by omega), htake, hdrop, List.append_assoc, List.append_assoc,
        List.append_assoc]
      rfl

/-- The other implementation's prefix, slashes turned, is the common one, widened. -/
theorem wide_resourceHubPrefix : (Kmdf.resourceHubPrefix.map fun byte =>
    if byte = 0x2F then (0x5C : WideChar) else byte.setWidth 16) = hubPrefix.map wide := by
  decide

/-- The driver writes the nibbles by their position. -/
theorem symbols_eq (id : BitVec 64) : ((List.range 16).map fun position =>
    (Kmdf.hexSymbol (nibbleAt id (60 - satMul 32 position 4))).setWidth 16) =
      (hubDigits id).map wide := by
  apply List.ext_getElem
  · rw [List.length_map, List.length_map, List.length_range, length_hubDigits]
  · intro position h _
    rw [List.length_map, List.length_range] at h
    have hshift : 60 - satMul 32 position 4 = 4 * (15 - position) := by
      simp only [satMul, wordMax]
      omega
    have hplace : 16 - 1 - position = 15 - position := rfl
    simp only [hubDigits, nibbles, List.getElem_map, List.getElem_reverse, List.getElem_range,
      List.length_map, List.length_range, hshift, hplace]
    exact (digit_of_nibble (toNat_nibbleAt id _) (slice_lt _ _ _)).2

/-- The path of the driver. -/
theorem resourceHubPath_eq (id : BitVec 64) :
    Kmdf.resourceHubPath id = (hubPrefix ++ hubDigits id).map wide := by
  have hprefix : (hubPrefix.map wide).length = Kmdf.resourceHubPrefix.length := by decide
  have hdigits : ((hubDigits id).map wide).length = 16 := by
    rw [List.length_map, length_hubDigits]
  have hfirst : Kmdf.writeSlots (List.replicate (Kmdf.resourceHubPrefix.length + 16) 0) 0
      (hubPrefix.map wide) = hubPrefix.map wide ++ List.replicate 16 0 := by
    rw [writeSlots_eq (by rw [List.length_replicate, hprefix]; omega), List.take_zero,
      List.nil_append, Nat.zero_add, hprefix, List.drop_replicate, Nat.add_sub_cancel_left]
  simp only [Kmdf.resourceHubPath, symbols_eq, wide_resourceHubPrefix, hfirst]
  rw [writeSlots_eq, hdigits, ← hprefix, List.take_left, List.drop_eq_nil_of_le, List.append_nil,
    List.map_append]
  · rw [List.length_append, List.length_replicate]
  · rw [List.length_append, List.length_replicate, hprefix, hdigits]

/-- A path is the prefix and sixteen lower-case digits, which are read as the id, whatever it is.
It fits into its buffer, the driver writes the same characters, and no other id has it. -/
theorem hub_path (id : BitVec 64) :
    ∃ digits : Text, digits.length = 16 ∧ (∀ c ∈ digits, c ∈ "0123456789abcdef".toList) ∧
      parseHex 64 digits = some id.toNat ∧
      (resourceHubPath id).characters = ("\\Device\\RESOURCE_HUB\\".toList ++ digits).map wide ∧
      (resourceHubPath id).len ≤ hubPathChars ∧
      Kmdf.resourceHubPath id = (resourceHubPath id).characters ∧
      ∀ other, (resourceHubPath other).characters = (resourceHubPath id).characters →
        other = id := by
  have hcharacters : ∀ id, (resourceHubPath id).characters = (hubPrefix ++ hubDigits id).map wide :=
    fun id => (holds_resourceHubPath id).characters
  have hlen : (resourceHubPath id).len = 37 := by
    rw [(holds_resourceHubPath id).len, List.length_map, List.length_append, length_hubDigits]
    decide
  refine ⟨hubDigits id, length_hubDigits id, fun c hc => mem_hubDigits hc, parseHex_hubDigits id,
    hcharacters id, ?_, ?_, ?_⟩
  · rw [hlen]
    decide
  · rw [hcharacters, resourceHubPath_eq]
  · intro other hsame
    rw [hcharacters, hcharacters, List.map_append, List.map_append, List.append_cancel_left_eq]
      at hsame
    -- the wide digits are the digits, and these are read as the id
    have hdigits := map_wide_inj (fun c hc => mem_hubDigits hc) (fun c hc => mem_hubDigits hc) hsame
    have hread := parseHex_hubDigits other
    rw [hdigits, parseHex_hubDigits] at hread
    exact (BitVec.eq_of_toNat_eq (Option.some.inj hread)).symm

end Wdf
