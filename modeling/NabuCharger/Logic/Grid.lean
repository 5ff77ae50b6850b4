import Mathlib.Algebra.Order.Floor.Div
import Mathlib.Order.Monotone.Basic

/-!
# `Logic.Grid`: grids of codes

A register holds a code and the device reads a value off it, in equal steps: code `c` stands
for `origin + c * step`. A `Grid` says which codes are in use.

There are two ways to a code. `quantize` rounds a value down and `raise` rounds it up. Each is
one half of an adjunction with `value`: `le_quantize_iff` and `raise_le_iff` compare codes
exactly where the values compare. The laws of rounding follow from them alone.

`RoundsDown` is what a pair of an encoder and a decoder promises when it rounds down. The
encoder is a relation, so that one that rejects some values fits as well.
`Grid.roundsDown` gives it for every encoder that computes `quantize`.
-/

set_option autoImplicit false

namespace Effectful

/-- Equal steps from an origin, of which the codes from `first` to `last` are in use. -/
structure Grid where
  origin : Nat
  step : Nat
  first : Nat
  last : Nat
  step_pos : 0 < step
  first_le_last : first ≤ last

namespace Grid

variable (g : Grid)

/-- What a code stands for. -/
def value (code : Nat) : Nat := g.origin + code * g.step

/-- The lowest value in use. -/
def bottom : Nat := g.value g.first

/-- The highest value in use. -/
def top : Nat := g.value g.last

/-- The code of a value, rounded down. -/
def quantize (x : Nat) : Nat := max g.first (min g.last ((x - g.origin) / g.step))

/-- The code of a value, rounded up. -/
def raise (x : Nat) : Nat := max g.first (min g.last ((x - g.origin) ⌈/⌉ g.step))

/-- The code is in use. -/
def Valid (code : Nat) : Prop := g.first ≤ code ∧ code ≤ g.last

/-- A higher code stands for a higher value. -/
theorem value_strictMono : StrictMono g.value := by
  intro a b hlt
  have hmul := Nat.mul_lt_mul_of_pos_right hlt g.step_pos
  simp only [value]
  omega

/-- The next code stands for one step more. -/
theorem value_succ (code : Nat) : g.value (code + 1) = g.value code + g.step := by
  rw [value, value, Nat.succ_mul, Nat.add_assoc]

/-- The lowest value is not above the highest. -/
theorem bottom_le_top : g.bottom ≤ g.top := g.value_strictMono.monotone g.first_le_last

/-- Rounding down gives a code of the grid. -/
theorem quantize_valid (x : Nat) : g.Valid (g.quantize x) := by
  have hends := g.first_le_last
  simp only [Valid, quantize]
  omega

/-- Rounding up gives a code of the grid. -/
theorem raise_valid (x : Nat) : g.Valid (g.raise x) := by
  have hends := g.first_le_last
  simp only [Valid, raise]
  omega

/-! ### Rounding down -/

section
variable {g}

/-- Above the first code, a code is reached exactly when its value is. -/
theorem le_quantize_iff {code x : Nat} (hfirst : g.first < code) (hlast : code ≤ g.last) :
    code ≤ g.quantize x ↔ g.value code ≤ x := by
  have hdiv : code ≤ (x - g.origin) / g.step ↔ code * g.step ≤ x - g.origin :=
    Nat.le_div_iff_mul_le g.step_pos
  have hpos : 0 < code * g.step := Nat.mul_pos (by omega) g.step_pos
  simp only [quantize, value]
  omega

/-- Rounding down does not go up. -/
theorem value_quantize_le {x : Nat} (hx : g.bottom ≤ x) : g.value (g.quantize x) ≤ x := by
  obtain ⟨hfirst, hlast⟩ := g.quantize_valid x
  rcases Nat.eq_or_lt_of_le hfirst with heq | hlt
  · rw [← heq]
    exact hx
  · exact (le_quantize_iff hlt hlast).1 (Nat.le_refl _)

/-- It loses less than a step. -/
theorem lt_value_quantize {x : Nat} (hx : x < g.top + g.step) :
    x < g.value (g.quantize x) + g.step := by
  obtain ⟨hfirst, hlast⟩ := g.quantize_valid x
  rcases Nat.eq_or_lt_of_le hlast with heq | hlt
  · rw [heq]
    exact hx
  · -- otherwise the next code would have been reached
    rw [← value_succ]
    by_contra hreached
    have hnext := (le_quantize_iff (Nat.lt_succ_of_le hfirst) hlt).2 (Nat.le_of_not_lt hreached)
    exact absurd hnext (Nat.not_succ_le_self _)

/-- Rounding down keeps the order. -/
theorem quantize_mono : Monotone g.quantize := by
  intro x y hle
  have hdiv := Nat.div_le_div_right (c := g.step) (Nat.sub_le_sub_right hle g.origin)
  simp only [quantize]
  omega

/-- A value of the grid has its own code. -/
theorem quantize_value {code : Nat} (hcode : g.Valid code) : g.quantize (g.value code) = code := by
  obtain ⟨hfirst, hlast⟩ := hcode
  rw [quantize, value, Nat.add_sub_cancel_left, Nat.mul_div_cancel _ g.step_pos,
    Nat.min_eq_right hlast, Nat.max_eq_right hfirst]

/-- From the top on, it gives the last code. -/
theorem quantize_of_top_le {x : Nat} (hx : g.top ≤ x) : g.quantize x = g.last := by
  obtain ⟨-, hlast⟩ := g.quantize_valid x
  have htop : g.quantize g.top = g.last := quantize_value ⟨g.first_le_last, Nat.le_refl _⟩
  have hmono := g.quantize_mono hx
  omega

/-- Up to the bottom, it gives the first code. -/
theorem quantize_of_le_bottom {x : Nat} (hx : x ≤ g.bottom) : g.quantize x = g.first := by
  obtain ⟨hfirst, -⟩ := g.quantize_valid x
  have hbottom : g.quantize g.bottom = g.first := quantize_value ⟨Nat.le_refl _, g.first_le_last⟩
  have hmono := g.quantize_mono hx
  omega

/-! ### Rounding up -/

/-- Below the last code, a code is enough exactly when its value is. -/
theorem raise_le_iff {code x : Nat} (hfirst : g.first ≤ code) (hlast : code < g.last) :
    g.raise x ≤ code ↔ x ≤ g.value code := by
  have hdiv : (x - g.origin) ⌈/⌉ g.step ≤ code ↔ x - g.origin ≤ g.step * code :=
    ceilDiv_le_iff_le_mul g.step_pos
  rw [Nat.mul_comm] at hdiv
  simp only [raise, value]
  omega

/-- Rounding up does not go down. -/
theorem le_value_raise {x : Nat} (hx : x ≤ g.top) : x ≤ g.value (g.raise x) := by
  obtain ⟨hfirst, hlast⟩ := g.raise_valid x
  rcases Nat.eq_or_lt_of_le hlast with heq | hlt
  · rw [heq]
    exact hx
  · exact (raise_le_iff hfirst hlt).1 (Nat.le_refl _)

/-- It adds less than a step. -/
theorem value_raise_lt {x : Nat} (hx : g.bottom ≤ x) : g.value (g.raise x) < x + g.step := by
  have hstep := g.step_pos
  obtain ⟨hfirst, hlast⟩ := g.raise_valid x
  rcases Nat.eq_or_lt_of_le hfirst with heq | hlt
  · rw [← heq]
    exact Nat.lt_of_le_of_lt hx (by omega)
  · -- otherwise the code before it would have been enough
    obtain ⟨code, hcode⟩ := Nat.exists_eq_succ_of_ne_zero (Nat.ne_zero_of_lt hlt)
    rw [hcode, value_succ]
    have hbefore : ¬g.raise x ≤ code := by omega
    rw [raise_le_iff (by omega) (by omega)] at hbefore
    omega

end

end Grid

/-! ### Encoders -/

/-- An encoder and a decoder that round down: `Encodes x code` when the request `x` becomes
`code`. -/
structure RoundsDown {Code : Type} (bottom top step : Nat) (Encodes : Nat → Code → Prop)
    (decode : Code → Nat) (Valid : Code → Prop) : Prop where
  le_request : ∀ {x code}, bottom ≤ x → Encodes x code → decode code ≤ x
  request_lt : ∀ {x code}, x ≤ top → Encodes x code → x < decode code + step
  of_le_bottom : ∀ {x code}, x ≤ bottom → Encodes x code → decode code = bottom
  of_top_le : ∀ {x code}, top ≤ x → Encodes x code → decode code = top
  mono : ∀ {x y code code'}, x ≤ y → Encodes x code → Encodes y code' → decode code ≤ decode code'
  encodes_decode : ∀ {code}, Valid code → Encodes (decode code) code

namespace Grid

/-- An encoder that computes `quantize` rounds down, and so does its decoder. -/
theorem roundsDown (g : Grid) {Code : Type} {Encodes : Nat → Code → Prop}
    {decode : Code → Nat} {Valid : Code → Prop}
    (hencodes : ∀ {x code}, Encodes x code → decode code = g.value (g.quantize x))
    (hvalid : ∀ {code}, Valid code → Encodes (decode code) code) :
    RoundsDown g.bottom g.top g.step Encodes decode Valid where
  le_request := by
    intro x code hx hcode
    rw [hencodes hcode]
    -- round down, less than a step, monotone: each field is a law of the quantizer
    exact value_quantize_le hx
  request_lt := by
    intro x code hx hcode
    have hstep := g.step_pos
    rw [hencodes hcode]
    exact lt_value_quantize (by omega)
  of_le_bottom := by
    intro x code hx hcode
    rw [hencodes hcode, quantize_of_le_bottom hx, bottom]
  of_top_le := by
    intro x code hx hcode
    rw [hencodes hcode, quantize_of_top_le hx, top]
  mono := by
    intro x y code code' hle hcode hcode'
    rw [hencodes hcode, hencodes hcode']
    exact g.value_strictMono.monotone (quantize_mono hle)
  encodes_decode := hvalid

end Grid

end Effectful
