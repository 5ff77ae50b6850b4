import Mathlib.Data.List.DropRight
import Mathlib.Data.Nat.Digits.Lemmas
import NabuCharger.Logic.Word

/-!
# `Logic.Text`: lines of words, and hexadecimal numbers

A line protocol writes words with blanks between them (`unwords`) and ends the line. The reader
trims the line and takes it apart, at the blanks (`List.splitOn`) or at any white space
(`splitWhitespace`). Either way it gets the words back (`trim_unwords_line`, `splitOn_unwords`,
`splitWhitespace_unwords`), for as long as they are words (`IsWord`).

Numbers are hexadecimal, padded with zeros to a width (`formatHex`). A word of that kind is read
back as the number it was written for (`parseHex_formatHex`). The parser is that of an unsigned
integer of `w` bits: it takes either case and a leading plus, and refuses what does not fit.
-/

set_option autoImplicit false

namespace Effectful

/-- A text, character by character. -/
abbrev Text : Type := List Char

/-! ### Lines and words -/

/-- White space as Unicode has it. -/
def isSpace (c : Char) : Bool :=
  let n := c.toNat
  (0x09 ≤ n ∧ n ≤ 0x0D) ∨ n = 0x20 ∨ n = 0x85 ∨ n = 0xA0 ∨ n = 0x1680 ∨
    (0x2000 ≤ n ∧ n ≤ 0x200A) ∨ n = 0x2028 ∨ n = 0x2029 ∨ n = 0x202F ∨ n = 0x205F ∨ n = 0x3000

/-- The text without the white space at its ends. -/
def trim (text : Text) : Text := (text.dropWhile isSpace).rdropWhile isSpace

/-- The words of a text. -/
def splitWhitespace (text : Text) : List Text :=
  (text.splitOnP isSpace).filter fun word => !word.isEmpty

/-- The words with a blank between them. -/
def unwords (words : List Text) : Text := [' '].intercalate words

/-- A word is not empty and has no white space. -/
structure IsWord (word : Text) : Prop where
  nonempty : word ≠ []
  solid : ∀ c ∈ word, isSpace c = false

/-- A word is not empty and has no space. -/
theorem IsWord.of_all {word : Text} (hne : word.isEmpty = false)
    (hall : word.all (fun c => !isSpace c) = true) : IsWord word where
  nonempty := List.isEmpty_eq_false_iff.1 hne
  solid c hc := Bool.not_eq_eq_eq_not.1 (List.all_eq_true.1 hall c hc)

/-- One word stands alone. -/
@[simp] theorem unwords_singleton (word : Text) : unwords [word] = word :=
  List.intercalate_singleton

/-- Between two words stands a blank. -/
theorem unwords_cons_cons (word next : Text) (rest : List Text) :
    unwords (word :: next :: rest) = word ++ ' ' :: unwords (next :: rest) := by
  rw [unwords, List.intercalate_cons_cons, List.append_assoc]
  rfl

/-- There is no blank in a word. -/
theorem IsWord.no_blank {word : Text} (h : IsWord word) : ' ' ∉ word := fun hmem =>
  absurd (h.solid ' ' hmem) (by decide)

section words

variable {words : List Text}

/-- A line of words starts with one. -/
theorem dropWhile_unwords (h : ∀ word ∈ words, IsWord word) (rest : Text) :
    words ≠ [] → (unwords words ++ rest).dropWhile isSpace = unwords words ++ rest := by
  cases words with
  | nil => exact fun hne => absurd rfl hne
  | cons word others =>
      intro _
      obtain ⟨c, cs, rfl⟩ := List.exists_cons_of_ne_nil (h word List.mem_cons_self).nonempty
      have hc : isSpace c = false := (h _ List.mem_cons_self).solid c List.mem_cons_self
      -- the text starts with the first letter of its first word
      have hhead : ∃ tail, unwords ((c :: cs) :: others) = c :: tail := by
        cases others with
        | nil => exact ⟨cs, unwords_singleton _⟩
        | cons next others => exact ⟨_, unwords_cons_cons _ _ _⟩
      obtain ⟨tail, htail⟩ := hhead
      rw [htail, List.cons_append, List.dropWhile_cons, hc]
      rfl

/-- It ends with one. -/
theorem rdropWhile_unwords (h : ∀ word ∈ words, IsWord word) :
    (unwords words).rdropWhile isSpace = unwords words := by
  -- the last character is the last of the last word, reached by induction
  induction words with
  | nil => rfl
  | cons word others ih =>
      cases others with
      | nil =>
          rw [unwords_singleton, List.rdropWhile_eq_self_iff]
          intro hne
          rw [(h word List.mem_cons_self).solid _ (List.getLast_mem hne)]
          exact Bool.false_ne_true
      | cons next others =>
          have hrest := ih fun w hw => h w (List.mem_cons_of_mem _ hw)
          rw [List.rdropWhile_eq_self_iff] at hrest ⊢
          have hne : unwords (next :: others) ≠ [] := by
            obtain ⟨c, cs, hword⟩ := List.exists_cons_of_ne_nil
              (h next (List.mem_cons_of_mem _ List.mem_cons_self)).nonempty
            cases others with
            | nil => rw [unwords_singleton, hword]; exact List.cons_ne_nil _ _
            | cons => rw [unwords_cons_cons, hword]; exact List.cons_ne_nil _ _
          rw [unwords_cons_cons]
          intro _
          have hlast := hrest hne
          rwa [List.getLast_append_of_ne_nil _ (List.cons_ne_nil _ _), List.getLast_cons hne]

/-- The trimmed line is the words. -/
theorem trim_unwords_line (h : ∀ word ∈ words, IsWord word) :
    trim (unwords words ++ ['\n']) = unwords words := by
  have hnewline : isSpace '\n' = true := by decide
  by_cases hne : words = []
  · subst hne
    decide
  · rw [trim, dropWhile_unwords h ['\n'] hne, List.rdropWhile_concat_pos _ _ _ hnewline,
      rdropWhile_unwords h]

/-- Taken apart at the blanks. -/
theorem splitOn_unwords (h : ∀ word ∈ words, IsWord word) (hne : words ≠ []) :
    (unwords words).splitOn ' ' = words :=
  List.splitOn_intercalate ' ' (fun word hword => (h word hword).no_blank) hne

/-- Taken apart at white space. -/
theorem splitWhitespace_unwords (h : ∀ word ∈ words, IsWord word) :
    splitWhitespace (unwords words) = words := by
  -- the blanks between the words are the only ones, by induction on the words
  have hsplit : words ≠ [] → (unwords words).splitOnP isSpace = words := by
    induction words with
    | nil => exact fun hne => absurd rfl hne
    | cons word others ih =>
        intro _
        have hword := (h word List.mem_cons_self).solid
        cases others with
        | nil => rw [unwords_singleton, List.splitOnP_eq_singleton hword]
        | cons next others =>
            rw [unwords_cons_cons, List.splitOnP_append_cons_of_forall_mem hword ' ' (by decide),
              ih (fun w hw => h w (List.mem_cons_of_mem _ hw)) (List.cons_ne_nil _ _)]
  by_cases hne : words = []
  · subst hne
    rfl
  · rw [splitWhitespace, hsplit hne, List.filter_eq_self]
    intro word hword
    have hempty : word.isEmpty = false := by
      rw [List.isEmpty_eq_false_iff]
      exact (h word hword).nonempty
    rw [hempty]
    rfl

end words

/-! ### What is left of a text -/

/-- Trimming adds nothing. -/
theorem mem_of_mem_trim {c : Char} {text : Text} (h : c ∈ trim text) : c ∈ text :=
  (List.dropWhile_sublist isSpace).subset ((List.rdropWhile_prefix isSpace _).subset h)

/-- Nor does taking a text apart. -/
theorem mem_of_mem_splitOn {c sep : Char} {text piece : Text} (hpiece : piece ∈ text.splitOn sep)
    (h : c ∈ piece) : c ∈ text := by
  -- joining the pieces with the separator gives the text back
  have hjoined : ∀ pieces : List Text, piece ∈ pieces → c ∈ [sep].intercalate pieces := by
    intro pieces
    induction pieces with
    | nil => exact fun hmem => absurd hmem List.not_mem_nil
    | cons first others ih =>
        intro hmem
        cases others with
        | nil =>
            rw [List.intercalate_singleton, ← List.mem_singleton.1 hmem]
            exact h
        | cons next others =>
            rw [List.intercalate_cons_cons, List.append_assoc, List.mem_append, List.mem_append]
            obtain rfl | hmem := List.mem_cons.1 hmem
            · exact .inl h
            · exact .inr (.inr (ih hmem))
  have hmem := hjoined _ hpiece
  rwa [List.intercalate_splitOn] at hmem

/-! ### Hexadecimal numbers -/

/-- The digit of a value below 16. -/
def hexDigit (n : Nat) : Char := "0123456789ABCDEF".toList.getD n '0'

/-- The digit of a value below 16, in lower case. -/
def lowerHexDigit (n : Nat) : Char := "0123456789abcdef".toList.getD n '0'

/-- The value of a digit of either case. -/
def hexValue (c : Char) : Option Nat :=
  if '0' ≤ c ∧ c ≤ '9' then some (c.toNat - '0'.toNat)
  else if 'a' ≤ c ∧ c ≤ 'f' then some (c.toNat - 'a'.toNat + 10)
  else if 'A' ≤ c ∧ c ≤ 'F' then some (c.toNat - 'A'.toNat + 10)
  else none

/-- The hexadecimal digits of a number, with zeros in front up to `width`. -/
def formatHex (width n : Nat) : Text :=
  (List.leftpad width 0 (Nat.digits 16 n).reverse).map hexDigit

/-- The digits behind a number read so far. -/
def parseDigits (w : Nat) : Nat → Text → Option Nat
  | acc, [] => some acc
  | acc, c :: rest => do
      let digit ← hexValue c
      let acc := acc * 16 + digit
      if acc ≤ wordMax w then parseDigits w acc rest else none

/-- A hexadecimal number as an unsigned integer of `w` bits. -/
def parseHex (w : Nat) : Text → Option Nat
  | [] => none
  | ['+'] => none
  | '+' :: c :: rest => parseDigits w 0 (c :: rest)
  | text => parseDigits w 0 text

/-- A digit is read back. -/
theorem hexValue_hexDigit {n : Nat} (h : n < 16) : hexValue (hexDigit n) = some n := by
  have hall : ∀ n : Fin 16, hexValue (hexDigit n) = some n.val := by decide
  exact hall ⟨n, h⟩

/-- So is a lower case digit. -/
theorem hexValue_lowerHexDigit {n : Nat} (h : n < 16) : hexValue (lowerHexDigit n) = some n := by
  have hall : ∀ n : Fin 16, hexValue (lowerHexDigit n) = some n.val := by decide
  exact hall ⟨n, h⟩

/-- A digit is not a space. -/
theorem hexDigit_solid {n : Nat} (h : n < 16) : isSpace (hexDigit n) = false := by
  have hall : ∀ n : Fin 16, isSpace (hexDigit n) = false := by decide
  exact hall ⟨n, h⟩

/-- Every character is a digit. -/
theorem mem_formatHex {width n : Nat} {c : Char} (h : c ∈ formatHex width n) :
    ∃ digit < 16, c = hexDigit digit := by
  obtain ⟨digit, hdigit, rfl⟩ := List.mem_map.1 h
  refine ⟨digit, ?_, rfl⟩
  rw [List.leftpad, List.mem_append] at hdigit
  obtain hzero | hmem := hdigit
  · rw [List.eq_of_mem_replicate hzero]
    decide
  · exact Nat.digits_lt_base (by decide) (List.mem_reverse.1 hmem)

/-- A number has digits. -/
theorem formatHex_ne_nil {width : Nat} (hwidth : 0 < width) (n : Nat) : formatHex width n ≠ [] := by
  intro hnil
  have hlength := congrArg List.length hnil
  rw [formatHex, List.length_map, List.length_leftpad, List.length_nil] at hlength
  omega

/-- Its digits are a word. -/
theorem isWord_formatHex {width : Nat} (hwidth : 0 < width) (n : Nat) :
    IsWord (formatHex width n) where
  nonempty := formatHex_ne_nil hwidth n
  solid c hc := by
    obtain ⟨digit, hdigit, rfl⟩ := mem_formatHex hc
    exact hexDigit_solid hdigit

section
variable {w : Nat} {render : Nat → Char} {digits : List Nat}

/-- Digits behind a number are its value in the next places, in whatever case they are written. -/
theorem parseDigits_map (hrender : ∀ d < 16, hexValue (render d) = some d)
    (hdigits : ∀ d ∈ digits, d < 16) :
    ∀ acc : Nat, acc * 16 ^ digits.length + Nat.ofDigits 16 digits.reverse ≤ wordMax w →
      parseDigits w acc (digits.map render) =
        some (acc * 16 ^ digits.length + Nat.ofDigits 16 digits.reverse) := by
  induction digits with
  | nil =>
      intro acc _
      simp [parseDigits]
  | cons d rest ih =>
      intro acc hfits
      have hplaces : acc * 16 ^ (d :: rest).length + Nat.ofDigits 16 (d :: rest).reverse =
          (acc * 16 + d) * 16 ^ rest.length + Nat.ofDigits 16 rest.reverse := by
        rw [List.reverse_cons, Nat.ofDigits_append, List.length_reverse, Nat.ofDigits_singleton,
          List.length_cons, Nat.pow_succ]
        ring
      rw [hplaces] at hfits ⊢
      -- the number read so far is no larger than the whole
      have hstep : acc * 16 + d ≤ wordMax w := by
        have hpos : 0 < 16 ^ rest.length := Nat.pow_pos (by decide)
        have hle := Nat.le_mul_of_pos_right (acc * 16 + d) hpos
        omega
      rw [List.map_cons, parseDigits, hrender d (hdigits d List.mem_cons_self)]
      simp only [Option.bind_eq_bind, Option.bind_some, if_pos hstep]
      exact ih (fun x hx => hdigits x (List.mem_cons_of_mem _ hx)) _ hfits

/-- Digits are read as the number they are the digits of. -/
theorem parseHex_map (hrender : ∀ d < 16, hexValue (render d) = some d)
    (hdigits : ∀ d ∈ digits, d < 16) (hne : digits ≠ [])
    (hfits : Nat.ofDigits 16 digits.reverse ≤ wordMax w) :
    parseHex w (digits.map render) = some (Nat.ofDigits 16 digits.reverse) := by
  have hread := parseDigits_map hrender hdigits 0 (w := w)
  rw [Nat.zero_mul, Nat.zero_add] at hread
  have hread := hread hfits
  obtain ⟨d, rest, rfl⟩ := List.exists_cons_of_ne_nil hne
  -- a digit is no sign, so the number starts with the first letter
  have hplus : render d ≠ '+' := by
    intro heq
    have hvalue := hrender d (hdigits d List.mem_cons_self)
    rw [heq] at hvalue
    cases hvalue
  rw [List.map_cons] at hread ⊢
  rw [parseHex]
  · exact hread
  · exact List.cons_ne_nil _ _
  · exact fun heq => hplus (List.cons.inj heq).1
  · exact fun _ _ heq => hplus (List.cons.inj heq).1

end

/-- A number is read back as itself. -/
theorem parseHex_formatHex {w width n : Nat} (hwidth : 0 < width) (hn : n ≤ wordMax w) :
    parseHex w (formatHex width n) = some n := by
  have hdigits : ∀ d ∈ List.leftpad width 0 (Nat.digits 16 n).reverse, d < 16 := by
    intro d hd
    rw [List.leftpad, List.mem_append] at hd
    obtain hzero | hmem := hd
    · rw [List.eq_of_mem_replicate hzero]
      decide
    · exact Nat.digits_lt_base (by decide) (List.mem_reverse.1 hmem)
  -- the padding zeros add nothing to the value
  have hvalue : Nat.ofDigits 16 (List.leftpad width 0 (Nat.digits 16 n).reverse).reverse = n := by
    rw [List.leftpad, List.reverse_append, List.reverse_reverse, List.reverse_replicate,
      Nat.ofDigits_append_replicate_zero, Nat.ofDigits_digits]
  have hne : List.leftpad width 0 (Nat.digits 16 n).reverse ≠ [] := by
    intro hnil
    have hlength := congrArg List.length hnil
    rw [List.length_leftpad, List.length_nil] at hlength
    omega
  have hread := parseHex_map (w := w) (fun d hd => hexValue_hexDigit hd) hdigits hne
  rw [hvalue] at hread
  exact hread hn

end Effectful
