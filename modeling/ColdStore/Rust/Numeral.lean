import ColdStore.Rust.Text

/-! Decimal numerals, with leading zeros or without, and the numbers they are parsed as. -/

namespace Rust

/-- A text of decimal digits that stands for a number of the given width. -/
structure Numeral (bits : Nat) where
  text : String
  filled : text ≠ ""
  digits : ∀ c ∈ text.toList, c.isDigit = true
  small : Nat.ofDigitChars 10 text.toList 0 < 2 ^ bits

/-- Reading digits goes on from the number read so far. -/
theorem parseDigits_of_digits {chars : List Char} (digits : ∀ c ∈ chars, c.isDigit = true)
    (value : Nat) : parseDigits value chars = some (Nat.ofDigitChars 10 chars value) := by
  induction chars generalizing value with
  | nil => simp [parseDigits]
  | cons c rest ih =>
    rw [parseDigits, if_pos (digits c (by simp)), Nat.ofDigitChars_cons]
    exact ih (fun d mem => digits d (List.mem_cons_of_mem c mem)) _

theorem digits_of_parseDigits {chars : List Char} {value read : Nat}
    (parsed : parseDigits value chars = some read) : ∀ c ∈ chars, c.isDigit = true := by
  induction chars generalizing value with
  | nil => simp
  | cons c rest ih =>
    rw [parseDigits] at parsed
    split at parsed
    · rename_i digit
      intro d mem
      rcases List.mem_cons.mp mem with rfl | later
      · exact digit
      · exact ih parsed d later
    · cases parsed

theorem isWhitespace_of_isDigit {c : Char} (digit : c.isDigit = true) : isWhitespace c = false := by
  -- The ten digits have their codes in between those of white space.
  simp only [Char.isDigit, Bool.and_eq_true, decide_eq_true_eq] at digit
  have low : 48 ≤ c.toNat := digit.1
  have high : c.toNat ≤ 57 := digit.2
  simp only [isWhitespace, Bool.or_eq_false_iff, Bool.and_eq_false_iff, decide_eq_false_iff_not,
    beq_eq_false_iff_ne, ne_eq]
  omega

/-- A text that is parsed as a number has no white space in it. -/
theorem isWhitespace_of_parseUnsigned {bits value : Nat} {text : String}
    (parsed : parseUnsigned bits text = some value) :
    ∀ c ∈ text.toList, isWhitespace c = false := by
  unfold parseUnsigned at parsed
  dsimp only at parsed
  -- Apart from a sign in front, there are digits only.
  have digits : ∀ {chars : List Char}, (if chars.isEmpty then none
      else (parseDigits 0 chars).filter fun value => decide (value < 2 ^ bits)) = some value →
        ∀ c ∈ chars, isWhitespace c = false := by
    intro chars parsed c mem
    split at parsed
    · cases parsed
    · have read := (Option.filter_eq_some_iff.mp parsed).1
      exact isWhitespace_of_isDigit (digits_of_parseDigits read c mem)
  intro c mem
  split at parsed
  · rename_i rest signed
    rw [signed] at mem
    rcases List.mem_cons.mp mem with rfl | later
    · rfl
    · exact digits parsed c later
  · exact digits parsed c mem

namespace Numeral

variable {bits : Nat} (numeral : Numeral bits)

/-- The number that a numeral stands for. -/
def value : Nat := Nat.ofDigitChars 10 numeral.text.toList 0

/-- A numeral has no character other than digits. -/
theorem not_mem {c : Char} (other : c.isDigit = false) : c ∉ numeral.text.toList := by
  intro mem
  rw [numeral.digits c mem] at other
  cases other

theorem not_isEmpty : numeral.text.isEmpty = false := by
  simpa using numeral.filled

/-- A numeral is parsed as the number it stands for. -/
theorem parseUnsigned_text : parseUnsigned bits numeral.text = some numeral.value := by
  have parsed := parseDigits_of_digits numeral.digits 0
  cases opens : numeral.text.toList with
  | nil => exact absurd (String.toList_eq_nil_iff.mp opens) numeral.filled
  | cons c rest =>
    have unsigned : c ≠ '+' := by
      intro same
      exact numeral.not_mem (c := '+') rfl (by simp [opens, same])
    have small : numeral.value < 2 ^ bits := numeral.small
    rw [parseUnsigned_of_unsigned opens unsigned, ← opens, parsed]
    simpa [value] using small

end Numeral

end Rust
