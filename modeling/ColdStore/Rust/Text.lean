import Mathlib.Data.List.Basic
import Mathlib.Data.Char
import Mathlib.Data.String.Basic

/-! String operations of the standard library, on the characters a string is made of. -/

namespace Rust

/-- The characters with the Unicode `White_Space` property. -/
def isWhitespace (c : Char) : Bool :=
  let code := c.toNat
  (9 ≤ code && code ≤ 13) || code == 0x20 || code == 0x85 || code == 0xA0 || code == 0x1680 ||
    (0x2000 ≤ code && code ≤ 0x200A) || code == 0x2028 || code == 0x2029 || code == 0x202F ||
    code == 0x205F || code == 0x3000

/-- Drop leading and trailing white space. -/
def trim (text : String) : String :=
  -- Trailing white space is leading white space of the reversed text.
  String.ofList ((text.toList.dropWhile isWhitespace).reverse.dropWhile isWhitespace).reverse

/-- Whether a text begins with the given one. -/
def startsWith (text front : String) : Bool := front.toList.isPrefixOf text.toList

/-- The rest of a text after the given beginning, when it has that beginning. -/
def stripPrefix (text front : String) : Option String :=
  if startsWith text front then some (String.ofList (text.toList.drop front.toList.length))
  else none

/-- Equality up to the case of ASCII letters. -/
def eqIgnoreAsciiCase (left right : String) : Bool :=
  left.toList.map Char.toLower == right.toList.map Char.toLower

/-- Whether a text occurs inside another. -/
def containsText (text part : String) : Bool :=
  text.toList.tails.any fun rest => part.toList.isPrefixOf rest

/-- A text with its letters in lower case, for texts in ASCII. -/
def toLowercase (text : String) : String := String.ofList (text.toList.map Char.toLower)

/-- A text in lower case, up to letters that have nothing of ASCII in their lower case. -/
def lowercase (text : String) : String :=
  String.ofList (text.toList.flatMap fun c =>
    -- The sign for kelvins and the capital letter with a dot are the only others that have.
    if c = '\u212a' then ['k'] else if c = '\u0130' then ['i', '\u0307'] else [c.toLower])

/-- The text before the first separator, which is the first part of a split. -/
def splitFirst (text : String) (separator : Char) : String :=
  String.ofList (text.toList.takeWhile fun c => c != separator)

/-- Read decimal digits after those already read into the accumulator. -/
def parseDigits : Nat → List Char → Option Nat
  | value, [] => some value
  | value, c :: rest =>
    if c.isDigit then parseDigits (10 * value + (c.toNat - '0'.toNat)) rest else none

/-- Parse an unsigned integer of the given width, with an optional plus sign. -/
def parseUnsigned (bits : Nat) (text : String) : Option Nat :=
  let digits := match text.toList with
    | '+' :: rest => rest
    | other => other
  -- The empty text, a lone sign and a value that does not fit are all refused.
  if digits.isEmpty then none else (parseDigits 0 digits).filter fun value => decide (value < 2 ^ bits)

/-- A decimal digit. -/
def decimalDigit (value : Nat) : Char := Char.ofNat ('0'.toNat + value)

/-- Write the digits of a number in front of those already written. -/
def decimalFrom : Nat → Nat → List Char → List Char
  -- The fuel bounds the number of digits, which never exceeds the number itself plus one.
  | 0, _, written => written
  | fuel + 1, value, written =>
    let written := decimalDigit (value % 10) :: written
    if value / 10 = 0 then written else decimalFrom fuel (value / 10) written

/-- A number in decimal notation. -/
def decimal (value : Nat) : String := String.ofList (decimalFrom (value + 1) value [])

/-- A hexadecimal digit in lower case. -/
def hexDigit (value : Nat) : Char :=
  if value < 10 then Char.ofNat ('0'.toNat + value) else Char.ofNat ('a'.toNat + (value - 10))

/-- Two hexadecimal digits for each byte, high half first. -/
def lowerHex (bytes : List UInt8) : String :=
  String.ofList (bytes.flatMap fun byte => [hexDigit (byte.toNat / 16), hexDigit (byte.toNat % 16)])

variable {value : Nat}

/-- The digits are in lower case, and no white space or first letter of an algorithm prefix. -/
private theorem hexDigit_plain (small : value < 16) :
    (hexDigit value).toLower = hexDigit value ∧ isWhitespace (hexDigit value) = false ∧
      hexDigit value ≠ 's' ∧ hexDigit value ≠ 'S' := by
  -- Sixteen characters, each checked on its own.
  rcases value with _ | _ | _ | _ | _ | _ | _ | _ | _ | _ | _ | _ | _ | _ | _ | _ | value
  all_goals first | decide | omega

variable {bytes : List UInt8} {c : Char}

section

variable (mem : c ∈ (lowerHex bytes).toList)

include mem

/-- Every character written for a byte string is one of the sixteen digits. -/
private theorem mem_lowerHex : ∃ value < 16, c = hexDigit value := by
  simp only [lowerHex, String.toList_ofList, List.mem_flatMap, List.mem_cons,
    List.not_mem_nil, or_false] at mem
  obtain ⟨byte, _, high | low⟩ := mem
  · have bound := byte.toNat_lt
    exact ⟨byte.toNat / 16, by omega, high⟩
  · exact ⟨byte.toNat % 16, by omega, low⟩

/-- Every character written for a byte string is a plain hexadecimal digit. -/
theorem lowerHex_plain : isWhitespace c = false ∧ c ≠ 's' ∧ c ≠ 'S' := by
  obtain ⟨value, small, rfl⟩ := mem_lowerHex mem
  exact (hexDigit_plain small).2

/-- No character written for a byte string is an upper-case letter. -/
theorem lowerHex_toLower : c.toLower = c := by
  obtain ⟨value, small, rfl⟩ := mem_lowerHex mem
  exact (hexDigit_plain small).1

end

variable {text : String}

/-- A text without white space is left alone by trimming. -/
theorem trim_of_plain (plain : ∀ c ∈ text.toList, isWhitespace c = false) : trim text = text := by
  -- Neither end has anything to drop.
  have unchanged : ∀ chars : List Char, (∀ c ∈ chars, isWhitespace c = false) →
      chars.dropWhile isWhitespace = chars := by
    intro chars clean
    cases chars with
    | nil => rfl
    | cons c rest => simp [clean c (by simp)]
  simp only [trim]
  rw [unchanged _ plain, unchanged _ (fun c mem => plain c (List.mem_reverse.mp mem)),
    List.reverse_reverse, String.ofList_toList]

/-- A text that does not open with the first character of a beginning does not have it. -/
theorem stripPrefix_of_head {front : String} {rest : List Char} (opens : front.toList = c :: rest)
    (absent : c ∉ text.toList) : stripPrefix text front = none := by
  cases chars : text.toList with
  | nil => simp [stripPrefix, startsWith, opens, chars]
  | cons head tail =>
    have ne : c ≠ head := by
      intro same
      exact absent (by simp [chars, same])
    simp [stripPrefix, startsWith, opens, chars, ne]

/-- Texts without upper-case letters are equal up to case only if they are equal. -/
theorem eqIgnoreAsciiCase_iff {left right : String}
    (leftLower : ∀ c ∈ left.toList, c.toLower = c) (rightLower : ∀ c ∈ right.toList, c.toLower = c) :
    eqIgnoreAsciiCase left right = true ↔ left = right := by
  have unchanged : ∀ chars : List Char, (∀ c ∈ chars, c.toLower = c) →
      chars.map Char.toLower = chars := by
    intro chars lower
    simpa using List.map_congr_left lower
  unfold eqIgnoreAsciiCase
  rw [unchanged _ leftLower, unchanged _ rightLower, beq_iff_eq, String.toList_inj]

private theorem decimalDigit_reads (small : value < 10) :
    (decimalDigit value).isDigit = true ∧ (decimalDigit value).toNat - '0'.toNat = value := by
  rcases value with _ | _ | _ | _ | _ | _ | _ | _ | _ | _ | value
  all_goals first | decide | omega

private theorem parseDigits_decimalFrom (fuel value : Nat) (written : List Char)
    (enough : value < fuel) :
    parseDigits 0 (decimalFrom fuel value written) = parseDigits value written := by
  -- The digits in front stand for the number shifted left by the digits already written.
  induction fuel generalizing value written with
  | zero => omega
  | succ fuel ih =>
    have digit := decimalDigit_reads (Nat.mod_lt value (by decide : 10 > 0))
    have step : ∀ accumulator, parseDigits accumulator (decimalDigit (value % 10) :: written)
        = parseDigits (10 * accumulator + value % 10) written := by
      intro accumulator
      rw [parseDigits, if_pos digit.1, digit.2]
    by_cases single : value / 10 = 0
    · have small : value % 10 = value := Nat.mod_eq_of_lt (by omega)
      rw [decimalFrom, if_pos single, step, Nat.mul_zero, Nat.zero_add, small]
    · rw [decimalFrom, if_neg single, ih _ _ (by omega), step, Nat.div_add_mod]

private theorem decimalFrom_opens (fuel value : Nat) (written : List Char) (positive : 0 < fuel) :
    ∃ digit rest, decimalFrom fuel value written = decimalDigit digit :: rest ∧ digit < 10 := by
  induction fuel generalizing value written with
  | zero => omega
  | succ fuel ih =>
    by_cases single : value / 10 = 0
    · exact ⟨value % 10, written, by rw [decimalFrom, if_pos single], by omega⟩
    · rw [decimalFrom, if_neg single]
      by_cases empty : fuel = 0
      · subst empty
        exact ⟨value % 10, written, by simp [decimalFrom], by omega⟩
      · exact ih _ _ (by omega)

/-- What is parsed fits the width. -/
theorem parseUnsigned_lt {bits : Nat} (parsed : parseUnsigned bits text = some value) :
    value < 2 ^ bits := by
  unfold parseUnsigned at parsed
  -- Whatever digits are left, only a value that fits gets through.
  generalize (match text.toList with
    | '+' :: rest => rest
    | other => other) = digits at parsed
  dsimp only at parsed
  split at parsed
  · cases parsed
  · simpa using (Option.filter_eq_some_iff.mp parsed).2

/-- A text that does not begin with a sign is parsed digit by digit. -/
theorem parseUnsigned_of_unsigned {bits : Nat} {rest : List Char} (opens : text.toList = c :: rest)
    (unsigned : c ≠ '+') :
    parseUnsigned bits text =
      (parseDigits 0 (c :: rest)).filter fun value => decide (value < 2 ^ bits) := by
  simp only [parseUnsigned]
  rw [opens]
  -- The text neither is empty nor begins with a sign.
  have kept : (match c :: rest with
      | '+' :: tail => tail
      | other => other) = c :: rest := by
    split
    · rename_i tail same
      exact absurd (List.cons.inj same).1 unsigned
    · rfl
  simp [kept]

/-- A number in decimal notation is parsed as itself, if it fits the width. -/
theorem parseUnsigned_decimal {bits : Nat} (fits : value < 2 ^ bits) :
    parseUnsigned bits (decimal value) = some value := by
  obtain ⟨digit, rest, opens, small⟩ := decimalFrom_opens (value + 1) value [] (by omega)
  have parsed := parseDigits_decimalFrom (value + 1) value [] (by omega)
  have unsigned : decimalDigit digit ≠ '+' := by
    intro sign
    cases sign ▸ (decimalDigit_reads small).1
  have text : (decimal value).toList = decimalDigit digit :: rest := by
    rw [decimal, String.toList_ofList, opens]
  rw [opens] at parsed
  rw [parseUnsigned_of_unsigned text unsigned, parsed]
  simp [parseDigits, fits]

/-- Stripping a beginning from a text that was put behind it gives the text. -/
theorem stripPrefix_append (front text : String) : stripPrefix (front ++ text) front = some text := by
  simp [stripPrefix, startsWith]

/-- There is one way to cut a list at the first place of a separator. -/
theorem append_separator_inj {α : Type} {separator : α} {first second rest rest' : List α}
    (plain : separator ∉ first) (plain' : separator ∉ second)
    (same : first ++ separator :: rest = second ++ separator :: rest') :
    first = second ∧ rest = rest' := by
  -- One of the two beginnings is a beginning of the other, and goes no further.
  rcases List.append_eq_append_iff.mp same with ⟨more, rfl, tail⟩ | ⟨more, rfl, tail⟩
  · cases more with
    | nil => exact ⟨by simp, by simpa using tail⟩
    | cons item _ =>
      rw [List.cons_append, List.cons.injEq] at tail
      exact absurd (by simp [tail.1]) plain'
  · cases more with
    | nil => exact ⟨by simp, by simpa using tail.symm⟩
    | cons item _ =>
      rw [List.cons_append, List.cons.injEq] at tail
      exact absurd (by simp [tail.1]) plain

end Rust
