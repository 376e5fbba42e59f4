import ColdStore.Rust.Text
import Mathlib.Data.List.Infix

/-! Finding a text inside another, and the texts that share a beginning. -/

namespace Rust

/-- The place where some characters first occur among others. -/
def findChars (pattern : List Char) : List Char → Option Nat
  | [] => if pattern.isEmpty then some 0 else none
  | c :: rest =>
    if pattern.isPrefixOf (c :: rest) then some 0 else (findChars pattern rest).map (· + 1)

/-- The place where a text first occurs in another, counted in characters. -/
def find (text pattern : String) : Option Nat := findChars pattern.toList text.toList

/-- The first characters of a text. -/
def takeChars (text : String) (count : Nat) : String := String.ofList (text.toList.take count)

variable {pattern text : List Char} {position : Nat}

/-- The first place is that of the first rest of the text that the pattern opens. -/
private theorem findChars_eq_findIdx? :
    findChars pattern text = text.tails.findIdx? fun rest => pattern.isPrefixOf rest := by
  induction text with
  | nil => cases pattern <;> rfl
  | cons c rest ih => rw [findChars, ih, List.tails_cons, List.findIdx?_cons]

/-- What is found is an occurrence inside the text, and there is none in front of it. -/
theorem findChars_eq_some_iff : findChars pattern text = some position ↔
    position ≤ text.length ∧ pattern <+: text.drop position ∧
      ∀ earlier < position, ¬ pattern <+: text.drop earlier := by
  rw [findChars_eq_findIdx?, List.findIdx?_eq_some_iff_getElem]
  simp only [List.getElem_tails, List.isPrefixOf_iff_prefix, List.length_tails, Nat.lt_succ_iff,
    exists_prop]

/-- What is not found does not occur. -/
theorem findChars_eq_none (absent : findChars pattern text = none) (position : Nat) :
    ¬ pattern <+: text.drop position := by
  rw [findChars_eq_findIdx?, List.findIdx?_eq_none_iff] at absent
  have closed := absent _ ((List.mem_tails _ _).mpr (List.drop_suffix position text))
  exact fun occurs => by rw [List.isPrefixOf_iff_prefix.mpr occurs] at closed; cases closed

section

variable (found : findChars pattern text = some position)

include found

/-- An occurrence lies inside the text. -/
theorem findChars_bound : position + pattern.length ≤ text.length := by
  obtain ⟨inside, occurs, _⟩ := findChars_eq_some_iff.mp found
  have fits := occurs.length_le
  rw [List.length_drop] at fits
  omega

/-- What follows the first occurrence does not move it. -/
theorem findChars_take_append (rest : List Char) :
    findChars pattern (text.take (position + pattern.length) ++ rest) = some position := by
  have bound := findChars_bound found
  obtain ⟨inside, occurs, first⟩ := findChars_eq_some_iff.mp found
  have kept : (text.take (position + pattern.length)).length = position + pattern.length :=
    List.length_take_of_le bound
  -- Up to the end of the occurrence, the rest of the text has no say.
  have drops : ∀ start ≤ position, (text.take (position + pattern.length) ++ rest).drop start =
      (text.take (position + pattern.length)).drop start ++ rest := fun start below =>
    List.drop_append_of_le_length (by omega)
  refine findChars_eq_some_iff.mpr ⟨by rw [List.length_append]; omega, ?_, fun earlier below opens => ?_⟩
  · rw [drops position le_rfl, List.drop_take, Nat.add_sub_cancel_left,
      ← List.prefix_iff_eq_take.mp occurs]
    exact List.prefix_append pattern rest
  · rw [drops earlier below.le] at opens
    refine first earlier below (List.IsPrefix.trans
      (List.prefix_of_prefix_length_le opens (List.prefix_append _ rest) ?_)
      (List.IsPrefix.drop (List.take_prefix _ text) earlier))
    rw [List.length_drop]
    omega

end

variable {front : String}

theorem startsWith_iff {text : String} :
    startsWith text front = true ↔ front.toList <+: text.toList := List.isPrefixOf_iff_prefix

/-- Texts are ordered as their characters, in the order the core library gives to lists. -/
private theorem le_iff_chars {left right : String} :
    left ≤ right ↔ @LE.le (List Char) List.instLE left.toList right.toList := by
  rw [← not_lt, String.lt_iff_toList_lt]
  exact List.not_lt

/-- A text is not smaller than its beginning. -/
theorem le_of_startsWith {text : String} (starts : startsWith text front = true) : front ≤ text :=
  le_iff_chars.mpr (startsWith_iff.mp starts).le

/-- What is between a beginning and a text that has it has it too. -/
theorem startsWith_of_between {text other : String} (starts : startsWith text front = true)
    (lower : front ≤ other) (upper : other ≤ text) : startsWith other front = true := by
  rw [le_iff_chars] at lower upper
  rw [startsWith_iff] at starts ⊢
  generalize front.toList = front at *
  generalize text.toList = text at *
  generalize other.toList = other at *
  -- Character by character, the one in the middle can differ from neither side.
  induction front generalizing text other with
  | nil => exact List.nil_prefix
  | cons c front ih =>
    obtain ⟨rest, rfl⟩ := starts
    cases other with
    | nil => exact absurd lower (by simp)
    | cons d other =>
      rw [List.cons_append] at upper
      rw [List.cons_le_cons_iff] at lower upper
      rcases lower with less | ⟨rfl, lower⟩
      · rcases upper with greater | ⟨same, _⟩
        · exact absurd greater (not_lt.mpr less.le)
        · exact absurd same less.ne'
      · rcases upper with greater | ⟨_, upper⟩
        · exact absurd greater (lt_irrefl c)
        · exact List.cons_prefix_cons.mpr ⟨rfl, ih _ (List.prefix_append front rest) _ lower upper⟩

end Rust
