import Mathlib.Data.List.Basic

/-! A part of a list between two positions, which has to lie inside. -/

namespace Rust

variable {α : Type} {items : List α} {start stop : Nat}

/-- The items from one position up to another, unless the two do not bound a part of the list. -/
def slice (items : List α) (start stop : Nat) : Option (List α) :=
  if start ≤ stop ∧ stop ≤ items.length then some ((items.take stop).drop start) else none

theorem slice_of_le (ordered : start ≤ stop) (inside : stop ≤ items.length) :
    slice items start stop = some ((items.take stop).drop start) := if_pos ⟨ordered, inside⟩

theorem length_of_slice {part : List α} (sliced : slice items start stop = some part) :
    part.length = stop - start := by
  rw [slice, Option.ite_none_right_eq_some] at sliced
  obtain ⟨⟨_, inside⟩, same⟩ := sliced
  cases same
  rw [List.length_drop, List.length_take_of_le inside]

end Rust
