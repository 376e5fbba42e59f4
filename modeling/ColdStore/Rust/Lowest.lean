import ColdStore.Rust.Iter
import Mathlib.Data.List.Sort

/-! Parts of a list that hold its smallest elements. -/

namespace Rust

variable {α β : Type} [LinearOrder β]

/-- A list split in two, with no element of the first part above one of the second. -/
structure Lowest (key : α → β) (items part rest : List α) : Prop where
  split : items.Perm (part ++ rest)
  below : ∀ low ∈ part, ∀ high ∈ rest, key low ≤ key high

namespace Lowest

variable {key : α → β} {items part rest : List α}

theorem nil (items : List α) : Lowest key items [] items :=
  ⟨.rfl, fun _ nothing => by cases nothing⟩

/-- A smallest element goes before the smallest ones of the others. -/
theorem cons {least : α} {others : List α} (split : items.Perm (least :: others))
    (smallest : ∀ other ∈ others, key least ≤ key other) (lowest : Lowest key others part rest) :
    Lowest key items (least :: part) rest where
  split := split.trans (lowest.split.cons least)
  below low mem high kept := by
    rcases List.mem_cons.mp mem with rfl | later
    · exact smallest high (lowest.split.mem_iff.mpr (List.mem_append_right part kept))
    · exact lowest.below low later high kept

variable (lowest : Lowest key items part rest)

include lowest

/-- The beginning of a lowest part in order is one, too. -/
theorem take (sorted : part.Pairwise fun low high => key low ≤ key high) (count : Nat) :
    Lowest key items (part.take count) (part.drop count ++ rest) where
  split := by
    rw [← List.append_assoc, List.take_append_drop]
    exact lowest.split
  below low mem high kept := by
    rw [← List.take_append_drop count part, List.pairwise_append] at sorted
    rcases List.mem_append.mp kept with later | outside
    · exact sorted.2.2 low mem high later
    · exact lowest.below low (List.mem_of_mem_take mem) high outside

/-- The keys of both parts, each in order, are the keys of the whole in order. -/
private theorem sorted_keys :
    (part.map key).insertionSort (· ≤ ·) ++ (rest.map key).insertionSort (· ≤ ·) =
      (items.map key).insertionSort (· ≤ ·) := by
  -- Both sides are arrangements of the same keys in ascending order, and there is only one.
  refine List.Perm.eq_of_pairwise' (r := (· ≤ ·)) ?_ (List.pairwise_insertionSort _ _) ?_
  · refine List.pairwise_append.mpr
      ⟨List.pairwise_insertionSort _ _, List.pairwise_insertionSort _ _, ?_⟩
    intro low inPart high inRest
    obtain ⟨low, mem, rfl⟩ := List.mem_map.mp ((List.mem_insertionSort _).mp inPart)
    obtain ⟨high, kept, rfl⟩ := List.mem_map.mp ((List.mem_insertionSort _).mp inRest)
    exact lowest.below low mem high kept
  · have unsorted := (List.perm_insertionSort (· ≤ ·) (part.map key)).append
      (List.perm_insertionSort (· ≤ ·) (rest.map key))
    rw [← List.map_append] at unsorted
    exact (unsorted.trans (lowest.split.map key).symm).trans (List.perm_insertionSort _ _).symm

/-- Two lowest parts of one size have the same keys. -/
theorem keys_perm {other kept : List α} (lowest' : Lowest key items other kept)
    (size : part.length = other.length) : (part.map key).Perm (other.map key) := by
  -- Each part in order is the beginning of the same ordered list.
  have whole := lowest.sorted_keys.trans lowest'.sorted_keys.symm
  have lengths : ((part.map key).insertionSort (· ≤ ·)).length =
      ((other.map key).insertionSort (· ≤ ·)).length := by simp [size]
  have same := (List.append_inj whole lengths).1
  have sorted := (List.perm_insertionSort (· ≤ ·) (part.map key)).symm
  rw [same] at sorted
  exact sorted.trans (List.perm_insertionSort _ _)

end Lowest

end Rust
