import Mathlib.Data.List.Sort

/-! Sorting by a key, which keeps elements of the same key in their order. -/

namespace Rust

variable {α β : Type} [LinearOrder β] (key : α → β)

/-- The elements in the order of their keys. -/
def sortByKey (items : List α) : List α := items.insertionSort fun left right => key left ≤ key right

theorem sortByKey_perm (items : List α) : (sortByKey key items).Perm items :=
  List.perm_insertionSort _ items

theorem sortByKey_sorted (items : List α) :
    (sortByKey key items).Pairwise fun left right => key left ≤ key right :=
  haveI : Std.Total fun left right : α => key left ≤ key right :=
    ⟨fun left right => le_total (key left) (key right)⟩
  haveI : IsTrans α fun left right => key left ≤ key right := ⟨fun _ _ _ => le_trans⟩
  List.pairwise_insertionSort _ items

private theorem filter_orderedInsert (keep : α → Bool) (item : α) {items : List α}
    (sorted : items.Pairwise fun left right => key left ≤ key right) :
    (items.orderedInsert (fun left right => key left ≤ key right) item).filter keep
      = if keep item then
          (items.filter keep).orderedInsert (fun left right => key left ≤ key right) item
        else items.filter keep := by
  induction items with
  | nil => cases kept : keep item <;> simp [kept]
  | cons head rest ih =>
    obtain ⟨least, tail⟩ := List.pairwise_cons.mp sorted
    by_cases first : key item ≤ key head
    · -- The element comes before everything that is kept.
      have before : ∀ other ∈ (head :: rest).filter keep, key item ≤ key other := by
        intro other mem
        cases List.mem_cons.mp (List.mem_filter.mp mem).1 with
        | inl same => exact same ▸ first
        | inr inside => exact le_trans first (least other inside)
      rw [List.orderedInsert_cons, if_pos first, List.filter_cons]
      split
      · cases picked : (head :: rest).filter keep with
        | nil => rfl
        | cons next others =>
          rw [List.orderedInsert_cons, if_pos (before next (by simp [picked]))]
      · rfl
    · rw [List.orderedInsert_cons, if_neg first, List.filter_cons, ih tail, List.filter_cons]
      cases keep head with
      | true =>
        cases keep item with
        | true => simp [first]
        | false => rfl
      | false => rfl

/-- Sorting and picking can be done in either order. -/
theorem filter_sortByKey (keep : α → Bool) (items : List α) :
    (sortByKey key items).filter keep = sortByKey key (items.filter keep) := by
  induction items with
  | nil => rfl
  | cons item rest ih =>
    have sorted := sortByKey_sorted key rest
    have step := filter_orderedInsert key keep item sorted
    rw [ih] at step
    have unfolded : sortByKey key (item :: rest)
        = (sortByKey key rest).orderedInsert (fun left right => key left ≤ key right) item := rfl
    rw [unfolded, step, List.filter_cons]
    split <;> rfl

end Rust
