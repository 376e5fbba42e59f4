import ColdStore.Paging.Chain
import Mathlib.Data.List.Induction

/-! The order of a listing: its items and groups, merged by their labels, are its entries. -/

namespace Paging

variable {α K : Type} [LinearOrder K] (key : α → K)

/-- Items and groups in one listing, each in front of those with larger labels. -/
def merged (items : List α) (groups : List K) : List (α ⊕ K) :=
  (items.map .inl).merge (groups.map .inr) fun left right =>
    decide (label key left ≤ label key right)

section

omit [LinearOrder K]

theorem mem_items {entries : List (α ⊕ K)} {item : α} : item ∈ items entries ↔ .inl item ∈ entries := by
  simp [items]

theorem mem_groups {entries : List (α ⊕ K)} {name : K} : name ∈ groups entries ↔ .inr name ∈ entries := by
  simp [groups]

end

variable {key}

/-- Entries in the order of their labels can be told from their items and groups. -/
theorem merged_eq {entries : List (α ⊕ K)}
    (increasing : entries.Pairwise fun left right => label key left < label key right) :
    merged key (items entries) (groups entries) = entries := by
  induction entries with
  | nil => simp [merged]
  | cons entry rest ih =>
    obtain ⟨least, tail⟩ := List.pairwise_cons.mp increasing
    have later := ih tail
    unfold merged at later ⊢
    cases entry with
    | inl item =>
      -- The item is in front of every group that is left.
      rw [items_inl, groups_inl, List.map_cons]
      cases left : groups rest with
      | nil =>
        rw [left, List.map_nil, List.merge_right] at later
        rw [List.map_nil, List.merge_right, later]
      | cons name names =>
        have below := least (.inr name) (mem_groups.mp (left ▸ List.mem_cons_self))
        rw [left, List.map_cons] at later
        rw [List.map_cons, List.cons_merge_cons_pos _ _ _ (decide_eq_true below.le), later]
    | inr name =>
      rw [items_inr, groups_inr, List.map_cons]
      cases left : items rest with
      | nil =>
        rw [left, List.map_nil, List.nil_merge] at later
        rw [List.map_nil, List.nil_merge, later]
      | cons item others =>
        have above := least (.inl item) (mem_items.mp (left ▸ List.mem_cons_self))
        rw [left, List.map_cons] at later
        rw [List.map_cons, List.cons_merge_cons_neg _ _ _ (by simpa using above), later]

variable {mark : α → Option K} (grouping : Grouping key mark)

include grouping

/-- Every entry stands for an item, under whose key its label does not come later. -/
theorem exists_of_mem_entries {list : List α} {entry : α ⊕ K}
    (mem : entry ∈ entries mark [] list) : ∃ item ∈ list, label key entry ≤ key item := by
  cases entry with
  | inl item =>
    have listed := mem_items.mpr mem
    rw [items_entries] at listed
    exact ⟨item, List.mem_of_mem_filter listed, le_refl _⟩
  | inr name =>
    have listed := mem_groups.mpr mem
    obtain ⟨item, inside, marked⟩ :=
      List.mem_filterMap.mp ((mem_groups_entries mark [] list name).mp listed).2
    exact ⟨item, inside, grouping.front marked⟩

/-- Items in the strict order of their keys are shown in the strict order of labels. -/
theorem entries_increasing {list : List α}
    (strict : list.Pairwise fun left right => key left < key right) :
    (entries mark [] list).Pairwise fun left right => label key left < label key right := by
  induction list using List.reverseRecOn with
  | nil => exact .nil
  | append_singleton before item ih =>
    obtain ⟨front, _, behind⟩ := List.pairwise_append.mp strict
    rw [entries_concat]
    refine List.pairwise_append.mpr ⟨ih front, ?_, ?_⟩
    · -- One item adds one entry at most.
      have one := length_shown_le mark (before.filterMap mark) item
      match shown mark (before.filterMap mark) item, one with
      | [], _ => exact .nil
      | [entry], _ => exact List.pairwise_singleton _ entry
    · intro earlier mem entry added
      obtain ⟨other, inside, below⟩ := exists_of_mem_entries grouping mem
      have less := behind other inside item (List.mem_singleton.mpr rfl)
      rcases shown_cases (List.ne_nil_of_mem added) with ⟨_, single⟩ | ⟨name, marked, fresh, single⟩
      · rw [single] at added
        obtain rfl := List.mem_singleton.mp added
        exact lt_of_le_of_lt below less
      · rw [single] at added
        obtain rfl := List.mem_singleton.mp added
        -- Otherwise the earlier item would be in the group, which would not be new.
        refine lt_of_not_ge fun above => fresh ?_
        have shared := grouping.between marked (le_trans above below) less.le
        exact List.mem_filterMap.mpr ⟨other, inside, shared⟩

end Paging
