import Mathlib.Data.List.Nodup
import Mathlib.Data.List.Sort

/-! Lists thinned out to one element for each key, the one of the highest rank. -/

namespace Rust

variable {α κ β : Type} [LinearOrder β]

/-- One element is kept for each key, and every dropped one has a kept one at or above it. -/
structure Highest (key : α → κ) (rank : α → β) (items kept dropped : List α) : Prop where
  split : items.Perm (kept ++ dropped)
  single : (kept.map key).Nodup
  above : ∀ lower ∈ dropped, ∃ higher ∈ kept, key higher = key lower ∧ rank lower ≤ rank higher

namespace Highest

variable {key : α → κ} {rank : α → β} {items kept dropped others : List α} {item current : α}

theorem nil : Highest key rank [] [] [] := ⟨.nil, List.nodup_nil, fun _ nothing => by cases nothing⟩

variable (highest : Highest key rank items kept dropped)

include highest

/-- The order of what is kept does not matter. -/
theorem kept_perm (same : kept.Perm others) : Highest key rank items others dropped where
  split := highest.split.trans (same.append_right dropped)
  single := (same.map key).nodup_iff.mp highest.single
  above lower mem := by
    obtain ⟨higher, inside, place, below⟩ := highest.above lower mem
    exact ⟨higher, same.mem_iff.mp inside, place, below⟩

/-- The first element of its key is kept. -/
theorem fresh (new : key item ∉ kept.map key) :
    Highest key rank (items ++ [item]) (item :: kept) dropped where
  split := (List.perm_append_singleton item items).trans (highest.split.cons item)
  single := List.nodup_cons.mpr ⟨new, highest.single⟩
  above lower mem := by
    obtain ⟨higher, inside, place, below⟩ := highest.above lower mem
    exact ⟨higher, List.mem_cons_of_mem item inside, place, below⟩

/-- An element that is not above the kept one is dropped. -/
theorem lower (mem : current ∈ kept) (same : key current = key item)
    (below : rank item ≤ rank current) :
    Highest key rank (items ++ [item]) kept (dropped ++ [item]) where
  split := by
    rw [← List.append_assoc]
    exact highest.split.append_right [item]
  single := highest.single
  above lower other := by
    rcases List.mem_append.mp other with earlier | last
    · exact highest.above lower earlier
    · obtain rfl := List.mem_singleton.mp last
      exact ⟨current, mem, same, below⟩

/-- An element above the kept one takes its place. -/
theorem higher (split : kept.Perm (current :: others)) (same : key current = key item)
    (below : rank current ≤ rank item) :
    Highest key rank (items ++ [item]) (item :: others) (dropped ++ [current]) where
  split := by
    -- The new element takes the place of the current one, which joins the dropped.
    have whole := highest.split.trans (split.append_right dropped)
    calc (items ++ [item]).Perm (current :: others ++ dropped ++ [item]) := whole.append_right [item]
      _ |>.Perm (item :: (current :: others ++ dropped)) := List.perm_append_singleton item _
      _ |>.Perm (item :: others ++ (dropped ++ [current])) := by
        rw [List.cons_append, List.cons_append, ← List.append_assoc]
        exact (List.perm_append_singleton current _).symm.cons item
  single := by
    have single := (split.map key).nodup_iff.mp highest.single
    rw [List.map_cons, same] at single
    exact single
  above lower mem := by
    rcases List.mem_append.mp mem with earlier | last
    · obtain ⟨higher, inside, place, under⟩ := highest.above lower earlier
      rcases List.mem_cons.mp (split.mem_iff.mp inside) with rfl | other
      · exact ⟨item, List.mem_cons_self, same.symm.trans place, le_trans under below⟩
      · exact ⟨higher, List.mem_cons_of_mem item other, place, under⟩
    · obtain rfl := List.mem_singleton.mp last
      exact ⟨item, List.mem_cons_self, same.symm, below⟩

/-- A key that is there has an element that is kept. -/
theorem exists_kept (mem : item ∈ items) :
    ∃ higher ∈ kept, key higher = key item ∧ rank item ≤ rank higher := by
  rcases List.mem_append.mp (highest.split.mem_iff.mp mem) with inside | out
  · exact ⟨item, inside, rfl, le_refl _⟩
  · exact highest.above item out

theorem mem_of_kept (mem : item ∈ kept) : item ∈ items :=
  highest.split.mem_iff.mpr (List.mem_append_left dropped mem)

/-- Among different ranks, the kept elements are the highest of their keys. -/
theorem mem_kept_iff (distinct : (items.map rank).Nodup) :
    item ∈ kept ↔ item ∈ items ∧ ∀ other ∈ items, key other = key item → rank other ≤ rank item := by
  constructor
  · intro inside
    refine ⟨highest.mem_of_kept inside, fun other mem same => ?_⟩
    obtain ⟨higher, there, place, below⟩ := highest.exists_kept mem
    -- The kept element of that key is the element itself.
    obtain rfl := List.inj_on_of_nodup_map highest.single there inside (place.trans same)
    exact below
  · intro both
    obtain ⟨mem, highestOfAll⟩ := both
    obtain ⟨higher, there, place, below⟩ := highest.exists_kept mem
    have above := highestOfAll higher (highest.mem_of_kept there) place
    obtain rfl := List.inj_on_of_nodup_map distinct mem (highest.mem_of_kept there)
      (le_antisymm below above)
    exact there

/-- In whatever order the elements come, the same ones are kept and the same ones dropped. -/
theorem perm_of_perm {items' kept' dropped' : List α}
    (highest' : Highest key rank items' kept' dropped') (same : items'.Perm items)
    (distinct : (items.map rank).Nodup) : kept'.Perm kept ∧ dropped'.Perm dropped := by
  have distinct' : (items'.map rank).Nodup := (same.map rank).nodup_iff.mpr distinct
  -- Being kept is a property of the element among all of them, not of their order.
  have keptSame : kept'.Perm kept := by
    refine (List.perm_ext_iff_of_nodup highest'.single.of_map highest.single.of_map).mpr ?_
    intro item
    rw [highest'.mem_kept_iff distinct', highest.mem_kept_iff distinct]
    simp only [same.mem_iff]
  refine ⟨keptSame, (List.perm_append_left_iff kept).mp ?_⟩
  calc (kept ++ dropped').Perm (kept' ++ dropped') := keptSame.symm.append_right dropped'
    _ |>.Perm items' := highest'.split.symm
    _ |>.Perm items := same
    _ |>.Perm (kept ++ dropped) := highest.split

end Highest

end Rust
