import ColdStore.Rust.HashMap
import Mathlib.Algebra.GroupWithZero.Nat
import Mathlib.Algebra.Order.BigOperators.Group.List
import Mathlib.Algebra.Order.Group.Nat

/-! What the values of a hash map add up to. -/

namespace Rust.HashMap

universe u v

variable {κ : Type u} {ν : Type v} [DecidableEq κ]

variable {key : κ} {value : ν}

variable (map : HashMap κ ν)

/-- A stored entry beside those of the other keys. -/
theorem entries_perm_remove (stored : map.get key = some value) :
    map.entries.Perm ((key, value) :: (map.remove key).entries) := by
  -- Taking the entry out and storing it again leaves the contents as they are.
  have again : map ≈ (map.remove key).insert key value := by
    intro other
    rw [get_insert, get_remove]
    split
    · rename_i same
      rw [same, stored]
    · rfl
  have absent : (map.remove key).get key = none := get_remove_self map key
  exact (perm_of_equiv again).trans ((perm_of_equiv (remove_of_absent _ absent)).cons (key, value))

/-- A stored value beside those of the other keys. -/
theorem values_perm_remove (stored : map.get key = some value) :
    map.values.Perm (value :: (map.remove key).values) :=
  (map.entries_perm_remove stored).map Prod.snd

/-- A value that was put beside those of the other keys. -/
theorem values_insert_perm (key : κ) (value : ν) :
    (map.insert key value).values.Perm (value :: (map.remove key).values) := .rfl

theorem values_insert_absent (value : ν) (absent : map.get key = none) :
    (map.insert key value).values.Perm (value :: map.values) :=
  (values_perm (map.remove_of_absent absent)).cons value

/-- A new value that counts is one more. -/
theorem values_filter_insert {counts : ν → Bool} (absent : map.get key = none)
    (counted : counts value = true) :
    ((map.insert key value).values.filter counts).length =
      (map.values.filter counts).length + 1 := by
  have beside := ((map.values_insert_absent value absent).filter counts).length_eq
  rwa [List.filter_cons_of_pos counted, List.length_cons] at beside

/-- A value that counts is one less once one that does not has taken its place. -/
theorem values_filter_replaced {before after : HashMap κ ν} {old : ν} {counts : ν → Bool}
    (stored : before.get key = some old)
    (same : ∀ other, after.get other = if other = key then some value else before.get other)
    (counted : counts old = true) (ignored : counts value = false) :
    (before.values.filter counts).length = (after.values.filter counts).length + 1 := by
  have replaced : after ≈ before.insert key value := fun other => by rw [same, get_insert]
  have first := ((before.values_perm_remove stored).filter counts).length_eq
  have second := ((values_perm replaced).trans (before.values_insert_perm key value)).filter counts
  rw [List.filter_cons_of_pos counted, List.length_cons] at first
  rw [List.filter_cons_of_neg (by simp [ignored])] at second
  rw [first, second.length_eq]

omit [DecidableEq κ] in
/-- Values stored under their identities have different ones. -/
theorem Keyed.values_nodup {map : HashMap κ ν} {identity : ν → κ} (keyed : map.Keyed identity) :
    (map.values.map identity).Nodup := by
  have keys : map.values.map identity = map.entries.map Prod.fst := by
    rw [values, List.map_map]
    exact List.map_congr_left fun entry mem => (keyed entry mem).symm
  rw [keys]
  exact map.nodup

/-- A value changed in place that weighs the same changes no weight. -/
theorem values_update_map {μ : Type} {old : ν} {weight : ν → μ} (stored : map.get key = some old)
    (same : weight value = weight old) :
    (map.update key value).values.map weight = map.values.map weight := by
  have all := @values_update_filter_map _ _ _ _ map key old value (fun _ => true) weight stored rfl same
  simpa using all

/-- Entries that are all on a list, key by key, are part of the list. -/
theorem entries_subperm {μ : Type} {weight : ν → μ} {listed : List (κ × μ)}
    (inside : ∀ key value, map.get key = some value → (key, weight value) ∈ listed) :
    (map.entries.map fun entry => (entry.1, weight entry.2)).Subperm listed := by
  refine List.subperm_of_subset ?_ fun pair mem => ?_
  · -- The keys alone tell the pairs apart.
    refine List.Nodup.of_map Prod.fst ?_
    rw [List.map_map]
    exact map.nodup
  · obtain ⟨entry, stored, rfl⟩ := List.mem_map.mp mem
    exact inside entry.1 entry.2 ((map.mem_entries _ _).mp stored)

/-- The values weigh no more than the list. -/
theorem sum_values_le {weight : ν → Nat} {listed : List (κ × Nat)}
    (inside : ∀ key value, map.get key = some value → (key, weight value) ∈ listed) :
    (map.values.map weight).sum ≤ (listed.map Prod.snd).sum := by
  obtain ⟨chosen, same, part⟩ := map.entries_subperm inside
  calc (map.values.map weight).sum
      = ((map.entries.map fun entry => (entry.1, weight entry.2)).map Prod.snd).sum := by
        simp only [values, List.map_map]
        rfl
    _ = (chosen.map Prod.snd).sum := ((same.map Prod.snd).sum_nat).symm
    _ ≤ (listed.map Prod.snd).sum := (part.map Prod.snd).sum_le_sum fun _ _ => Nat.zero_le _

end Rust.HashMap
