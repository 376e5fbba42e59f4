import Mathlib.Data.List.Nodup
import Mathlib.Data.List.Perm.Basic

/-! Hash maps as entries in iteration order, compared only by what each key maps to. -/

namespace Rust

universe u v w

/-- The first value stored for a key in a list of entries. -/
def lookup {κ : Type u} {ν : Type v} [DecidableEq κ] (key : κ) : List (κ × ν) → Option ν
  | [] => none
  | (at_, value) :: rest => if at_ = key then some value else lookup key rest

/--
A hash map holds its entries in the order iteration would visit them.

The order carries no meaning, so two maps count as equal when every key maps to the same value.
-/
structure HashMap (κ : Type u) (ν : Type v) where
  /-- Entries in iteration order. -/
  entries : List (κ × ν)
  /-- No key is stored twice. -/
  nodup : (entries.map Prod.fst).Nodup
  deriving DecidableEq

namespace HashMap

variable {κ : Type u} {ν : Type v}

/-- The map with no entries. -/
def empty : HashMap κ ν := ⟨[], by simp⟩

/-- Stored values, in iteration order. -/
def values (map : HashMap κ ν) : List ν := map.entries.map Prod.snd

/-- Stored keys, in iteration order. -/
def keys (map : HashMap κ ν) : List κ := map.entries.map Prod.fst

/-- Number of stored entries. -/
def len (map : HashMap κ ν) : Nat := map.entries.length

/-- Whether the map stores nothing. -/
def isEmpty (map : HashMap κ ν) : Bool := map.entries.isEmpty

variable [DecidableEq κ]

/-- The value stored under a key. -/
def get (map : HashMap κ ν) (key : κ) : Option ν := lookup key map.entries

/-- Whether a key is stored. -/
def containsKey (map : HashMap κ ν) (key : κ) : Bool := (map.get key).isSome

/-- Forget the entry of a key. -/
def remove (map : HashMap κ ν) (key : κ) : HashMap κ ν where
  entries := map.entries.filter fun entry => !decide (entry.1 = key)
  -- Dropping entries cannot create a second copy of a key.
  nodup := map.nodup.sublist (List.filter_sublist.map Prod.fst)

/-- Store a value under a key, replacing what the key held before. -/
def insert (map : HashMap κ ν) (key : κ) (value : ν) : HashMap κ ν where
  entries := (key, value) :: (map.remove key).entries
  nodup := by
    -- The only entry that could repeat the new key was dropped first.
    simp only [List.map_cons, List.nodup_cons]
    exact ⟨by simp [remove], (map.remove key).nodup⟩

/-- Overwrite the value of a key that is already stored, in place. -/
def update (map : HashMap κ ν) (key : κ) (value : ν) : HashMap κ ν where
  entries := map.entries.map fun entry => if entry.1 = key then (entry.1, value) else entry
  nodup := by
    -- Every entry keeps its key and its place.
    have same : (map.entries.map fun entry =>
        if entry.1 = key then (entry.1, value) else entry).map Prod.fst
          = map.entries.map Prod.fst := by
      rw [List.map_map]
      exact List.map_congr_left fun entry _ => by dsimp only [Function.comp]; split <;> rfl
    rw [same]
    exact map.nodup

/-- Build a map by storing the listed pairs one after the other. -/
def collect (pairs : List (κ × ν)) : HashMap κ ν :=
  pairs.foldl (fun map pair => map.insert pair.1 pair.2) empty

/-- Every value is stored under the key it identifies itself with. -/
def Keyed (identity : ν → κ) (map : HashMap κ ν) : Prop :=
  ∀ entry ∈ map.entries, entry.1 = identity entry.2

/-- Two maps hold the same values under the same keys, whatever their iteration order. -/
protected def Equiv (left right : HashMap κ ν) : Prop := ∀ key, left.get key = right.get key

instance : HasEquiv (HashMap κ ν) := ⟨HashMap.Equiv⟩

/-! Each lookup law describes one operation by what every key maps to afterwards. -/

private theorem lookup_filter_ne (entries : List (κ × ν)) (key other : κ) :
    lookup other (entries.filter fun entry => !decide (entry.1 = key)) =
      if other = key then none else lookup other entries := by
  -- Dropped entries all carry the removed key, so only that key loses its value.
  induction entries with
  | nil => simp [lookup]
  | cons entry rest ih =>
    rcases entry with ⟨at_, value⟩
    by_cases dropped : at_ = key
    · subst at_
      by_cases same : other = key
      · subst other
        simpa using ih
      · simp [ih, same, lookup, Ne.symm same]
    · by_cases same : at_ = other
      · subst at_
        simp [lookup, dropped]
      · simp [lookup, dropped, same, ih]

variable {key : κ} {value : ν}

private theorem lookup_mem {entries : List (κ × ν)} (found : lookup key entries = some value) :
    (key, value) ∈ entries := by
  -- The search stops at an entry whose key is the requested one.
  induction entries with
  | nil => simp [lookup] at found
  | cons entry rest ih =>
    rcases entry with ⟨at_, stored⟩
    by_cases same : at_ = key
    · subst at_
      simp only [lookup, if_pos, Option.some.injEq] at found
      simp [found]
    · simp only [lookup, if_neg same] at found
      exact List.mem_cons_of_mem _ (ih found)

private theorem lookup_of_mem {entries : List (κ × ν)} (nodup : (entries.map Prod.fst).Nodup)
    (mem : (key, value) ∈ entries) : lookup key entries = some value := by
  -- With one entry per key, no earlier entry can answer for the requested key.
  induction entries with
  | nil => simp at mem
  | cons entry rest ih =>
    rcases entry with ⟨at_, stored⟩
    simp only [List.map_cons, List.nodup_cons] at nodup
    rcases List.mem_cons.mp mem with same | later
    · cases same
      simp [lookup]
    · have ne : at_ ≠ key := fun same =>
        nodup.1 (same ▸ List.mem_map.mpr ⟨(key, value), later, rfl⟩)
      simp only [lookup, if_neg ne]
      exact ih nodup.2 later

@[simp] theorem get_empty (key : κ) : (empty : HashMap κ ν).get key = none := rfl

variable (map : HashMap κ ν)

theorem get_remove (key other : κ) :
    (map.remove key).get other = if other = key then none else map.get other :=
  lookup_filter_ne map.entries key other

theorem get_insert (key other : κ) (value : ν) :
    (map.insert key value).get other = if other = key then some value else map.get other := by
  -- The new entry stands first, and every other key is found among the kept entries.
  by_cases same : other = key
  · simp [get, insert, lookup, same]
  · have kept := map.get_remove key other
    simp only [get, if_neg same] at kept
    simp [get, insert, lookup, Ne.symm same, same, kept]

theorem get_update (key other : κ) (value : ν) :
    (map.update key value).get other =
      if other = key then (map.get key).map fun _ => value else map.get other := by
  -- In-place writes visit every entry but change only those of the given key.
  simp only [get, update]
  induction map.entries with
  | nil => simp [lookup]
  | cons entry rest ih =>
    rcases entry with ⟨at_, stored⟩
    by_cases hit : at_ = key
    · subst at_
      by_cases same : other = key
      · simp [lookup, same]
      · simp only [List.map_cons, if_true, lookup, if_neg (Ne.symm same), if_neg same]
        simpa [same] using ih
    · by_cases same : at_ = other
      · subst at_
        simp [lookup, hit]
      · simp only [List.map_cons, if_neg hit, lookup, if_neg same]
        simpa using ih

@[simp] theorem get_insert_self (key : κ) (value : ν) :
    (map.insert key value).get key = some value := by simp [get_insert]

@[simp] theorem get_remove_self (key : κ) :
    (map.remove key).get key = none := by simp [get_remove]

theorem get_insert_ne {other : κ} (value : ν) (ne : other ≠ key) :
    (map.insert key value).get other = map.get other := by simp [get_insert, ne]

theorem get_remove_ne {other : κ} (ne : other ≠ key) :
    (map.remove key).get other = map.get other := by simp [get_remove, ne]

theorem get_update_ne {other : κ} (value : ν) (ne : other ≠ key) :
    (map.update key value).get other = map.get other := by simp [get_update, ne]

theorem get_update_of_some {old : ν} (value : ν) (stored : map.get key = some old) :
    (map.update key value).get key = some value := by
  simp [get_update, stored]

/-- Iteration visits exactly the pairs that lookups find. -/
theorem mem_entries (key : κ) (value : ν) : (key, value) ∈ map.entries ↔ map.get key = some value :=
  ⟨lookup_of_mem map.nodup, lookup_mem⟩

/-- The visited values are exactly the values some key maps to. -/
theorem mem_values (value : ν) : value ∈ map.values ↔ ∃ key, map.get key = some value := by
  simp only [values, List.mem_map, Prod.exists, ← mem_entries]
  constructor
  · rintro ⟨key, stored, mem, rfl⟩
    exact ⟨key, mem⟩
  · rintro ⟨key, mem⟩
    exact ⟨key, value, mem, rfl⟩

theorem isEmpty_iff : map.isEmpty = true ↔ ∀ key, map.get key = none := by
  -- A map with an entry answers for the key of that entry.
  constructor
  · intro empty key
    have none_left : map.entries = [] := by simpa [isEmpty] using empty
    simp [get, none_left, lookup]
  · intro absent
    cases entries : map.entries with
    | nil => simp [isEmpty, entries]
    | cons entry rest =>
      have stored := (map.mem_entries entry.1 entry.2).mp (by simp [entries])
      simp [absent] at stored

/-! Maps with the same contents differ only in the order of their entries. -/

theorem equiv_refl : map ≈ map := fun _ => rfl

variable {left right : HashMap κ ν}

theorem equiv_symm (same : left ≈ right) : right ≈ left :=
  fun key => (same key).symm

theorem equiv_trans {first second third : HashMap κ ν} (left : first ≈ second)
    (right : second ≈ third) : first ≈ third := fun key => (left key).trans (right key)

theorem equiv_get (same : left ≈ right) (key : κ) : left.get key = right.get key := same key

/-- Equal contents are the same entries up to a permutation. -/
theorem perm_of_equiv (same : left ≈ right) : left.entries.Perm right.entries := by
  -- Both lists are duplicate-free and have the same members.
  apply (List.perm_ext_iff_of_nodup left.nodup.of_map right.nodup.of_map).mpr
  intro pair
  rcases pair with ⟨key, value⟩
  rw [mem_entries, mem_entries, same key]

/-- Maps with the same entries hold the same values under the same keys. -/
theorem equiv_of_perm (same : left.entries.Perm right.entries) : left ≈ right := by
  intro key
  refine Option.ext fun value => ?_
  rw [← mem_entries, ← mem_entries]
  exact same.mem_iff

section

variable (same : left ≈ right)

include same

theorem values_perm :
    left.values.Perm right.values := (perm_of_equiv same).map Prod.snd

theorem containsKey_of_equiv (key : κ) : left.containsKey key = right.containsKey key := by
  simp only [containsKey, equiv_get same key]

theorem insert_congr (key : κ) (value : ν) : left.insert key value ≈ right.insert key value := by
  intro other
  rw [get_insert, get_insert, same other]

theorem remove_congr (key : κ) : left.remove key ≈ right.remove key := by
  intro other
  rw [get_remove, get_remove, same other]

theorem update_congr (key : κ) (value : ν) : left.update key value ≈ right.update key value := by
  intro other
  rw [get_update, get_update, same other, same key]

end

/-! Maps that store every value under its own identity keep doing so. -/

variable {identity : ν → κ} {map : HashMap κ ν}

theorem keyed_iff :
    map.Keyed identity ↔ ∀ key value, map.get key = some value → key = identity value := by
  constructor
  · intro keyed key value stored
    exact keyed (key, value) ((map.mem_entries key value).mpr stored)
  · intro keyed entry mem
    exact keyed entry.1 entry.2 ((map.mem_entries entry.1 entry.2).mp mem)

omit [DecidableEq κ] in
@[simp] theorem keyed_empty (identity : ν → κ) : (empty : HashMap κ ν).Keyed identity := by
  simp [Keyed, empty]

theorem Keyed.insert (keyed : map.Keyed identity) (value : ν) :
    (map.insert (identity value) value).Keyed identity := by
  rw [keyed_iff] at keyed ⊢
  intro key stored found
  rw [get_insert] at found
  split at found
  · rename_i same
    cases found
    exact same
  · exact keyed key stored found

theorem Keyed.remove (keyed : map.Keyed identity) (key : κ) : (map.remove key).Keyed identity := by
  rw [keyed_iff] at keyed ⊢
  intro other stored found
  rw [get_remove] at found
  split at found
  · simp at found
  · exact keyed other stored found

/-- A value changed in place must keep the identity of the value it replaces. -/
theorem Keyed.update (keyed : map.Keyed identity) {old : ν} (stored : map.get key = some old)
    (same : identity value = identity old) : (map.update key value).Keyed identity := by
  rw [keyed_iff] at keyed ⊢
  intro other found_value found
  rw [get_update, stored] at found
  split at found
  · rename_i hit
    cases found
    rw [hit, same]
    exact keyed key old stored
  · exact keyed other found_value found

theorem Keyed.of_equiv (keyed : left.Keyed identity) (same : left ≈ right) :
    right.Keyed identity := by
  rw [keyed_iff] at keyed ⊢
  intro key value stored
  exact keyed key value ((same key).trans stored)

/-! Sizes change by at most one entry, and collecting loses nothing. -/

theorem remove_of_absent (map : HashMap κ ν) (absent : map.get key = none) :
    map.remove key ≈ map := by
  intro other
  by_cases same : other = key
  · simp [same, absent]
  · simp [get_remove, same]

/-- Removing a value that a filter drops leaves the filtered values as they are. -/
theorem values_remove_filter (map : HashMap κ ν) {kept : ν → Bool}
    (dropped : ∀ old, map.get key = some old → kept old = false) :
    (map.remove key).values.filter kept = map.values.filter kept := by
  simp only [values, remove, List.filter_map, List.filter_filter]
  -- An entry the filter keeps is not the one that is removed.
  refine congrArg (List.map Prod.snd) (List.filter_congr fun entry mem => ?_)
  by_cases same : entry.1 = key
  · have stored : map.get key = some entry.2 := by
      rw [← mem_entries, ← same]
      exact mem
    simp [same, dropped entry.2 stored]
  · simp [same]

/-- So does storing a value that the filter drops. -/
theorem values_insert_filter (map : HashMap κ ν) {kept : ν → Bool}
    (dropped : ∀ old, map.get key = some old → kept old = false) (ignored : kept value = false) :
    (map.insert key value).values.filter kept = map.values.filter kept := by
  have rest := map.values_remove_filter dropped
  simp only [values] at rest
  simp only [values, insert, List.map_cons, List.filter_cons, ignored, rest]
  rfl

/-- A value changed in place counts as before when the filter and the measure agree on it. -/
theorem values_update_filter_map {μ : Type w} (map : HashMap κ ν) {key : κ} {old value : ν}
    {kept : ν → Bool} {measure : ν → μ} (stored : map.get key = some old)
    (alike : kept value = kept old) (same : measure value = measure old) :
    ((map.update key value).values.filter kept).map measure =
      (map.values.filter kept).map measure := by
  simp only [values, update, List.map_map, List.filter_map]
  -- The entry that changes is the one that was stored.
  have here : ∀ entry ∈ map.entries, entry.1 = key → entry.2 = old := by
    intro entry mem place
    have found := (map.mem_entries entry.1 entry.2).mp mem
    rw [place, stored, Option.some.injEq] at found
    exact found.symm
  rw [List.filter_congr (q := kept ∘ Prod.snd) fun entry mem => ?_]
  · refine List.map_congr_left fun entry mem => ?_
    have inside := List.mem_of_mem_filter mem
    by_cases place : entry.1 = key
    · simp [place, same, here entry inside place]
    · simp [place]
  · by_cases place : entry.1 = key
    · simp [place, alike, here entry mem place]
    · simp [place]

theorem len_insert_of_absent (map : HashMap κ ν) (value : ν) (absent : map.get key = none) :
    (map.insert key value).len = map.len + 1 := by
  -- Nothing was dropped, so the new entry is the only difference.
  have kept := (perm_of_equiv (map.remove_of_absent absent)).length_eq
  simp [len, insert, kept]

/-- Iteration visits exactly the keys that lookups find. -/
theorem mem_keys (map : HashMap κ ν) (key : κ) : key ∈ map.keys ↔ (map.get key).isSome := by
  simp only [keys, List.mem_map, Prod.exists, exists_and_right, exists_eq_right, mem_entries,
    Option.isSome_iff_exists]

/-- A new key is visited besides the old ones. -/
theorem keys_insert_of_absent (map : HashMap κ ν) (value : ν) (absent : map.get key = none) :
    (map.insert key value).keys.Perm (key :: map.keys) := by
  simp only [keys, insert, List.map_cons]
  exact ((perm_of_equiv (map.remove_of_absent absent)).map Prod.fst).cons key

/-- A value that replaces another is visited under the same key. -/
theorem keys_insert_of_stored (map : HashMap κ ν) (value : ν) (stored : (map.get key).isSome) :
    (map.insert key value).keys.Perm map.keys := by
  -- Keys are visited once each, so it is enough that the same ones are found.
  apply (List.perm_ext_iff_of_nodup (map.insert key value).nodup map.nodup).mpr
  intro other
  show other ∈ (map.insert key value).keys ↔ other ∈ map.keys
  rw [mem_keys, mem_keys, get_insert]
  split
  · rename_i same
    rw [same]
    exact ⟨fun _ => stored, fun _ => rfl⟩
  · rfl

private theorem get_foldl_insert (pairs : List (κ × ν)) (map : HashMap κ ν)
    (nodup : (pairs.map Prod.fst).Nodup) (key : κ) :
    (pairs.foldl (fun map pair => map.insert pair.1 pair.2) map).get key =
      (lookup key pairs).or (map.get key) := by
  -- Each stored pair answers for its own key from then on, since no later pair repeats the key.
  induction pairs generalizing map with
  | nil => simp [lookup]
  | cons pair rest ih =>
    rcases pair with ⟨at_, value⟩
    simp only [List.map_cons, List.nodup_cons] at nodup
    rw [List.foldl_cons, ih _ nodup.2]
    by_cases same : at_ = key
    · subst at_
      have later : lookup key rest = none := by
        cases found : lookup key rest with
        | none => rfl
        | some stored =>
          exact absurd (List.mem_map.mpr ⟨_, lookup_mem found, rfl⟩) nodup.1
      simp [lookup, later]
    · simp [lookup, same, get_insert, Ne.symm same]

variable {pairs : List (κ × ν)}

/-- Collecting the entries of a map, in any order, rebuilds its contents. -/
theorem collect_perm (map : HashMap κ ν) (same : pairs.Perm map.entries) : collect pairs ≈ map := by
  intro key
  have nodup : (pairs.map Prod.fst).Nodup := (same.map Prod.fst).nodup_iff.mpr map.nodup
  have collected := get_foldl_insert pairs empty nodup key
  rw [collect, collected]
  -- A duplicate-free list answers for a key exactly when the pair is a member.
  cases found : map.get key with
  | some value =>
    simp [lookup_of_mem nodup (same.mem_iff.mpr ((map.mem_entries key value).mpr found))]
  | none =>
    cases listed : lookup key pairs with
    | none => simp
    | some value =>
      have stored := (map.mem_entries key value).mp (same.mem_iff.mp (lookup_mem listed))
      simp [found] at stored

/-- Storing a pair adds at most one entry. -/
theorem len_insert_le (map : HashMap κ ν) (key : κ) (value : ν) :
    (map.insert key value).len ≤ map.len + 1 := by
  have fewer := List.length_filter_le (fun entry => !decide (entry.1 = key)) map.entries
  simp only [len, insert, remove, List.length_cons]
  omega

/-- Storing pairs one after the other adds at most one entry for each. -/
theorem len_foldl_insert_le (pairs : List (κ × ν)) (map : HashMap κ ν) :
    (pairs.foldl (fun map pair => map.insert pair.1 pair.2) map).len ≤ map.len + pairs.length := by
  induction pairs generalizing map with
  | nil => simp
  | cons pair rest ih =>
    have grown := map.len_insert_le pair.1 pair.2
    have onward := ih (map.insert pair.1 pair.2)
    simp only [List.foldl_cons, List.length_cons]
    omega

/-- Storing pairs one after the other never yields more entries than pairs. -/
theorem len_collect_le (pairs : List (κ × ν)) : (collect pairs).len ≤ pairs.length := by
  simpa [collect, len, empty] using len_foldl_insert_le pairs empty

/-- A value that is found after storing pairs was listed with its key or found before. -/
theorem foldl_insert_mem
    (stored : (pairs.foldl (fun map pair => map.insert pair.1 pair.2) map).get key = some value) :
    (key, value) ∈ pairs ∨ map.get key = some value := by
  induction pairs generalizing map with
  | nil => exact .inr stored
  | cons pair rest ih =>
    rcases ih stored with mem | earlier
    · exact .inl (List.mem_cons_of_mem _ mem)
    · rw [get_insert] at earlier
      split at earlier
      · rename_i same
        cases earlier
        exact .inl (by simp [same])
      · exact .inr earlier

/-- Every collected value was listed with its key. -/
theorem collect_mem (stored : (collect pairs).get key = some value) : (key, value) ∈ pairs := by
  rcases foldl_insert_mem stored with mem | absent
  · exact mem
  · simp at absent

/-- Values collected under their own identities are stored under them. -/
theorem keyed_collect (identity : ν → κ) (values : List ν) :
    (collect (values.map fun value => (identity value, value))).Keyed identity := by
  rw [keyed_iff]
  intro key value stored
  have listed := collect_mem stored
  simp only [List.mem_map, Prod.mk.injEq] at listed
  obtain ⟨_, _, same, rfl⟩ := listed
  exact same.symm

/-- Collecting the values of a map under their own identities rebuilds the map. -/
theorem collect_values (map : HashMap κ ν) (keyed : map.Keyed identity) :
    collect (map.values.map fun value => (identity value, value)) ≈ map := by
  -- Every entry is rebuilt from its value alone.
  apply collect_perm
  have rebuilt : map.values.map (fun value => (identity value, value)) = map.entries := by
    rw [values, List.map_map]
    conv => rhs; rw [← List.map_id map.entries]
    exact List.map_congr_left fun entry mem => by
      simp only [Function.comp, id]
      rw [← keyed entry mem]
  rw [rebuilt]

end HashMap

end Rust
