import ColdStore.Cache.Accounting
import ColdStore.Rust.Highest
import Mathlib.Data.List.Induction

/-! The index of a cache that starts over stored objects, and what it makes of duplicates. -/

namespace ColdStore

open Rust

/-- The key an entry is found by. -/
def StoredEntry.cacheKey (entry : StoredEntry) : CacheKey :=
  ⟨entry.xattrs.bucket, entry.xattrs.key, entry.xattrs.versionId⟩

/-- The later of two stored objects is that cached later, or else that of the larger identifier. -/
def StoredEntry.rank (entry : StoredEntry) : Int ×ₗ Nat :=
  toLex (entry.xattrs.cachedAt, entry.storageId)

def rebuiltEntryShouldReplace (current candidate : StoredEntry) : Bool :=
  decide (current.rank < candidate.rank)

/-- An index as far as it is rebuilt, and the identifiers of the objects to delete. -/
structure Rebuilding where
  index : CacheIndex := {}
  staleStorageIds : List Nat := []

/-- Enter a listed object, unless there is a later one under its key. -/
def Rebuilding.enter (rebuilding : Rebuilding) (entry : StoredEntry) : Rebuilding :=
  let kind := entry.xattrs.category
  let entries := rebuilding.index.entries kind
  let index := rebuilding.index.setEntries kind (entries.insert entry.cacheKey entry)
  match entries.get entry.cacheKey with
  | some current =>
    if rebuiltEntryShouldReplace current entry then
      ⟨index, rebuilding.staleStorageIds ++ [current.storageId]⟩
    else { rebuilding with staleStorageIds := rebuilding.staleStorageIds ++ [entry.storageId] }
  | none => { rebuilding with index }

/-- The index of a listing, and the identifiers of the objects to delete. -/
def rebuilt (listed : List (Nat × CacheXattrs)) : Rebuilding :=
  let rebuilding := (listed.map fun (storageId, xattrs) => ⟨storageId, xattrs⟩).foldl
    Rebuilding.enter {}
  { rebuilding with index := rebuilding.index.recomputeUsedCapacity }

section

variable {σ : Type} [CacheBackend σ]

/-- Delete stored objects one after the other, whether or not each deletion succeeds. -/
def deleteStale (backend : σ) (storageIds : List Nat) : σ :=
  storageIds.foldl (fun backend storageId => (CacheBackend.delete backend storageId).2) backend

/-- Start over what the storage lists. -/
def CacheState.rebuildIndex (s : CacheState σ) : Except String Unit × CacheState σ :=
  match CacheBackend.listAll s.backend with
  | .error error => (.error error, s)
  | .ok listed =>
    let rebuilding := rebuilt listed
    (.ok (), ⟨deleteStale s.backend rebuilding.staleStorageIds, rebuilding.index⟩)

end

/-! Entries by category and key. -/

/-- Where an entry belongs. -/
def StoredEntry.place (entry : StoredEntry) : CacheCategory × CacheKey :=
  (entry.xattrs.category, entry.cacheKey)

namespace CacheIndex

/-- The entries of both categories. -/
def all (index : CacheIndex) : List StoredEntry := index.staging.values ++ index.restored.values

/-- Every entry is where it belongs. -/
def Placed (index : CacheIndex) : Prop :=
  ∀ kind key entry, (index.entries kind).get key = some entry → entry.place = (kind, key)

theorem mem_all (index : CacheIndex) (entry : StoredEntry) :
    entry ∈ index.all ↔ ∃ kind key, (index.entries kind).get key = some entry := by
  rw [all, List.mem_append, HashMap.mem_values, HashMap.mem_values]
  constructor
  · intro inside
    rcases inside with ⟨key, stored⟩ | ⟨key, stored⟩
    · exact ⟨.staging, key, stored⟩
    · exact ⟨.restored, key, stored⟩
  · intro ⟨kind, key, stored⟩
    cases kind with
    | staging => exact .inl ⟨key, stored⟩
    | restored => exact .inr ⟨key, stored⟩

/-- An entry that belongs somewhere is found there. -/
theorem Placed.get_iff {index : CacheIndex} (placed : index.Placed) (kind : CacheCategory)
    (key : CacheKey) (entry : StoredEntry) :
    (index.entries kind).get key = some entry ↔ entry ∈ index.all ∧ entry.place = (kind, key) := by
  constructor
  · intro stored
    exact ⟨(index.mem_all entry).mpr ⟨kind, key, stored⟩, placed kind key entry stored⟩
  · intro ⟨inside, belongs⟩
    obtain ⟨other, place, stored⟩ := (index.mem_all entry).mp inside
    rw [placed other place entry stored] at belongs
    cases belongs
    exact stored

/-- New values for one category stand beside the entries that stay. -/
theorem all_setEntries (index : CacheIndex) {kind : CacheCategory}
    {entries : HashMap CacheKey StoredEntry} {before after stay : List StoredEntry}
    (apart : (index.entries kind).values.Perm (before ++ stay))
    (beside : entries.values.Perm (after ++ stay)) :
    ∃ others, index.all.Perm (before ++ others) ∧
      (index.setEntries kind entries).all.Perm (after ++ others) := by
  cases kind with
  | staging =>
    refine ⟨stay ++ index.restored.values, ?_, ?_⟩
    · rw [← List.append_assoc]
      exact apart.append_right _
    · rw [← List.append_assoc]
      exact beside.append_right _
  | restored =>
    -- The restored entries come last, so the staged ones are passed over.
    refine ⟨stay ++ index.staging.values, ?_, ?_⟩
    · rw [← List.append_assoc]
      exact (apart.append_left _).trans List.perm_append_comm
    · rw [← List.append_assoc]
      exact (beside.append_left _).trans List.perm_append_comm

theorem Placed.insert {index : CacheIndex} (placed : index.Placed) (entry : StoredEntry) :
    (index.setEntries entry.xattrs.category
      ((index.entries entry.xattrs.category).insert entry.cacheKey entry)).Placed := by
  intro kind key other stored
  rw [entries_setEntries] at stored
  -- Only the place of the new entry is written, and the entry belongs there.
  by_cases same : kind = entry.xattrs.category
  · rw [if_pos same, HashMap.get_insert] at stored
    by_cases here : key = entry.cacheKey
    · rw [if_pos here] at stored
      obtain rfl := Option.some.inj stored
      rw [same, here, StoredEntry.place]
    · rw [if_neg here, ← same] at stored
      exact placed kind key other stored
  · rw [if_neg same] at stored
    exact placed kind key other stored

end CacheIndex

/-! Entering one listed object after the other. -/

/-- The listed objects are entered or marked for deletion, the latest of each key being entered. -/
structure Rebuilding.Sorts (rebuilding : Rebuilding) (listed : List StoredEntry) : Prop where
  placed : rebuilding.index.Placed
  highest : ∃ dropped, Highest StoredEntry.place StoredEntry.rank listed rebuilding.index.all dropped ∧
    rebuilding.staleStorageIds = dropped.map StoredEntry.storageId

namespace Rebuilding

theorem Sorts.enter {rebuilding : Rebuilding} {listed : List StoredEntry}
    (sorts : rebuilding.Sorts listed) (entry : StoredEntry) :
    (rebuilding.enter entry).Sorts (listed ++ [entry]) := by
  obtain ⟨dropped, highest, stale⟩ := sorts.highest
  have placed := sorts.placed.insert entry
  have found := sorts.placed.get_iff entry.xattrs.category entry.cacheKey
  simp only [Rebuilding.enter]
  cases stored : (rebuilding.index.entries entry.xattrs.category).get entry.cacheKey with
  | none =>
    -- No entry belongs where the new one does.
    have new : entry.place ∉ rebuilding.index.all.map StoredEntry.place := by
      intro taken
      obtain ⟨other, inside, same⟩ := List.mem_map.mp taken
      have there := (found other).mpr ⟨inside, same⟩
      rw [stored] at there
      cases there
    obtain ⟨others, before, after⟩ := @CacheIndex.all_setEntries rebuilding.index
      entry.xattrs.category _ [] [entry] _ .rfl (HashMap.values_insert_absent _ entry stored)
    exact ⟨placed, dropped, (highest.fresh new).kept_perm ((before.cons entry).trans after.symm),
      stale⟩
  | some current =>
    obtain ⟨inside, same⟩ := (found current).mp stored
    cases later : rebuiltEntryShouldReplace current entry with
    | true =>
      simp only [later, if_true]
      obtain ⟨others, before, after⟩ := @CacheIndex.all_setEntries rebuilding.index
        entry.xattrs.category _ [current] [entry] _ (HashMap.values_perm_remove _ stored)
        (HashMap.values_insert_perm _ entry.cacheKey entry)
      refine ⟨placed, dropped ++ [current], ?_, ?_⟩
      · exact (highest.higher before same (of_decide_eq_true later).le).kept_perm after.symm
      · rw [List.map_append, ← stale]
        rfl
    | false =>
      simp only [later, Bool.false_eq_true, if_false]
      refine ⟨sorts.placed, dropped ++ [entry], ?_, ?_⟩
      · exact highest.lower inside same (not_lt.mp (of_decide_eq_false later))
      · rw [List.map_append, ← stale]
        rfl

/-- By induction on the listing, from its end. -/
theorem sorts_foldl (listed : List StoredEntry) : (listed.foldl enter {}).Sorts listed := by
  induction listed using List.reverseRecOn with
  | nil =>
    exact ⟨fun kind _ _ stored => by (cases kind <;> cases stored), ⟨[], .nil, rfl⟩⟩
  | append_singleton listed entry ih =>
    rw [List.foldl_concat]
    exact ih.enter entry

end Rebuilding

/-- The entries that a listing describes. -/
def listedEntries (listed : List (Nat × CacheXattrs)) : List StoredEntry :=
  listed.map fun (storageId, xattrs) => ⟨storageId, xattrs⟩

/-- What is rebuilt sorts out the whole listing. -/
theorem sorts_rebuilt (listed : List (Nat × CacheXattrs)) :
    (rebuilt listed).Sorts (listedEntries listed) := by
  have sorts := Rebuilding.sorts_foldl (listedEntries listed)
  refine ⟨fun kind key entry stored => ?_, sorts.highest⟩
  rw [rebuilt, CacheIndex.entries_recomputeUsedCapacity] at stored
  exact sorts.placed kind key entry stored

end ColdStore
