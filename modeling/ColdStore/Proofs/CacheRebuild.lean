import ColdStore.Cache.Rebuild

/-! A rebuilt cache holds the latest of the stored objects of each key, and the others are deleted. -/

namespace ColdStore

open Rust

/-- The latest listed object of a category and key. -/
def IsLatest (listed : List StoredEntry) (kind : CacheCategory) (key : CacheKey)
    (entry : StoredEntry) : Prop := entry ∈ listed ∧ entry.place = (kind, key) ∧
    ∀ other ∈ listed, other.place = (kind, key) → other.rank ≤ entry.rank

section

variable {listed : List (Nat × CacheXattrs)}

theorem map_storageId_listedEntries (listed : List (Nat × CacheXattrs)) :
    (listedEntries listed).map StoredEntry.storageId = listed.map Prod.fst := by
  rw [listedEntries, List.map_map]
  rfl

/-- Different identifiers make different ranks. -/
theorem ranks_nodup (distinct : (listed.map Prod.fst).Nodup) :
    ((listedEntries listed).map StoredEntry.rank).Nodup := by
  refine List.Nodup.of_map (fun rank => (ofLex rank).2) ?_
  rw [List.map_map]
  rwa [← map_storageId_listedEntries] at distinct

/-- The entries of a rebuilt index are the latest ones. -/
theorem get_rebuilt (distinct : (listed.map Prod.fst).Nodup) (kind : CacheCategory)
    (key : CacheKey) (entry : StoredEntry) :
    ((rebuilt listed).index.entries kind).get key = some entry ↔
      IsLatest (listedEntries listed) kind key entry := by
  have sorts := sorts_rebuilt listed
  obtain ⟨dropped, highest, _⟩ := sorts.highest
  rw [sorts.placed.get_iff, highest.mem_kept_iff (ranks_nodup distinct), IsLatest, and_assoc]
  -- Both sides compare with the listed objects of the same place.
  constructor
  · intro kept
    obtain ⟨mem, latest, belongs⟩ := kept
    exact ⟨mem, belongs, fun other there same => latest other there (same.trans belongs.symm)⟩
  · intro last
    obtain ⟨mem, belongs, latest⟩ := last
    exact ⟨mem, fun other there same => latest other there (same.trans belongs), belongs⟩

/-- Every key that is listed has an entry. -/
theorem rebuilt_complete {entry : StoredEntry} (mem : entry ∈ listedEntries listed) :
    ∃ kept, ((rebuilt listed).index.entries entry.xattrs.category).get entry.cacheKey = some kept := by
  have sorts := sorts_rebuilt listed
  obtain ⟨dropped, highest, _⟩ := sorts.highest
  obtain ⟨kept, inside, same, _⟩ := highest.exists_kept mem
  exact ⟨kept, (sorts.placed.get_iff _ _ _).mpr ⟨inside, same⟩⟩

/-- Every listed object is entered or deleted. -/
theorem rebuilt_split (listed : List (Nat × CacheXattrs)) :
    (listed.map Prod.fst).Perm ((rebuilt listed).index.all.map StoredEntry.storageId ++
      (rebuilt listed).staleStorageIds) := by
  obtain ⟨dropped, highest, stale⟩ := (sorts_rebuilt listed).highest
  rw [stale, ← List.map_append, ← map_storageId_listedEntries]
  exact highest.split.map StoredEntry.storageId

theorem usedCapacity_rebuilt (listed : List (Nat × CacheXattrs)) :
    (rebuilt listed).index.usedCapacity = sumU64 (rebuilt listed).index.sizes := rfl

/-- The order of the listing does not matter. -/
theorem rebuilt_perm {relisted : List (Nat × CacheXattrs)} (distinct : (listed.map Prod.fst).Nodup)
    (same : relisted.Perm listed) :
    (∀ kind, (rebuilt relisted).index.entries kind ≈ (rebuilt listed).index.entries kind) ∧
      (rebuilt relisted).index.usedCapacity = (rebuilt listed).index.usedCapacity ∧
      (rebuilt relisted).staleStorageIds.Perm (rebuilt listed).staleStorageIds := by
  have sorts := sorts_rebuilt listed
  have sorts' := sorts_rebuilt relisted
  obtain ⟨dropped, highest, stale⟩ := sorts.highest
  obtain ⟨dropped', highest', stale'⟩ := sorts'.highest
  have entries : (listedEntries relisted).Perm (listedEntries listed) := same.map _
  -- The highest of each group do not depend on the order, as no two entries rank the same.
  obtain ⟨keptSame, droppedSame⟩ := highest.perm_of_perm highest' entries (ranks_nodup distinct)
  refine ⟨fun kind key => ?_, ?_, ?_⟩
  · refine Option.ext fun entry => ?_
    rw [sorts'.placed.get_iff, sorts.placed.get_iff, keptSame.mem_iff]
  · have sizes : (rebuilt relisted).index.sizes.Perm (rebuilt listed).index.sizes := keptSame.map _
    rw [usedCapacity_rebuilt, usedCapacity_rebuilt, sumU64, sumU64, sizes.sum_nat]
  · rw [stale, stale']
    exact droppedSame.map StoredEntry.storageId

end

/-! What is stored after the deletions. -/

/-- Deletions take away the object they name and no other, unless they fail. -/
structure DeletesNamed {σ : Type} [CacheBackend σ] (obj : σ → Nat → Option Bytes) : Prop where
  others : ∀ backend id other, other ≠ id →
    obj (CacheBackend.delete backend id).2 other = obj backend other
  gone : ∀ backend id, (CacheBackend.delete backend id).1 = .ok () →
    obj (CacheBackend.delete backend id).2 id = none

/-- The files of a directory are deleted that way. -/
theorem HddBackend.deletesNamed : DeletesNamed fun (backend : HddBackend) id =>
    (backend.files.get id).map HddFile.data where
  others backend id other ne := by
    cases stored : backend.files.get id with
    | none => rw [CacheState.delete_missing stored]
    | some file => rw [CacheState.delete_stored stored, HashMap.get_remove_ne _ ne]
  gone backend id ok := by
    cases stored : backend.files.get id with
    | none =>
      rw [CacheState.delete_missing stored] at ok
      cases ok
    | some file => rw [CacheState.delete_stored stored, HashMap.get_remove_self, Option.map_none]

section

variable {σ : Type} [CacheBackend σ] {obj : σ → Nat → Option Bytes} (deletes : DeletesNamed obj)

include deletes

/-- What is not to be deleted stays. -/
theorem object_deleteStale {ids : List Nat} {id : Nat} (kept : id ∉ ids) (backend : σ) :
    obj (deleteStale backend ids) id = obj backend id := by
  induction ids generalizing backend with
  | nil => rfl
  | cons first rest ih =>
    simp only [List.mem_cons, not_or] at kept
    exact (ih kept.2 _).trans (deletes.others backend first id kept.1)

/-- What is deleted in its turn is gone. -/
theorem object_deleteStale_gone {before after : List Nat} {id : Nat} {backend : σ}
    (nodup : (before ++ id :: after).Nodup)
    (ok : (CacheBackend.delete (deleteStale backend before) id).1 = .ok ()) :
    obj (deleteStale backend (before ++ id :: after)) id = none := by
  have once : id ∉ after := (List.nodup_cons.mp (List.nodup_append.mp nodup).2.1).1
  have split : deleteStale backend (before ++ id :: after) =
      deleteStale (CacheBackend.delete (deleteStale backend before) id).2 after := by
    rw [deleteStale, List.foldl_append]
    rfl
  rw [split, object_deleteStale deletes once]
  exact deletes.gone _ id ok

end

/--
A cache that starts over objects with different identifiers has the latest of each category and key
in its index. Every listed object is in the index or deleted, and no object is both. The used
capacity counts the objects in the index, in 64 bits.

In a storage that deletes what it is told to, the objects of the index are stored as before, and each
of the others is gone unless its deletion failed. The index and what is deleted do not depend on the
order in which the objects are listed.
-/
theorem rebuild_keeps_latest {σ : Type} [CacheBackend σ] (s : CacheState σ)
    (listed : List (Nat × CacheXattrs)) (lists : CacheBackend.listAll s.backend = .ok listed)
    (distinct : (listed.map Prod.fst).Nodup) :
    s.rebuildIndex = (.ok (),
      ⟨deleteStale s.backend (rebuilt listed).staleStorageIds, (rebuilt listed).index⟩) ∧
    (∀ kind key entry, ((rebuilt listed).index.entries kind).get key = some entry ↔
      IsLatest (listedEntries listed) kind key entry) ∧
    (∀ entry ∈ listedEntries listed, ∃ kept,
      ((rebuilt listed).index.entries entry.xattrs.category).get entry.cacheKey = some kept) ∧
    (listed.map Prod.fst).Perm ((rebuilt listed).index.all.map StoredEntry.storageId ++
      (rebuilt listed).staleStorageIds) ∧
    (rebuilt listed).index.usedCapacity = sumU64 (rebuilt listed).index.sizes ∧
    ((rebuilt listed).index.sizes.sum ≤ u64Max →
      (rebuilt listed).index.usedCapacity = (rebuilt listed).index.sizes.sum) ∧
    (∀ obj : σ → Nat → Option Bytes, DeletesNamed obj →
      (∀ id ∉ (rebuilt listed).staleStorageIds,
        obj s.rebuildIndex.2.backend id = obj s.backend id) ∧
      ∀ before id after, (rebuilt listed).staleStorageIds = before ++ id :: after →
        (CacheBackend.delete (deleteStale s.backend before) id).1 = .ok () →
          obj s.rebuildIndex.2.backend id = none) ∧
    (∀ relisted : List (Nat × CacheXattrs), relisted.Perm listed →
      (∀ kind, (rebuilt relisted).index.entries kind ≈ (rebuilt listed).index.entries kind) ∧
      (rebuilt relisted).index.usedCapacity = (rebuilt listed).index.usedCapacity ∧
      (rebuilt relisted).staleStorageIds.Perm (rebuilt listed).staleStorageIds) := by
  have rebuilds : s.rebuildIndex = (.ok (),
      ⟨deleteStale s.backend (rebuilt listed).staleStorageIds, (rebuilt listed).index⟩) := by
    rw [CacheState.rebuildIndex, lists]
  refine ⟨rebuilds, get_rebuilt distinct, fun entry => rebuilt_complete, rebuilt_split listed,
    usedCapacity_rebuilt listed, fun small => ?_, fun obj deletes => ?_,
    fun relisted => rebuilt_perm distinct⟩
  · -- Sizes that fit a word together are not reduced.
    rw [usedCapacity_rebuilt, sumU64, Nat.mod_eq_of_lt (Nat.lt_of_le_of_lt small (by decide))]
  · rw [rebuilds]
    refine ⟨fun id kept => object_deleteStale deletes kept _, fun before id after stale ok => ?_⟩
    -- Listed identifiers are different, and so are those on the list of deletions.
    have nodup := (List.nodup_append.mp ((rebuilt_split listed).nodup_iff.mp distinct)).2.1
    rw [stale] at nodup ⊢
    exact object_deleteStale_gone deletes nodup ok

/-- One object that was stored twice, the second time later. -/
def storedTwice : CacheState HddBackend where
  backend :=
    { files := ⟨[(1, ⟨⟨"docs", "a", none, 1, 0, 7, 7, 0, none, none, none, .staging⟩, [1]⟩),
        (2, ⟨⟨"docs", "a", none, 2, 0, 5, 5, 0, none, none, none, .staging⟩, [2, 2]⟩)], by decide⟩
      maxSizeBytes := 100
      nextId := 3 }
  index := {}

/-- The object that was stored first has the later time, and stays. The other file is deleted. -/
theorem rebuild_keeps_latest_storedTwice :
    storedTwice.rebuildIndex.2.index.usedCapacity = 1 ∧
      (storedTwice.rebuildIndex.2.index.staging.get ⟨"docs", "a", none⟩).map
        StoredEntry.storageId = some 1 ∧
      (storedTwice.rebuildIndex.2.backend.files.get 1).map HddFile.data = some [1] ∧
      (storedTwice.rebuildIndex.2.backend.files.get 2).map HddFile.data = none := by
  obtain ⟨rebuilds, _, _, _, _, _, stored, _⟩ := rebuild_keeps_latest storedTwice _ rfl (by decide)
  obtain ⟨kept, gone⟩ := stored _ HddBackend.deletesNamed
  refine ⟨?_, ?_, kept 1 (by decide), gone [] 2 [] (by decide) (by decide)⟩
  · rw [rebuilds]
    decide
  · rw [rebuilds]
    decide

end ColdStore
