import ColdStore.Cache.Laws
import ColdStore.Process.Lifetime

/-! What calls do to staged objects, over any storage that keeps apart what it was given. -/

namespace ColdStore

open Rust

/-- The calls that change a cache. -/
inductive CacheCall where
  | putBytes (now : Int) (key : CacheKey) (data : Bytes) (xattrs : CacheXattrs)
  | get (now : Int) (key : CacheKey)
  | contains (now : Int) (key : CacheKey)
  | delete (key : CacheKey)
  | deleteStaging (key : CacheKey)
  | reclaimExpiredRestored (now : Int)

section

variable {σ : Type} [CacheBackend σ]

/-- The cache after a call, whether it failed or not. -/
def CacheService.perform (svc : CacheService) (s : CacheState σ) :
    CacheCall → CacheState σ
  | .putBytes now key data xattrs => (svc.putBytes now s key data xattrs).2
  | .get now key => (s.get now key).2
  | .contains now key => (s.contains now key).2
  | .delete key => (s.delete key).2
  | .deleteStaging key => (s.deleteStaging key).2
  | .reclaimExpiredRestored now => s.reclaimExpiredRestoredExcept now none

/-- One allowed call. -/
def CacheService.Performs (svc : CacheService) (allowed : CacheState σ → CacheCall → Prop)
    (before after : CacheState σ) : Prop :=
  ∃ call, allowed before call ∧ svc.perform before call = after

end

/--
A storage whose operations touch the object they name and no other.

Any operation may fail. No identifier is given twice, not even when its object is gone.
-/
class StorageLaws (σ : Type) [CacheBackend σ] where
  /-- The object an identifier stands for. -/
  object : σ → Nat → Option Bytes
  /-- The identifiers that were given so far. -/
  issued : σ → Nat → Prop
  write_fresh : ∀ {backend : σ} {key data xattrs id},
    (CacheBackend.write backend key data xattrs).1 = .ok id → ¬ issued backend id
  write_stored : ∀ {backend : σ} {key data xattrs id},
    (CacheBackend.write backend key data xattrs).1 = .ok id →
      issued (CacheBackend.write backend key data xattrs).2 id ∧
      object (CacheBackend.write backend key data xattrs).2 id = some data
  write_others : ∀ {backend : σ} {key data xattrs other}, issued backend other →
    issued (CacheBackend.write backend key data xattrs).2 other ∧
    object (CacheBackend.write backend key data xattrs).2 other = object backend other
  delete_others : ∀ {backend : σ} {id other}, issued backend other →
    issued (CacheBackend.delete backend id).2 other ∧
    (other ≠ id → object (CacheBackend.delete backend id).2 other = object backend other)

/-- Files of other identifiers are left alone, and identifiers count up. -/
instance : StorageLaws HddBackend where
  object backend id := (backend.files.get id).map HddFile.data
  issued backend id := id < backend.nextId
  write_fresh := by
    rintro backend key data xattrs id ⟨⟩
    exact lt_irrefl _
  write_stored := by
    rintro backend key data xattrs id ⟨⟩
    exact ⟨Nat.lt_succ_self _, by simp [CacheBackend.write, HddBackend.write]⟩
  write_others := by
    intro backend key data xattrs other given
    refine ⟨Nat.lt_succ_of_lt given, ?_⟩
    simp only [CacheBackend.write, HddBackend.write]
    rw [HashMap.get_insert_ne _ _ (Nat.ne_of_lt given)]
  delete_others := by
    intro backend id other given
    cases stored : backend.files.get id with
    | none =>
      rw [CacheState.delete_missing stored]
      exact ⟨given, fun _ => rfl⟩
    | some file =>
      rw [CacheState.delete_stored stored]
      exact ⟨given, fun ne => by rw [HashMap.get_remove_ne _ ne]⟩

namespace CacheState

open StorageLaws

variable {σ : Type} [CacheBackend σ] [StorageLaws σ]

/-- Every entry has an identifier of its own. -/
structure Separate (s : CacheState σ) : Prop where
  given : ∀ kind key entry, s.findEntry key kind = some entry → issued s.backend entry.storageId
  apart : ∀ kind key entry kind' key' entry',
    s.findEntry key kind = some entry → s.findEntry key' kind' = some entry' →
      entry.storageId = entry'.storageId → kind = kind' ∧ key = key'

/-- Nothing new is entered, and staged objects stay as they are, but for one that may go. -/
structure Thinned (gone : CacheKey → Prop) (before after : CacheState σ) : Prop where
  older : ∀ kind key entry, after.findEntry key kind = some entry →
    ∃ old, before.findEntry key kind = some old ∧ old.storageId = entry.storageId
  given : ∀ id, issued before.backend id → issued after.backend id
  staging : ∀ key, ¬ gone key → after.findEntry key .staging = before.findEntry key .staging
  stored : ∀ key entry, ¬ gone key → before.findEntry key .staging = some entry →
    object after.backend entry.storageId = object before.backend entry.storageId

namespace Thinned

variable {gone : CacheKey → Prop} {first second third : CacheState σ}

theorem refl (s : CacheState σ) : Thinned gone s s :=
  ⟨fun _ _ entry found => ⟨entry, found, rfl⟩, fun _ given => given, fun _ _ => rfl,
    fun _ _ _ _ => rfl⟩

theorem trans (left : Thinned gone first second) (right : Thinned gone second third) :
    Thinned gone first third where
  older kind key entry found := by
    obtain ⟨middle, was, same⟩ := right.older kind key entry found
    obtain ⟨old, before, same'⟩ := left.older kind key middle was
    exact ⟨old, before, same'.trans same⟩
  given id given := right.given id (left.given id given)
  staging key stays := (right.staging key stays).trans (left.staging key stays)
  stored key entry stays found := by
    have still := (left.staging key stays).trans found
    exact (right.stored key entry stays still).trans (left.stored key entry stays found)

theorem separate (thinned : Thinned gone first second) (separate : first.Separate) :
    second.Separate where
  given kind key entry found := by
    obtain ⟨old, was, same⟩ := thinned.older kind key entry found
    rw [← same]
    exact thinned.given _ (separate.given kind key old was)
  apart kind key entry kind' key' entry' found found' shared := by
    obtain ⟨old, was, same⟩ := thinned.older kind key entry found
    obtain ⟨old', was', same'⟩ := thinned.older kind' key' entry' found'
    exact separate.apart _ _ _ _ _ _ was was' (by rw [same, same', shared])

theorem mono {more : CacheKey → Prop} (thinned : Thinned gone first second)
    (implies : ∀ key, gone key → more key) : Thinned more first second where
  older := thinned.older
  given := thinned.given
  staging key stays := thinned.staging key fun lost => stays (implies key lost)
  stored key entry stays := thinned.stored key entry fun lost => stays (implies key lost)

/-- A change of the index that keeps identifiers and staged entries thins nothing out. -/
theorem of_index {index : CacheIndex} (staging : index.staging = first.index.staging)
    (restored : ∀ key entry, index.restored.get key = some entry →
      ∃ old, first.index.restored.get key = some old ∧ old.storageId = entry.storageId) :
    Thinned gone first { first with index } where
  older kind key entry found := by
    cases kind with
    | staging =>
      refine ⟨entry, ?_, rfl⟩
      simpa [CacheState.findEntry, CacheIndex.entries, staging] using found
    | restored => exact restored key entry found
  given _ given := given
  staging key _ := by simp [CacheState.findEntry, CacheIndex.entries, staging]
  stored _ _ _ _ := rfl

/-- A backend that only deleted the object of an entry thins nothing out but that entry. -/
theorem of_delete (separate : first.Separate) {kind : CacheCategory} {key : CacheKey}
    {entry : StoredEntry} (found : first.findEntry key kind = some entry)
    (may : kind = .staging → gone key) :
    Thinned gone first
      { first with backend := (CacheBackend.delete first.backend entry.storageId).2 } where
  older _ _ other there := ⟨other, there, rfl⟩
  given id given := (delete_others given).1
  staging _ _ := rfl
  stored place kept stays there := by
    refine (delete_others (separate.given _ _ _ there)).2 fun shared => stays ?_
    obtain ⟨rfl, rfl⟩ := separate.apart _ _ _ _ _ _ there found shared
    exact may rfl

/-- So does a backend that wrote another object. -/
theorem of_write (separate : first.Separate) (key : String) (data : Bytes) (xattrs : CacheXattrs) :
    Thinned gone first
      { first with backend := (CacheBackend.write first.backend key data xattrs).2 } where
  older _ _ entry found := ⟨entry, found, rfl⟩
  given _ given := (write_others given).1
  staging _ _ := rfl
  stored _ _ _ found := (write_others (separate.given _ _ _ found)).2

/-- An index without an entry has nothing new. -/
theorem of_removeEntry {kind : CacheCategory} {key : CacheKey} (may : kind = .staging → gone key) :
    Thinned gone first { first with index := first.index.removeEntry kind key } where
  older other place kept found := by
    simp only [CacheState.findEntry, CacheIndex.entries_removeEntry] at found
    split at found
    · rename_i same
      subst same
      rw [HashMap.get_remove] at found
      split at found
      · cases found
      · exact ⟨kept, found, rfl⟩
    · exact ⟨kept, found, rfl⟩
  given _ given := given
  staging place stays := by
    simp only [CacheState.findEntry, CacheIndex.entries_removeEntry]
    split
    · rename_i same
      have other : place ≠ key := by
        -- A staged object is taken out only when it is one of those that may go.
        rintro rfl
        exact stays (may same.symm)
      rw [← same, HashMap.get_remove_ne _ other]
    · rfl
  stored _ _ _ _ := rfl

end Thinned

variable {gone : CacheKey → Prop} {s : CacheState σ}

variable (separate : s.Separate)

include separate

/-- A deletion thins out one entry at most. -/
theorem deleteEntry_thinned {key : CacheKey} {kind : CacheCategory}
    (may : kind = .staging → gone key) : Thinned gone s (s.deleteEntry key kind).2 := by
  simp only [deleteEntry]
  split
  · exact .refl s
  · rename_i entry found
    have deleted := Thinned.of_delete separate found may
    split
    -- A failed deletion leaves the entry, and one that succeeds takes it out if it is still there.
    · rename_i backend failed
      rw [failed] at deleted
      exact deleted
    · rename_i backend done
      rw [done] at deleted
      split
      · exact deleted.trans (.of_removeEntry may)
      · exact deleted

theorem deleteAnswered_thinned {key : CacheKey} {kind : CacheCategory}
    (may : kind = .staging → gone key) : Thinned gone s (s.deleteAnswered key kind).2 := by
  have deleted := deleteEntry_thinned separate may
  simp only [deleteAnswered]
  split <;> rename_i result <;> rw [result] at deleted <;> exact deleted

end CacheState

namespace CacheService

open CacheState StorageLaws

variable {σ : Type} [CacheBackend σ] [StorageLaws σ] {gone : CacheKey → Prop}
  {s : CacheState σ} (svc : CacheService)

/-- An eviction takes out a restored object, or puts it back where it was. -/
theorem evict_thinned (separate : s.Separate) {key : CacheKey} {victim : StoredEntry}
    (found : s.index.restored.get key = some victim) :
    Thinned gone s (evict s .restored key victim).2 := by
  have there : s.findEntry key .restored = some victim := found
  have deleted : Thinned gone s _ :=
    .of_delete separate there fun staging => by cases staging
  simp only [evict]
  split <;> rename_i backend result <;> rw [result] at deleted
  -- The victim is gone from the index when its file is.
  · refine deleted.trans (.of_index rfl fun place entry there => ⟨entry, ?_, rfl⟩)
    have kept : (s.index.restored.remove key).get place = some entry := there
    rw [HashMap.get_remove] at kept
    split at kept
    · cases kept
    · exact kept
  · refine deleted.trans (.of_index rfl fun place entry there => ⟨entry, ?_, rfl⟩)
    -- A victim that could not be deleted is back under its own key.
    have kept : ((s.index.restored.remove key).insert key victim).get place = some entry := there
    rw [HashMap.get_insert] at kept
    split at kept
    · rename_i same
      rw [same]
      exact found.trans kept
    · rename_i ne
      rwa [HashMap.get_remove_ne _ ne] at kept

/-- Accesses to restored objects thin out those only. -/
theorem Thinned.upheld (separate : s.Separate) : Upheld (Thinned gone s) where
  deleteEntry key thinned := thinned.trans
    (deleteEntry_thinned (thinned.separate separate) fun staging => by cases staging)
  updateHitState hit thinned := by
    refine thinned.trans (.of_index (by cases hit <;> rfl) fun _ entry found => ⟨entry, ?_, rfl⟩)
    cases hit <;> exact found
  touchEntry now key thinned := by
    refine thinned.trans (.of_index (CacheIndex.staging_touchEntry now key)
      fun place entry found => ?_)
    obtain ⟨old, was, same, _⟩ :=
      @SameUnmarked.exists_old .restored _ _ _ _ (sameUnmarked_touchEntry _ now key) _ found
    exact ⟨old, was, same⟩
  evict thinned found := thinned.trans (evict_thinned (thinned.separate separate) found)

end CacheService

namespace CacheState

open StorageLaws

variable {σ : Type} [CacheBackend σ] [StorageLaws σ] {s : CacheState σ}

/-- Of what was issued, at most the replaced object is deleted. -/
theorem replaceEntry_backend (s : CacheState σ) (key : CacheKey) (entry : StoredEntry)
    {id : Nat} (given : issued s.backend id) :
    issued (s.replaceEntry key entry).backend id ∧
      ((∀ old, s.findEntry key entry.xattrs.category = some old → id ≠ old.storageId) →
        object (s.replaceEntry key entry).backend id = object s.backend id) := by
  simp only [replaceEntry, CacheIndex.insertEntry]
  cases found : (s.index.entries entry.xattrs.category).get key with
  | none => exact ⟨given, fun _ => rfl⟩
  | some old =>
    dsimp only
    split
    -- The only file that can go is the one of the replaced entry.
    · have others : issued (CacheBackend.delete s.backend old.storageId).2 id ∧
          (id ≠ old.storageId → _) := delete_others given
      exact ⟨others.1, fun apart => others.2 (apart old found)⟩
    · exact ⟨given, fun _ => rfl⟩

/-- An object that was written beside the others. -/
structure Entered (key : CacheKey) (xattrs : CacheXattrs) (before after : CacheState σ) : Prop where
  separate : after.Separate
  staging : ∀ place entry, ¬ (xattrs.category = .staging ∧ place = key) →
    before.findEntry place .staging = some entry →
      after.findEntry place .staging = some entry ∧
      object after.backend entry.storageId = object before.backend entry.storageId

/-- Writing an object and entering it leaves the other objects alone. -/
theorem replaceEntry_entered (separate : s.Separate) (key : CacheKey) (data : Bytes)
    (xattrs : CacheXattrs) {id : Nat} {backend : σ}
    (written : CacheBackend.write s.backend key.asCursor data xattrs = (.ok id, backend)) :
    Entered key xattrs s (replaceEntry { s with backend } key ⟨id, xattrs⟩) := by
  have fresh : ¬ issued s.backend id := write_fresh (by rw [written])
  have new : issued backend id := by
    have stored := write_stored (show (CacheBackend.write s.backend key.asCursor data xattrs).1 =
      .ok id by rw [written])
    rw [written] at stored
    exact stored.1
  have others : ∀ other, issued s.backend other → issued backend other ∧
      object backend other = object s.backend other := by
    intro other given
    have kept : issued (CacheBackend.write s.backend key.asCursor data xattrs).2 other ∧ _ :=
      write_others given
    rwa [written] at kept
  -- Entries are the new one and the old ones, whose identifiers differ from the new one.
  have entries : ∀ kind place entry,
      (replaceEntry { s with backend } key ⟨id, xattrs⟩).findEntry place kind = some entry →
      (kind = xattrs.category ∧ place = key ∧ entry.storageId = id) ∨
        (¬ (kind = xattrs.category ∧ place = key) ∧ s.findEntry place kind = some entry) := by
    intro kind place entry found
    rw [replaceEntry_findEntry] at found
    split at found
    · rename_i same
      cases found
      exact .inl ⟨same.1, same.2, rfl⟩
    · rename_i ne
      exact .inr ⟨ne, found⟩
  refine ⟨⟨fun kind place entry found => ?_, ?_⟩, fun place entry ne found => ?_⟩
  · obtain ⟨_, _, rfl⟩ | ⟨_, was⟩ := entries kind place entry found
    · exact (replaceEntry_backend _ key ⟨entry.storageId, xattrs⟩ new).1
    · exact (replaceEntry_backend _ key ⟨id, xattrs⟩
        (others _ (separate.given kind place entry was)).1).1
  · intro kind place entry kind' place' entry' found found' shared
    obtain ⟨rfl, rfl, same⟩ | ⟨_, was⟩ := entries kind place entry found <;>
      obtain ⟨rfl, rfl, same'⟩ | ⟨_, was'⟩ := entries kind' place' entry' found'
    · exact ⟨rfl, rfl⟩
    · exact absurd (separate.given _ _ _ was') (by rwa [← shared, same])
    · exact absurd (separate.given _ _ _ was) (by rwa [shared, same'])
    · exact separate.apart _ _ _ _ _ _ was was' shared
  · have elsewhere : ¬ (CacheCategory.staging = xattrs.category ∧ place = key) :=
      fun same => ne ⟨same.1.symm, same.2⟩
    have kept := others _ (separate.given _ _ _ found)
    refine ⟨by rw [replaceEntry_findEntry, if_neg elsewhere]; exact found, ?_⟩
    refine ((replaceEntry_backend _ key ⟨id, xattrs⟩ kept.1).2 ?_).trans kept.2
    intro old replaced sharedId
    exact elsewhere (separate.apart _ _ _ _ _ _ found replaced sharedId)

end CacheState

namespace CacheService

open CacheState StorageLaws

variable {σ : Type} [CacheBackend σ] [StorageLaws σ] {s : CacheState σ} (svc : CacheService)

/-- A write enters its object, or fails after thinning out at most. -/
theorem putBytes_separated (separate : s.Separate) (now : Int) (key : CacheKey) (data : Bytes)
    (xattrs : CacheXattrs) :
    (∃ error, (svc.putBytes now s key data xattrs).1 = .error error ∧
      Thinned (fun _ => False) s (svc.putBytes now s key data xattrs).2) ∨
    (∃ id, (svc.putBytes now s key data xattrs).1 = .ok id ∧
      Entered key xattrs s (svc.putBytes now s key data xattrs).2) := by
  obtain ⟨middle, thinned, ⟨error, put⟩ | ⟨_, put⟩⟩ :=
    (Thinned.upheld separate).putBytes svc (.refl s) now key data xattrs
  · rw [put]
    exact .inl ⟨error, rfl, thinned⟩
  · rw [put]
    split
    · -- A write that fails may leave traces in the storage, but no other object is touched.
      rename_i error backend written
      have wrote : Thinned (fun _ => False) _ _ :=
        .of_write (thinned.separate separate) key.asCursor data xattrs
      rw [written] at wrote
      exact .inl ⟨error, rfl, thinned.trans wrote⟩
    · rename_i storageId backend written
      have entered := replaceEntry_entered (thinned.separate separate) key data xattrs written
      refine .inr ⟨storageId, rfl, entered.separate, fun place entry ne found => ?_⟩
      have still := (thinned.staging place id).trans found
      obtain ⟨there, same⟩ := entered.staging place entry ne still
      exact ⟨there, same.trans (thinned.stored place entry id found)⟩

/-- A call thins out at most the staged object it is meant to remove, or enters an object. -/
theorem perform_separated (separate : s.Separate) (call : CacheCall) :
    Thinned (fun key => call = .deleteStaging key) s (svc.perform s call) ∨
      ∃ now key data xattrs id, call = .putBytes now key data xattrs ∧
        (svc.putBytes now s key data xattrs).1 = .ok id ∧
        Entered key xattrs s (svc.perform s call) := by
  -- Every call but a successful write only thins the cache out.
  cases call with
  | putBytes now key data xattrs =>
    obtain ⟨_, _, thinned⟩ | ⟨id, ok, entered⟩ :=
      svc.putBytes_separated separate now key data xattrs
    · exact .inl (thinned.mono fun _ => False.elim)
    · exact .inr ⟨now, key, data, xattrs, id, rfl, ok, entered⟩
  | get now key => exact .inl ((Thinned.upheld separate).get (.refl s) now key)
  | contains now key => exact .inl ((Thinned.upheld separate).contains (.refl s) now key)
  | delete key => exact .inl (deleteAnswered_thinned separate fun staging => by cases staging)
  | deleteStaging key => exact .inl (deleteAnswered_thinned separate fun _ => rfl)
  | reclaimExpiredRestored now => exact .inl ((Thinned.upheld separate).reclaim (.refl s) now none)

end CacheService

end ColdStore
