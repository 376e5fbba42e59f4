import ColdStore.Metadata.Queries
import ColdStore.Proofs.Catalogue

/-! Which objects that can be read can be deleted, and which buckets can be emptied. -/

namespace ColdStore

open Rust

section

variable (clock : Nat) (s : MetadataState) (bucket key : String)

/-- A deletion takes away the record without a version, if there is one. -/
theorem get_deleteObject (place : ObjectKey) :
    (applyCommand clock s (.deleteObject ⟨bucket, key⟩)).2.objects.get place =
      if place = ⟨bucket, key, none⟩ then none else s.objects.get place := by
  simp only [applyCommand, deleteObject]
  by_cases stored : s.objects.containsKey ⟨bucket, key, none⟩ = true
  · rw [if_pos stored, refreshBucketStats_objects, HashMap.get_remove]
  · rw [if_neg stored]
    by_cases here : place = ⟨bucket, key, none⟩
    · rw [if_pos here, here]
      simpa [HashMap.containsKey] using stored
    · rw [if_neg here]

theorem deleteObject_ok_iff :
    (applyCommand clock s (.deleteObject ⟨bucket, key⟩)).1 = .ok () ↔
      s.objects.containsKey ⟨bucket, key, none⟩ = true := by
  simp only [applyCommand, deleteObject]
  split <;> simp_all

theorem containsKey_deleteObject (name : String) :
    (applyCommand clock s (.deleteObject ⟨bucket, key⟩)).2.buckets.containsKey name =
      s.buckets.containsKey name := by
  simp only [applyCommand, deleteObject]
  split
  · rw [refreshBucketStats_containsKey]
  · rfl

/-- Deletions of several keys of a bucket, one after the other, whether or not each succeeds. -/
def deleteKeys (keys : List String) : MetadataState :=
  keys.foldl (fun s key => (applyCommand clock s (.deleteObject ⟨bucket, key⟩)).2) s

theorem deleteKeys_cons (keys : List String) : deleteKeys clock s bucket (key :: keys) =
    deleteKeys clock (applyCommand clock s (.deleteObject ⟨bucket, key⟩)).2 bucket keys := rfl

/-- They take away the records of these keys without a version. -/
theorem get_deleteKeys (keys : List String) (place : ObjectKey) :
    (deleteKeys clock s bucket keys).objects.get place =
      if place.bucket = bucket ∧ place.versionId = none ∧ place.key ∈ keys then none
      else s.objects.get place := by
  induction keys generalizing s with
  | nil => simp [deleteKeys]
  | cons key keys ih =>
    rw [deleteKeys_cons, ih, get_deleteObject]
    obtain ⟨placeBucket, placeKey, placeVersion⟩ := place
    simp only [ObjectKey.mk.injEq, List.mem_cons]
    -- A record is gone if its key is the first one or among the others.
    by_cases first : placeBucket = bucket ∧ placeKey = key ∧ placeVersion = none
    · obtain ⟨rfl, rfl, rfl⟩ := first
      simp
    · by_cases later : placeBucket = bucket ∧ placeVersion = none ∧ placeKey ∈ keys
      · simp [later]
      · rw [if_neg later, if_neg first, if_neg]
        tauto

theorem containsKey_deleteKeys (keys : List String) (name : String) :
    (deleteKeys clock s bucket keys).buckets.containsKey name =
      s.buckets.containsKey name := by
  induction keys generalizing s with
  | nil => rfl
  | cons key keys ih =>
    rw [deleteKeys_cons, ih, containsKey_deleteObject]

/-- A bucket that is there is removed exactly if nothing is stored in it. -/
theorem deleteBucket_ok_iff (present : s.buckets.containsKey bucket = true) :
    (applyCommand clock s (.deleteBucket ⟨bucket⟩)).1 = .ok () ↔
      ∀ place obj, s.objects.get place = some obj → obj.bucket ≠ bucket := by
  -- The values are scanned, whatever places they are stored at.
  have empty : s.objects.values.any (fun obj => obj.bucket == bucket) = true ↔
      ∃ place obj, s.objects.get place = some obj ∧ obj.bucket = bucket := by
    simp only [List.any_eq_true, HashMap.mem_values, beq_iff_eq]
    constructor
    · intro held
      obtain ⟨obj, ⟨place, stored⟩, same⟩ := held
      exact ⟨place, obj, stored, same⟩
    · intro held
      obtain ⟨place, obj, stored, same⟩ := held
      exact ⟨obj, ⟨place, stored⟩, same⟩
  simp only [applyCommand, deleteBucket]
  by_cases any : s.objects.values.any (fun obj => obj.bucket == bucket) = true
  · obtain ⟨place, obj, stored, same⟩ := empty.mp any
    rw [if_pos any]
    refine iff_of_false (fun succeeded => by cases succeeded) fun none => ?_
    exact none place obj stored same
  · rw [if_neg any, if_pos present]
    refine iff_of_true rfl fun place obj stored same => any ?_
    exact empty.mpr ⟨place, obj, stored, same⟩

end

/-- Deletions empty a bucket exactly if all of its objects are without a version. -/
theorem emptied_iff {s : MetadataState} (agree : s.KeysAgree) (clock : Nat) {bucket : String}
    (present : s.buckets.containsKey bucket = true) :
    (∃ keys, (applyCommand clock (deleteKeys clock s bucket keys)
        (.deleteBucket ⟨bucket⟩)).1 = .ok ()) ↔
      ∀ place obj, s.objects.get place = some obj → obj.bucket = bucket → obj.versionId = none := by
  have identity := HashMap.keyed_iff.mp agree.objects
  constructor
  · intro ⟨keys, emptied⟩ place obj stored same
    rw [deleteBucket_ok_iff _ _ _ (by rw [containsKey_deleteKeys, present])] at emptied
    -- The record was taken away by a deletion, so it is one without a version.
    by_contra versioned
    refine emptied place obj ?_ same
    rw [get_deleteKeys, if_neg, stored]
    intro ⟨_, unversioned, _⟩
    rw [identity place obj stored] at unversioned
    exact versioned unversioned
  · intro unversioned
    refine ⟨s.objects.values.map ObjectMetadata.key, ?_⟩
    rw [deleteBucket_ok_iff _ _ _ (by rw [containsKey_deleteKeys, present])]
    intro place obj left same
    rw [get_deleteKeys] at left
    split at left
    · cases left
    · -- All keys of the bucket were among those deleted.
      rename_i kept
      obtain rfl := identity place obj left
      refine kept ⟨same, unversioned _ obj left same, ?_⟩
      exact List.mem_map_of_mem ((HashMap.mem_values _ _).mpr ⟨_, left⟩)

/--
A deletion removes exactly the object that a read without a version returns, if and only if that
object is one without a version: only such records are ever deleted.

The bucket can be emptied and removed if and only if all of its objects are without a version.
-/
theorem delete_removes_found_iff {s : MetadataState} (reached : Reachable (fun _ => True) s)
    (clock : Nat) {bucket key : String} {obj : ObjectMetadata}
    (found : s.getObject bucket key = .ok obj) :
    ((applyCommand clock s (.deleteObject ⟨bucket, key⟩)).1 = .ok () ∧
        (∀ place, (applyCommand clock s (.deleteObject ⟨bucket, key⟩)).2.objects.get place =
          if place = obj.objectKey then none else s.objects.get place) ↔ obj.versionId = none) ∧
    ((∃ keys, (applyCommand clock (deleteKeys clock s bucket keys)
        (.deleteBucket ⟨bucket⟩)).1 = .ok ()) ↔
      ∀ place other, s.objects.get place = some other → other.bucket = bucket →
        other.versionId = none) := by
  obtain ⟨agree, exist⟩ := reached.catalogued
  obtain ⟨stored, rfl, rfl⟩ := findObject_keyed agree found
  refine ⟨⟨fun deleted => ?_, fun unversioned => ?_⟩,
    emptied_iff agree clock (exist obj.objectKey obj stored)⟩
  · -- The record is gone, so it is the one that deletions take away.
    obtain ⟨_, gone⟩ := deleted
    have here := gone obj.objectKey
    rw [if_pos rfl, get_deleteObject] at here
    by_contra versioned
    have other : obj.objectKey ≠ ⟨obj.bucket, obj.key, none⟩ := fun same =>
      versioned (congrArg ObjectKey.versionId same)
    rw [if_neg other, stored] at here
    cases here
  · have place : obj.objectKey = ⟨obj.bucket, obj.key, none⟩ := by
      rw [ObjectMetadata.objectKey, unversioned]
    refine ⟨?_, fun other => ?_⟩
    · rw [deleteObject_ok_iff, HashMap.containsKey, ← place, stored]
      rfl
    · rw [get_deleteObject, place]

/-- A catalogue with one bucket and one object, of the given version. -/
def oneStored (versionId : Option String) : MetadataState :=
  (applyCommand 1 (applyCommand 0 {} (.createBucket { name := "docs" })).2
    (.putObject { bucket := "docs", key := "a", versionId })).2

theorem oneStored_reachable (versionId : Option String) :
    Reachable (fun _ => True) (oneStored versionId) :=
  .command 1 (.command 0 .empty (MetadataState.equiv_refl _) trivial)
    (MetadataState.equiv_refl _) trivial

/-- An object without a version is deleted. -/
theorem delete_removes_found_iff_unversioned :
    (applyCommand 2 (oneStored none) (.deleteObject ⟨"docs", "a"⟩)).1 = .ok () :=
  ((delete_removes_found_iff (oneStored_reachable none) 2 rfl).1.mpr rfl).1

/-- A version is read without being named, cannot be deleted, and keeps its bucket for ever. -/
theorem version_never_deleted :
    Reachable (fun _ => True) (oneStored (some "v1")) ∧
      ((oneStored (some "v1")).getObject "docs" "a").map ObjectMetadata.versionId =
        .ok (some "v1") ∧ (applyCommand 2 (oneStored (some "v1")) (.deleteObject ⟨"docs", "a"⟩)).1 =
        .error (.notFound "object not found") ∧
      ¬ ∃ keys, (applyCommand 2 (deleteKeys 2 (oneStored (some "v1")) "docs" keys)
        (.deleteBucket ⟨"docs"⟩)).1 = .ok () := by
  refine ⟨oneStored_reachable _, rfl, rfl, fun emptied => ?_⟩
  obtain ⟨agree, _⟩ := (oneStored_reachable (some "v1")).catalogued
  have unversioned := (emptied_iff agree 2 rfl).mp emptied ⟨"docs", "a", some "v1"⟩ _ rfl rfl
  cases unversioned

end ColdStore
