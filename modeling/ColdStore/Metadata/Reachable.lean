import ColdStore.Metadata.Contents
import ColdStore.Metadata.Effects

/-! What a command can do to objects and buckets, and the states that commands lead to. -/

namespace ColdStore

open Rust

/-- Everything a command can do to objects and buckets. -/
inductive Effect (cmd : MetadataCommand) (before after : MetadataState) : Prop where
  /-- Both are left alone. -/
  | none (objects : after.objects = before.objects) (buckets : after.buckets = before.buckets)
  /-- A version of an object is stored, and its bucket is counted again. -/
  | put (obj : ObjectMetadata) (present : before.buckets.containsKey obj.bucket = true)
      (left : after = refreshBucketStats
        { before with objects := before.objects.insert obj.objectKey obj } obj.bucket)
  /-- A version of an object is removed, and its bucket is counted again. -/
  | deleted (place : ObjectKey) (left : after = refreshBucketStats
      { before with objects := before.objects.remove place } place.bucket)
  /-- An object is changed in place, and keeps its identity and its size. -/
  | written (place : ObjectKey) (old changed : ObjectMetadata)
      (stored : before.objects.get place = some old) (key : changed.objectKey = old.objectKey)
      (size : changed.size = old.size)
      (objects : after.objects = before.objects.update place changed)
      (buckets : after.buckets = before.buckets)
  /-- A bucket is created. -/
  | created (bucket : BucketInfo) (createdAt : Option Timestamp)
      (asked : cmd = .createBucket bucket)
      (absent : before.buckets.get bucket.name = .none) (objects : after.objects = before.objects)
      (buckets : after.buckets = before.buckets.insert bucket.name { bucket with createdAt })
  /-- A bucket without objects is removed. -/
  | dropped (name : String) (empty : ∀ obj ∈ before.objects.values, obj.bucket ≠ name)
      (objects : after.objects = before.objects)
      (buckets : after.buckets = before.buckets.remove name)

theorem Effect.refl {cmd : MetadataCommand} {s : MetadataState} :
    Effect cmd s s := .none rfl rfl

/-- A command does one of these things. -/
theorem applyCommand_effect (clock : Nat) (s : MetadataState) (cmd : MetadataCommand) :
    Effect cmd s (applyCommand clock s cmd).2 := by
  have framed := applyCommand_framed clock s cmd
  cases cmd with
  | putObject obj =>
    simp only [applyCommand, putObject]
    split
    · rename_i present
      exact .put { obj with
        createdAt := obj.createdAt.or (some (nowTimestamp clock))
        updatedAt := some (nowTimestamp clock) } present rfl
    · exact .refl
  | deleteObject req =>
    simp only [applyCommand, deleteObject]
    split
    · exact .deleted ⟨req.bucket, req.key, none⟩ rfl
    · exact .refl
  | updateStorageClass _ | updateArchiveLocation _ | completeArchiveObject _
  | updateRestoreStatus _ =>
    -- The buckets are left alone, and what is marked keeps its content.
    cases applyCommand_objects clock s _ with
    | kept _ same => exact .none same (framed.buckets rfl)
    | put _ sent | deleted _ sent => cases sent
    | marked place old changed stored content _ _ _ same =>
      have key := congrArg ObjectMetadata.objectKey content
      have size := congrArg ObjectMetadata.size content
      exact .written place old changed stored key size same (framed.buckets rfl)
  | createBucket bucket =>
    simp only [applyCommand, createBucket]
    split
    · exact .refl
    · rename_i absent
      have none : s.buckets.get bucket.name = .none := by
        simpa [HashMap.containsKey] using absent
      exact .created bucket _ rfl none rfl rfl
  | deleteBucket req =>
    simp only [applyCommand, deleteBucket]
    split
    · exact .refl
    · rename_i empty
      split
      · refine .dropped req.name (fun obj mem => ?_) rfl rfl
        intro same
        exact empty (List.any_eq_true.mpr ⟨obj, mem, by simp [same]⟩)
      · exact .refl
  | _ =>
    -- The other commands are about other maps.
    exact .none (framed.objects rfl) (framed.buckets rfl)

/--
The states that allowed commands lead to from the empty one.

Commands may fail, and before each of them every map may change its order.
-/
inductive Reachable (allowed : MetadataCommand → Prop) : MetadataState → Prop where
  | empty : Reachable allowed {}
  | command {before found : MetadataState} {cmd : MetadataCommand} (clock : Nat)
      (reached : Reachable allowed before) (reordered : before ≈ found)
      (admitted : allowed cmd) : Reachable allowed (applyCommand clock found cmd).2

/-- What the empty state has and every allowed command keeps holds of every state they lead to. -/
theorem Reachable.invariant {allowed : MetadataCommand → Prop} {s : MetadataState}
    (reached : Reachable allowed s) (holds : MetadataState → Prop) (empty : holds {})
    (reorders : ∀ before found, before ≈ found → holds before → holds found)
    (step : ∀ clock before cmd, allowed cmd → holds before →
      holds (applyCommand clock before cmd).2) : holds s := by
  induction reached with
  | empty => exact empty
  | command clock _ reordered admitted ih =>
    exact step clock _ _ admitted (reorders _ _ reordered ih)

end ColdStore
