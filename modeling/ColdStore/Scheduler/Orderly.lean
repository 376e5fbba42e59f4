import ColdStore.Metadata.Contents
import ColdStore.Metadata.Effects
import ColdStore.Metadata.Tasks
import ColdStore.Scheduler.Rules

/-! What schedulers do to the catalogue, and what they keep in order by it. -/

namespace ColdStore.Scheduler

open Rust MetadataState

/-- A recall task has the id that is made of its bucket and key. -/
def Named (task : RecallTask) : Prop := task.id = phase1RecallTaskId task.bucket task.key none

/-- An archive task has one of the four statuses with a meaning. -/
def Known (task : ArchiveTask) : Prop :=
  ∃ status : ArchiveTaskStatus, task.status = status.number ∧ status ≠ .unspecified

/-- What is known of an object: it has no version, and was recalled if it was restored. -/
structure ObjectOrderly (s : MetadataState) (place : ObjectKey) (obj : ObjectMetadata) : Prop where
  plain : place.versionId = none
  dated : obj.updatedAt.isSome
  /-- The task that recalled a restored object is closed. -/
  restored : obj.restoreStatus = some RestoreStatus.restoreCompleted.number →
    s.RecallClosed (phase1RecallTaskId place.bucket place.key none)

/-- The catalogue of schedulers that keep to their rules. -/
structure Orderly (s : MetadataState) : Prop where
  objects : ∀ place obj, s.objects.get place = some obj → ObjectOrderly s place obj
  named : ∀ id task, s.recallTasks.get id = some task → Named task
  known : ∀ id task, s.archiveTasks.get id = some task → Known task
  /-- A bundle is stored for a task that has been claimed. -/
  started : ∀ id bundle, s.archiveBundles.get id = some bundle → s.ArchiveStarted id

/-- Schedulers store objects without versions. -/
theorem Orderly.plain {s : MetadataState} (orderly : Orderly s) (place : ObjectKey)
    (obj : ObjectMetadata) (stored : s.objects.get place = some obj) : place.versionId = none :=
  (orderly.objects place obj stored).plain

/-- The commands schedulers send, with what they make sure of first. -/
def Permitted (s : MetadataState) : MetadataCommand → Prop
  | .putObject obj => obj.versionId = none ∧ obj.restoreStatus = none
  | .deleteObject _ | .createBucket _ | .deleteBucket _ => True
  | .completeArchiveObject req => ∀ bundle ∈ req.bundle, s.ArchiveStarted bundle.id
  | .updateRestoreStatus req => req.status = RestoreStatus.restoreCompleted.number →
    s.RecallClosed (phase1RecallTaskId req.bucket req.key none)
  | .putArchiveTask task => task.status = ArchiveTaskStatus.archiveTaskPending.number
  | .updateArchiveTask task =>
    Known task ∧ task.status ≠ ArchiveTaskStatus.archiveTaskPending.number
  | .putRecallTask task | .updateRecallTask task => Named task
  | _ => False

/-- Order is kept, and tasks go forward. -/
def Forward (before after : MetadataState) : Prop := Orderly after ∧ Advances before after

variable {s : MetadataState} {obj : ObjectMetadata}

section

variable (orderly : Orderly s) (clock : Nat) {cmd : MetadataCommand} (permitted : Permitted s cmd)

include orderly permitted

/-- The objects a permitted command leaves are in order, as far as the tasks were before it. -/
theorem Orderly.objects_kept (place : ObjectKey)
    (found : (applyCommand clock s cmd).2.objects.get place = some obj) :
    ObjectOrderly s place obj := by
  cases applyCommand_objects clock s cmd with
  | kept _ same => exact orderly.objects place obj (same ▸ found)
  | put stored sent same =>
    subst sent
    rw [same, HashMap.get_insert] at found
    split at found
    · rename_i here
      obtain rfl := Option.some.inj found
      exact ⟨here ▸ permitted.1, rfl, by simp [ObjectMetadata.stamped, permitted.2]⟩
    · exact orderly.objects place obj found
  | deleted req sent same =>
    rw [same, HashMap.get_remove] at found
    split at found
    · cases found
    · exact orderly.objects place obj found
  | marked other old changed stored _ stamp status _ same =>
    rw [same, HashMap.get_update] at found
    split at found
    · rename_i here
      rw [stored] at found
      obtain rfl := Option.some.inj found
      have before := orderly.objects _ _ (here ▸ stored)
      refine ⟨before.plain, by rw [stamp]; rfl, fun restored => ?_⟩
      -- A restore is marked as completed only when its task is closed.
      rcases status with same | ⟨req, sent, bucket, key, marked⟩
      · exact before.restored (same ▸ restored)
      · subst sent
        rw [here, bucket, key]
        exact permitted (Option.some.inj (marked.symm.trans restored))
    · exact orderly.objects place obj found

/-- The bundles a permitted command leaves are those of claimed tasks. -/
theorem Orderly.started_kept :
    ∀ id bundle, (applyCommand clock s cmd).2.archiveBundles.get id = some bundle →
      s.ArchiveStarted id := by
  have framed := applyCommand_framed clock s cmd
  cases cmd with
  | completeArchiveObject req =>
    intro id found there
    obtain same | ⟨bundle, _, _, given, _, _, _, after⟩ :=
      completeArchiveObject_cases (nowTimestamp clock) req s
    · exact orderly.started id found (same ▸ there)
    · rw [applyCommand, after, storeBundle] at there
      split at there
      · exact orderly.started id found there
      · replace there : (s.archiveBundles.insert bundle.id bundle).get id = some found := there
        rw [HashMap.get_insert] at there
        split at there
        · rename_i same
          exact same ▸ permitted bundle given
        · exact orderly.started id found there
  | putArchiveBundle _ | updateArchiveBundleStatus _ => exact permitted.elim
  | _ => rw [framed.archiveBundles rfl]; exact orderly.started

/-- A permitted command keeps order, and tasks go forward. -/
theorem applyCommand_forward : Forward s (applyCommand clock s cmd).2 := by
  have advances : Advances s (applyCommand clock s cmd).2 :=
    applyCommand_advances clock s cmd fun task sent => by subst sent; exact permitted.2
  refine ⟨⟨fun place obj found => ?_, fun id task found => ?_, fun id task found => ?_,
    fun id bundle found => ?_⟩, advances⟩
  · have known := orderly.objects_kept clock permitted place found
    exact ⟨known.plain, known.dated, fun status => advances.recalls _ (known.restored status)⟩
  · rcases recallTasks_cases found with old | ⟨written, sent, sameId, bucket, key⟩
    · exact orderly.named id task old
    · have named : Named written := by rcases sent with rfl | rfl <;> exact permitted
      rw [Named, sameId, bucket, key]
      exact named
  · rcases archiveTasks_cases found with old | ⟨written, sent, same⟩
    · exact orderly.known id task old
    · obtain ⟨status, number, meaning⟩ : Known written := by
        rcases sent with rfl | rfl
        · exact ⟨_, permitted, by decide⟩
        · exact permitted.1
      exact ⟨status, same.trans number, meaning⟩
  · exact advances.archives id (orderly.started_kept clock permitted id bundle found)

end

/-- The latest version of an object has none. -/
theorem findObject_plain (keys : s.KeysAgree) (orderly : Orderly s) {bucket key : String}
    (found : findObject s bucket key none = .ok obj) :
    obj.objectKey = ⟨bucket, key, none⟩ ∧ s.objects.get ⟨bucket, key, none⟩ = some obj := by
  rw [findObject_eq] at found
  cases searched : findObjectMut s bucket key none with
  | error status => simp [searched, Except.map] at found
  | ok entry =>
    obtain ⟨place, value⟩ := entry
    simp only [searched, Except.map, Except.ok.injEq] at found
    subst found
    obtain ⟨stored, sameBucket, sameKey⟩ := findObjectMut_stored searched
    have plain := orderly.plain place value stored
    have same := HashMap.keyed_iff.mp keys.objects place value stored
    have there : place = ⟨bucket, key, none⟩ := by
      rw [← sameBucket, ← sameKey, ← plain]
    exact ⟨by rw [← same, there], there ▸ stored⟩

end ColdStore.Scheduler
