import ColdStore.Metadata.Command
import ColdStore.Rust.HashMap
import ColdStore.Rust.Iter
import Mathlib.Algebra.GroupWithZero.Nat
import Mathlib.Data.Prod.Lex

/-! The catalogue of objects, buckets, bundles, tasks, tapes and workers, and how it is searched. -/

namespace ColdStore

open Rust

/-- An object is identified by its bucket, its key and its version. -/
structure ObjectKey where
  bucket : String
  key : String
  versionId : Option String
  deriving DecidableEq

/-- Everything the metadata service knows. -/
structure MetadataState where
  objects : HashMap ObjectKey ObjectMetadata := .empty
  buckets : HashMap String BucketInfo := .empty
  archiveBundles : HashMap String ArchiveBundle := .empty
  archiveTasks : HashMap String ArchiveTask := .empty
  recallTasks : HashMap String RecallTask := .empty
  tapes : HashMap String TapeInfo := .empty
  schedulerWorkers : HashMap Nat SchedulerWorkerInfo := .empty
  cacheWorkers : HashMap Nat CacheWorkerInfo := .empty
  tapeWorkers : HashMap Nat TapeWorkerInfo := .empty

namespace ObjectMetadata

/-- The identity a record carries. -/
def objectKey (object : ObjectMetadata) : ObjectKey := ⟨object.bucket, object.key, object.versionId⟩

end ObjectMetadata

namespace MetadataState

/-- Whether none of the nine maps has an entry. -/
def isEmpty (s : MetadataState) : Bool :=
  s.objects.isEmpty
    && s.buckets.isEmpty
    && s.archiveBundles.isEmpty
    && s.archiveTasks.isEmpty
    && s.recallTasks.isEmpty
    && s.tapes.isEmpty
    && s.schedulerWorkers.isEmpty
    && s.cacheWorkers.isEmpty
    && s.tapeWorkers.isEmpty

/-- Two states have equal maps, whatever their iteration orders. -/
structure Equiv (left right : MetadataState) : Prop where
  objects : left.objects ≈ right.objects
  buckets : left.buckets ≈ right.buckets
  archiveBundles : left.archiveBundles ≈ right.archiveBundles
  archiveTasks : left.archiveTasks ≈ right.archiveTasks
  recallTasks : left.recallTasks ≈ right.recallTasks
  tapes : left.tapes ≈ right.tapes
  schedulerWorkers : left.schedulerWorkers ≈ right.schedulerWorkers
  cacheWorkers : left.cacheWorkers ≈ right.cacheWorkers
  tapeWorkers : left.tapeWorkers ≈ right.tapeWorkers

instance : HasEquiv MetadataState := ⟨Equiv⟩

/-- Every record is stored under the identity it carries. -/
structure KeysAgree (s : MetadataState) : Prop where
  objects : s.objects.Keyed ObjectMetadata.objectKey
  buckets : s.buckets.Keyed BucketInfo.name
  archiveBundles : s.archiveBundles.Keyed ArchiveBundle.id
  archiveTasks : s.archiveTasks.Keyed ArchiveTask.id
  recallTasks : s.recallTasks.Keyed RecallTask.id
  tapes : s.tapes.Keyed TapeInfo.id
  schedulerWorkers : s.schedulerWorkers.Keyed SchedulerWorkerInfo.nodeId
  cacheWorkers : s.cacheWorkers.Keyed CacheWorkerInfo.nodeId
  tapeWorkers : s.tapeWorkers.Keyed TapeWorkerInfo.nodeId

end MetadataState

/-- Times in the order they are compared in, with a missing time first among the non-negative. -/
def timestampSortKey (time : Option Timestamp) : Int ×ₗ Int :=
  -- A missing time counts as zero seconds and zero nanoseconds.
  match time with
  | some time => toLex (time.seconds, time.nanos)
  | none => toLex (0, 0)

/-- The stored versions of a key, in iteration order. -/
def versions (s : MetadataState) (bucket key : String) : List (ObjectKey × ObjectMetadata) :=
  s.objects.entries.filter fun entry => entry.1.bucket == bucket && entry.1.key == key

/-- An object by version, or the most recently updated version of its key. -/
def findObject (s : MetadataState) (bucket key : String) (versionId : Option String) :
    Except Status ObjectMetadata :=
  match versionId with
  | some versionId =>
    okOr (.notFound "object version not found") (s.objects.get ⟨bucket, key, some versionId⟩)
  | none =>
    -- Among versions updated at the same time, the one iterated last is picked.
    okOr (.notFound "object not found")
      ((maxByKey (fun entry => timestampSortKey entry.2.updatedAt) (versions s bucket key)).map
        Prod.snd)

/-- The place and value of an object that is about to be changed. -/
def findObjectMut (s : MetadataState) (bucket key : String) (versionId : Option String) :
    Except Status (ObjectKey × ObjectMetadata) :=
  match versionId with
  | some versionId =>
    okOr (.notFound "object version not found")
      ((s.objects.get ⟨bucket, key, some versionId⟩).map fun object =>
        (⟨bucket, key, some versionId⟩, object))
  | none => do
    -- The key is picked first, by times looked up again for every comparison.
    let candidates := s.objects.keys.filter fun candidate =>
      candidate.bucket == bucket && candidate.key == key
    let latest (candidate : ObjectKey) : Int ×ₗ Int :=
      ((s.objects.get candidate).map fun object => timestampSortKey object.updatedAt).getD
        (toLex (0, 0))
    let selected ← okOr (.notFound "object not found") (maxByKey latest candidates)
    let object ← okOr (.notFound "object not found") (s.objects.get selected)
    pure (selected, object)

/-- Recount the objects of a bucket. -/
def refreshBucketStats (s : MetadataState) (bucketName : String) : MetadataState :=
  match s.buckets.get bucketName with
  | none => s
  | some bucket =>
    let objects := s.objects.values.filter fun object => object.bucket == bucketName
    -- Both counters are unsigned 64-bit sums.
    let refreshed := { bucket with
      objectCount := objects.length % 2 ^ 64,
      totalSize := (objects.map ObjectMetadata.size).sum % 2 ^ 64 }
    { s with buckets := s.buckets.update bucketName refreshed }

/-- Whether a restore still waits to be claimed. -/
def isPendingRestoreStatus (status : Int) : Bool :=
  match tryFrom RestoreStatus status with
  | some .restorePending | some .restoreWaitingForMedia => true
  | _ => false

end ColdStore
