import ColdStore.Metadata.State

/-! Which status changes, repeated tasks and archive completions the catalogue accepts. -/

namespace ColdStore

open Rust

/-- The restore statuses that may follow a known one. -/
def restoreMayFollow : RestoreStatus → RestoreStatus → Bool
  | .restorePending, next =>
    next == .restoreInProgress || next == .restoreWaitingForMedia || next == .restoreFailed
  | .restoreWaitingForMedia, next =>
    next == .restoreInProgress || next == .restorePending || next == .restoreFailed
  -- A restore in progress has no way back to waiting.
  | .restoreInProgress, next => next == .restoreCompleted || next == .restoreFailed
  | .restoreCompleted, next => next == .restoreExpired
  | .restoreExpired, _ => false
  | .restoreFailed, _ => false
  | .unspecified, _ => true

/-- Check a change of restore status, for objects and recall tasks alike. -/
def validateRestoreTransition (current : Option Int) (next : Int) : Except Status Unit := do
  -- A missing status and a number that is no status both allow everything.
  let current := current.bind (tryFrom RestoreStatus)
  let next ← okOr (.invalidArgument "invalid restore status") (tryFrom RestoreStatus next)
  let valid := match current with
    | none => true
    | some current => restoreMayFollow current next
  ensure valid (.failedPrecondition "invalid restore state transition")

/-- Check a change between two numbers that both have to be members of an enumeration. -/
def validateTransition {E : Type} [ProtoEnum E] (mayFollow : E → E → Bool)
    (unknown invalid : String) (current next : Int) : Except Status Unit := do
  let current ← okOr (.invalidArgument unknown) (tryFrom E current)
  let next ← okOr (.invalidArgument unknown) (tryFrom E next)
  ensure (mayFollow current next) (.failedPrecondition invalid)

/-- The bundle statuses that may follow a known one. -/
def archiveBundleMayFollow : ArchiveBundleStatus → ArchiveBundleStatus → Bool
  | .bundlePending, next => next == .bundleWriting
  | .bundleWriting, next => next == .bundleCompleted || next == .bundleFailed
  | .bundleFailed, next => next == .bundlePending
  | .bundleCompleted, _ => false
  | .unspecified, _ => true

def validateArchiveBundleTransition (current next : Int) : Except Status Unit :=
  validateTransition archiveBundleMayFollow "invalid archive bundle status"
    "invalid archive bundle state transition" current next

/-- The archive task statuses that may follow a known one. -/
def archiveTaskMayFollow : ArchiveTaskStatus → ArchiveTaskStatus → Bool
  | .archiveTaskPending, next => next == .archiveTaskInProgress
  | .archiveTaskInProgress, next => next == .archiveTaskCompleted || next == .archiveTaskFailed
  | .archiveTaskFailed, next => next == .archiveTaskPending
  | .archiveTaskCompleted, _ => false
  | .unspecified, _ => true

def validateArchiveTaskTransition (current next : Int) : Except Status Unit :=
  validateTransition archiveTaskMayFollow "invalid archive task status"
    "invalid archive task state transition" current next

/-- Whether a task that is put again repeats the stored one. -/
def isSameArchiveTask (existing incoming : ArchiveTask) : Bool :=
  -- The three times are not compared.
  existing.id == incoming.id
    && existing.bundleId == incoming.bundleId
    && existing.tapeId == incoming.tapeId
    && existing.driveId == incoming.driveId
    && existing.objectCount == incoming.objectCount
    && existing.totalSize == incoming.totalSize
    && existing.bytesWritten == incoming.bytesWritten
    && existing.status == incoming.status
    && existing.retryCount == incoming.retryCount
    && existing.error == incoming.error

/-- Whether a task that is put again repeats the stored one. -/
def isSameRecallTask (existing incoming : RecallTask) : Bool :=
  -- Neither the times nor the error text are compared.
  existing.id == incoming.id
    && existing.bucket == incoming.bucket
    && existing.key == incoming.key
    && existing.versionId == incoming.versionId
    && existing.archiveId == incoming.archiveId
    && existing.tapeId == incoming.tapeId
    && existing.tapeSet == incoming.tapeSet
    && existing.tapeBlockOffset == incoming.tapeBlockOffset
    && existing.objectSize == incoming.objectSize
    && existing.checksum == incoming.checksum
    && existing.tier == incoming.tier
    && existing.days == incoming.days
    && existing.status == incoming.status
    && existing.driveId == incoming.driveId
    && existing.retryCount == incoming.retryCount

/-- Check that an object is still the one whose archiving is being completed. -/
def validateCompleteArchivePreconditions (object : ObjectMetadata)
    (request : CompleteArchiveObjectRequest) : Except Status Unit := do
  ensure (object.versionId == request.versionId)
    (.failedPrecondition "object version changed before archive completion")
  let expectedSize ← okOr
    (.failedPrecondition "archive completion requires expected_size precondition")
    request.expectedSize
  ensure (object.size == expectedSize)
    (.failedPrecondition "object size changed before archive completion")
  let expectedChecksum ← okOr
    (.failedPrecondition "archive completion requires expected_checksum precondition")
    request.expectedChecksum
  ensure (object.checksum == expectedChecksum)
    (.failedPrecondition "object checksum changed before archive completion")
  let expectedStorageClass ← okOr
    (.failedPrecondition "archive completion requires expected_storage_class precondition")
    request.expectedStorageClass
  ensure (object.storageClass == expectedStorageClass)
    (.failedPrecondition "object storage class changed before archive completion")
  ensure request.expectedUpdatedAt.isSome
    (.failedPrecondition "archive completion requires expected_updated_at precondition")
  ensure (object.updatedAt == request.expectedUpdatedAt)
    (.failedPrecondition "object generation changed before archive completion")

end ColdStore
