import ColdStore.Scheduler.Clients

/-! The requests a scheduler serves for clients: buckets, uploads, reads, deletions and restores. -/

namespace ColdStore.Scheduler

open Rust Process

def createBucket (bucket : String) : Task Status Unit := do
  let now ← nowTimestamp
  applied (.createBucket { name := bucket, createdAt := some now, owner := none,
                           versioningEnabled := false, objectCount := 0, totalSize := 0 })

def deleteBucket (bucket : String) : Task Status Unit := applied (.deleteBucket ⟨bucket⟩)

def headBucket (bucket : String) : Task Status Unit := do
  let _ : BucketInfo ← askMetadata (.getBucket bucket)

/-- The answer to an upload. -/
structure PutObjectResponse where
  etag : String
  versionId : String
  deriving DecidableEq

/-- The answer to a restore, by its HTTP status. -/
structure RestoreObjectResponse where
  statusCode : Nat
  deriving DecidableEq

/-- The record of a freshly uploaded object. -/
def uploadedObject (bucket key : String) (size : Nat) (checksum : String)
    (contentType : Option String) (now : Timestamp) : ObjectMetadata where
  bucket := bucket
  key := key
  versionId := none
  size := size
  checksum := checksum
  contentType := contentType
  etag := some checksum
  storageClass := StorageClass.coldPending.number
  createdAt := some now
  updatedAt := some now

section

variable [Sha256]

/-- Record an object that has been staged, and take it out of staging again if that fails. -/
def recordUpload (bucket key : String) (body : Bytes) (contentType : Option String) :
    Task Status PutObjectResponse := do
  let now ← nowTimestamp
  let object := uploadedObject bucket key body.length (sha256Hex body) contentType now
  match ← tried (applied (.putObject object)) with
  | .ok () => pure ⟨sha256Hex body, ""⟩
  | .error status =>
    deleteStagingBestEffort bucket key none
    throw status

/-- Stage a body and then record it. -/
def putObject (bucket key : String) (body : Bytes) (contentType : Option String) :
    Task Status PutObjectResponse := do
  let checksum := sha256Hex body
  let _ ← putStagingObject
    ⟨bucket, key, none, body.length, some checksum, contentType, some checksum⟩ body
  recordUpload bucket key body contentType

end

def deleteObject (bucket key : String) : Task Status Unit := do
  applied (.deleteObject ⟨bucket, key⟩)
  deleteCachedObjectBestEffort bucket key none

/-- Check that an object has been restored. -/
def validateRestored (object : ObjectMetadata) : Except Status Unit := do
  let name := object.bucket ++ "/" ++ object.key
  ensure (object.storageClass = StorageClass.cold.number) (.failedPrecondition
    ("object " ++ name ++ " is not archived yet and cannot be read from restored cache"))
  ensure (object.restoreStatus.bind (tryFrom RestoreStatus) = some .restoreCompleted)
    (.failedPrecondition ("object " ++ name ++ " must complete restore before GET"))

/-- Put the streamed answer of a restored object together, and check its size. -/
def restoredBytes (object : ObjectMetadata) (messages : List (Message CachedObjectMeta)) :
    Except Status Bytes := do
  let (received, data) ← drainStream (.invalidArgument "cache get returned duplicate metadata")
    (.internal "cache get returned empty chunk") none [] messages
  let description ← okOr (.internal "cache get stream ended without metadata") received
  ensure (description.size = data.length) (.dataLoss ("cache returned " ++ decimal data.length ++
    " bytes for " ++ object.bucket ++ "/" ++ object.key ++ ", expected " ++
    decimal description.size))
  ensure (object.size = data.length) (.dataLoss ("metadata size " ++ decimal object.size ++
    " for " ++ object.bucket ++ "/" ++ object.key ++ " does not match restored cache bytes " ++
    decimal data.length))
  pure data

/-- A restored object that the cache has lost is reported as a failed precondition. -/
def cacheMiss (object : ObjectMetadata) (status : Status) : Status :=
  if status.code = .notFound then .failedPrecondition ("restored object " ++ object.bucket ++
    "/" ++ object.key ++ " is not present in cache")
  else status

def readRestoredObject (object : ObjectMetadata) : Task Status Bytes := do
  checked (validateRestored object)
  let messages ← mapErr (cacheMiss object)
    (askCache (.get ⟨object.bucket, object.key, object.versionId⟩))
  checked (restoredBytes object messages)

def getObject (bucket key : String) : Task Status (ObjectMetadata × Bytes) := do
  let object ← headObject bucket key
  let data ← readRestoredObject object
  pure (object, data)

/-- Where an archived object is on tape. -/
structure ArchivePlace where
  archiveId : String
  tapeId : String
  tapeBlockOffset : Nat

/-- The place recorded for an archived object. -/
def archivePlace (object : ObjectMetadata) : Except Status ArchivePlace := do
  let archiveId ← okOr
    (.failedPrecondition "restore_object requires archive_id metadata") object.archiveId
  let tapeId ← okOr (.failedPrecondition "restore_object requires tape_id metadata") object.tapeId
  let tapeBlockOffset ← okOr
    (.failedPrecondition "restore_object requires tape_block_offset metadata")
    object.tapeBlockOffset
  pure ⟨archiveId, tapeId, tapeBlockOffset⟩

/-- The recall task a restore asks for. -/
def restoreTask (bucket key : String) (object : ObjectMetadata) (place : ArchivePlace)
    (days : Nat) (tier : RestoreTier) (expireAt now : Timestamp) : RecallTask where
  id := phase1RecallTaskId bucket key object.versionId
  bucket := bucket
  key := key
  versionId := object.versionId
  archiveId := place.archiveId
  tapeId := place.tapeId
  tapeSet := object.tapeSet
  tapeBlockOffset := place.tapeBlockOffset
  objectSize := object.size
  checksum := object.checksum
  tier := tier.number
  days := max days 1
  expireAt := some expireAt
  status := RestoreStatus.restorePending.number
  createdAt := some now

/-- Ask for a recall of an object that has not been restored before. -/
def beginRestore (bucket key : String) (object : ObjectMetadata) (days : Nat)
    (tier : RestoreTier) : Task Status RestoreObjectResponse := do
  let place ← checked (archivePlace object)
  let expireAt := daysFromNow (← nowTimestamp) (max days 1)
  updateObjectRestoreStatus bucket key .restorePending (some expireAt)
  let now ← nowTimestamp
  match ← tried (applied (.putRecallTask
    (restoreTask bucket key object place days tier expireAt now))) with
  | .ok () => pure ⟨202⟩
  | .error status =>
    let _ : Except Status Unit ← tried (updateObjectRestoreStatus bucket key .restoreFailed none)
    throw status

/-- Ask for an archived object to be made readable for some days. -/
def restoreObject (bucket key : String) (days : Nat) (tier : RestoreTier) :
    Task Status RestoreObjectResponse := do
  let object : ObjectMetadata ← askMetadata (.getObject bucket key)
  checked (ensure (object.storageClass = StorageClass.cold.number) (.failedPrecondition
    "restore_object requires an archived COLD object in phase-1 metadata-backed mode"))
  checked (ensure (tier ≠ .expedited) (.unavailable
    "glacier expedited retrieval is not available in this environment"))
  match object.restoreStatus.bind (tryFrom RestoreStatus) with
  | some .restoreCompleted => pure ⟨200⟩
  | some .restorePending | some .restoreWaitingForMedia | some .restoreInProgress => pure ⟨409⟩
  | some .restoreExpired | some .restoreFailed => throw (.failedPrecondition
      ("restore_object cannot reopen expired or failed restores in phase-1 metadata-backed mode"))
  | some .unspecified | none => beginRestore bucket key object days tier

end ColdStore.Scheduler
