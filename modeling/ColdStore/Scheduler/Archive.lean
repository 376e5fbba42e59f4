import ColdStore.Scheduler.Clients

/-! The archive worker: staged objects are claimed, written to tape and taken out of staging. -/

namespace ColdStore.Scheduler

open Rust Process

/-- The parts of the configuration the workers read. -/
structure SchedulerConfig where
  archiveDriveId : String
  archiveTapeId : String
  archiveTapeSet : List String
  archiveBlockSize : Nat
  archiveBatchSize : Nat
  recallDriveId : String

/-- A scheduler is told apart from others by its number, under which its locks are kept. -/
structure SchedulerState where
  number : Nat
  config : SchedulerConfig

/-- What a batch has archived. -/
structure ArchiveBatchResult where
  archivedObjects : Nat := 0
  bytesWritten : Nat := 0
  bundleIds : List String := []
  deriving DecidableEq

/-- Increment a counter of 32 bits that stops at its largest value. -/
def saturatingSuccU32 (count : Nat) : Nat := min (count + 1) (2 ^ 32 - 1)

def acquireArchiveItem (s : SchedulerState) (key : String) : Sched Bool :=
  locally (.acquireArchiveItem s.number key)

def releaseArchiveItem (s : SchedulerState) (key : String) : Sched Unit :=
  locally (.releaseArchiveItem s.number key)

/-- The task a bundle is archived under, which has the id of the bundle. -/
def phase1ArchiveTask (bundleId tapeId : String) (objectSize : Nat) : Sched ArchiveTask := do
  let now ← nowTimestamp
  pure { id := bundleId, bundleId, tapeId, driveId := none, objectCount := 1,
         totalSize := objectSize, bytesWritten := 0,
         status := ArchiveTaskStatus.archiveTaskPending.number, retryCount := 0,
         createdAt := some now, startedAt := none, completedAt := none, error := none }

/-- Put a task that may be there already. -/
def putArchiveTaskOnce (task : ArchiveTask) : Task Status Unit := do
  match ← tried (applied (.putArchiveTask task)) with
  | .ok () => pure ()
  | .error status => if status.code ≠ .alreadyExists then throw status

/-- Take a stored task over, unless someone else has moved it. -/
def startArchiveTask (current : ArchiveTask) : Task Status (Option ArchiveTask) := do
  let now ← nowTimestamp
  let claimed := { current with
    status := ArchiveTaskStatus.archiveTaskInProgress.number
    error := none
    startedAt := some now }
  match ← tried (updateArchiveTask claimed) with
  | .ok () => pure (some claimed)
  | .error status => if status.code = .failedPrecondition then pure none else throw status

/-- Claim a task: the stored task when it could be claimed, and nothing when it is not free. -/
def claimArchiveTask (task : ArchiveTask) : Task Status (Option ArchiveTask) := do
  putArchiveTaskOnce task
  let current ← getArchiveTask task.id
  match tryFrom ArchiveTaskStatus current.status with
  | none => throw (.internal "invalid archive task status")
  | some .archiveTaskCompleted => pure none
  | some .archiveTaskFailed => pure none
  | some .archiveTaskInProgress => pure none
  | some .archiveTaskPending => startArchiveTask current
  | some .unspecified => throw (.failedPrecondition "invalid archive task state for claim")

/-- Complete a task, unless it is complete or someone else has moved it. -/
def finalizeArchiveTaskSuccess (task : ArchiveTask) (bytesWritten : Nat) : Task Status Unit := do
  let current ← getArchiveTask task.id
  match tryFrom ArchiveTaskStatus current.status with
  | none => throw (.internal "invalid archive task status")
  | some .archiveTaskCompleted => pure ()
  | some _ =>
    let now ← nowTimestamp
    match ← tried (updateArchiveTask { current with
      status := ArchiveTaskStatus.archiveTaskCompleted.number
      bytesWritten
      error := none
      completedAt := some now }) with
    | .ok () => pure ()
    | .error status => if status.code ≠ .failedPrecondition then throw status

/-- Fail a task, unless it has come to an end already. -/
def markArchiveTaskFailed (task : ArchiveTask) (error : String) : Task Status Unit := do
  let current ← getArchiveTask task.id
  match tryFrom ArchiveTaskStatus current.status with
  | none => throw (.internal "invalid archive task status")
  | some .archiveTaskCompleted => pure ()
  | some .archiveTaskFailed => pure ()
  | some _ =>
    let now ← nowTimestamp
    updateArchiveTask { current with
      status := ArchiveTaskStatus.archiveTaskFailed.number
      error := some error
      completedAt := some now
      retryCount := saturatingSuccU32 current.retryCount }

variable [Sha256]

/-- The bundle that records one archived object. -/
def archivedBundle (entry : StagingKeyEntry) (bundleId : String) (data : Bytes)
    (write : TapeArchiveWrite) (now : Timestamp) : ArchiveBundle where
  id := bundleId
  tapeId := write.tapeId
  tapeSet := write.tapeSet
  entries := [{
    bucket := entry.bucket, key := entry.key, versionId := entry.versionId
    size := data.length
    offsetInBundle := 0
    tapeBlockOffset := write.filemarkStart
    checksum := sha256Hex data }]
  totalSize := write.bytesWritten
  filemarkStart := write.filemarkStart
  filemarkEnd := write.filemarkEnd
  checksum := some (sha256Hex data)
  status := ArchiveBundleStatus.bundleCompleted.number
  createdAt := some now
  completedAt := some now

/-- The request that records an archived object, for the object as it was last seen. -/
def completionRequest (entry : StagingKeyEntry) (current : ObjectMetadata)
    (bundle : ArchiveBundle) (write : TapeArchiveWrite) : CompleteArchiveObjectRequest where
  bucket := entry.bucket
  key := entry.key
  versionId := current.versionId
  expectedSize := some current.size
  expectedChecksum := some current.checksum
  expectedStorageClass := some current.storageClass
  expectedUpdatedAt := current.updatedAt
  bundle := some bundle
  tapeBlockOffset := write.filemarkStart
  storageClass := StorageClass.cold.number

/-- Archive an object whose task has been claimed, and give the number of bytes written. -/
def archiveClaimed (client : TapeArchiveClient) (entry : StagingKeyEntry) (bundleId : String)
    (object : ObjectMetadata) (task : ArchiveTask) : Task Status Nat := do
  let staged ← getStaging entry.bucket entry.key entry.versionId
  checked (validateStagedObjectMatchesMetadata object staged)
  let write ← client.writeBundle bundleId 1 staged.data
  checked (ensure (write.bytesWritten = staged.data.length)
    (.internal ("tape writer reported " ++ decimal write.bytesWritten ++ " bytes for " ++
      bundleId ++ ", expected " ++ decimal staged.data.length)))
  -- The object may have been replaced while the tape was written.
  let current ← headObject entry.bucket entry.key
  checked (ensure (current.storageClass = StorageClass.coldPending.number)
    (.failedPrecondition ("object " ++ entry.bucket ++ "/" ++ entry.key ++
      " changed storage class during archive")))
  checked (validateStagedObjectMatchesMetadata current staged)
  let now ← nowTimestamp
  let bundle := archivedBundle entry bundleId staged.data write now
  applied (.completeArchiveObject (completionRequest entry current bundle write))
  deleteStaging entry.bucket entry.key entry.versionId
  finalizeArchiveTaskSuccess task write.bytesWritten
  pure write.bytesWritten

/-- Archive a listed object. A failure names the task to be marked as failed, if there is one. -/
def archiveEntry (s : SchedulerState) (client : TapeArchiveClient) (entry : StagingKeyEntry) :
    Task (Status × Option ArchiveTask) (Option Nat) := do
  let object ← mapErr (·, none) (headObject entry.bucket entry.key)
  let bundleId := phase1BundleId entry.bucket entry.key entry.versionId
  let task ← phase1ArchiveTask bundleId s.config.archiveTapeId object.size
  if object.storageClass ≠ StorageClass.coldPending.number then
    -- What is not waiting to be archived is taken out of staging.
    deleteStagingBestEffort entry.bucket entry.key entry.versionId
    pure none
  else
    match ← mapErr (·, some task) (claimArchiveTask task) with
    | none => pure none
    | some task =>
      let bytesWritten ← mapErr (·, some task) (archiveClaimed client entry bundleId object task)
      pure (some bytesWritten)

/-- The result of a batch with one more object. -/
def ArchiveBatchResult.add (result : ArchiveBatchResult) (entry : StagingKeyEntry) :
    Option Nat → ArchiveBatchResult
  | none => result
  | some bytesWritten =>
    { archivedObjects := result.archivedObjects + 1
      bytesWritten := result.bytesWritten + bytesWritten
      bundleIds := result.bundleIds ++ [phase1BundleId entry.bucket entry.key entry.versionId] }

/-- Archive listed objects one after the other, until one of them fails. -/
def archiveEntries (s : SchedulerState) (client : TapeArchiveClient) :
    List StagingKeyEntry → ArchiveBatchResult → Task Status ArchiveBatchResult
  | [], result => pure result
  | entry :: rest, result => do
    let itemKey := phase1ArchiveItemKey entry.bucket entry.key entry.versionId
    if ← acquireArchiveItem s itemKey then
      match ← tried (archiveEntry s client entry) with
      | .ok archived =>
        releaseArchiveItem s itemKey
        archiveEntries s client rest (result.add entry archived)
      | .error (status, task) =>
        if let some task := task then
          let _ : Except Status Unit ← tried (markArchiveTaskFailed task status.message)
        releaseArchiveItem s itemKey
        throw status
    else archiveEntries s client rest result

/-- Archive up to the given number of staged objects. -/
def archiveStagingBatch (s : SchedulerState) (client : TapeArchiveClient) (limit : Nat) :
    Task Status ArchiveBatchResult := do
  let entries ← listStagingKeys limit
  archiveEntries s client entries {}

def acquireTapeLease (s : SchedulerState) (tapeId : String) : Sched Unit :=
  locally (.acquireTapeLease s.number tapeId)

def releaseTapeLease (s : SchedulerState) (tapeId : String) : Sched Unit :=
  locally (.releaseTapeLease s.number tapeId)

/-- One pass of the archive loop, under the lease of its tape. -/
def archiveStagingOnce (s : SchedulerState) : Sched (Except Status ArchiveBatchResult) := do
  let config := s.config
  let tapeSet := if config.archiveTapeSet.isEmpty then [config.archiveTapeId]
    else config.archiveTapeSet
  let leased := tapeSet.head?.getD config.archiveTapeId
  acquireTapeLease s leased
  let client : TapeArchiveClient :=
    ⟨config.archiveDriveId, config.archiveTapeId, tapeSet, config.archiveBlockSize⟩
  let result ← attempt (archiveStagingBatch s client (min config.archiveBatchSize (2 ^ 32 - 1)))
  releaseTapeLease s leased
  pure result

end ColdStore.Scheduler
