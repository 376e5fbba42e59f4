import ColdStore.Scheduler.Archive

/-! The recall worker: pending tasks are claimed, read from tape and kept in the cache. -/

namespace ColdStore.Scheduler

open Rust Process

/-- What a batch has recalled. -/
structure RecallBatchResult where
  restoredObjects : Nat := 0
  bytesRead : Nat := 0
  taskIds : List String := []
  deriving DecidableEq

def acquireRecallTask (s : SchedulerState) (key : String) : Sched Bool :=
  locally (.acquireRecallTask s.number key)

def releaseRecallTask (s : SchedulerState) (key : String) : Sched Unit :=
  locally (.releaseRecallTask s.number key)

/-- Put a task that may be there already. -/
def putRecallTaskOnce (task : RecallTask) : Task Status Unit := do
  match ← tried (applied (.putRecallTask task)) with
  | .ok () => pure ()
  | .error status => if status.code ≠ .alreadyExists then throw status

/-- Take a stored task over, unless someone else has moved it, and mark its object. -/
def startRecallTask (current : RecallTask) : Task Status (Option RecallTask) := do
  let now ← nowTimestamp
  let claimed := { current with
    status := RestoreStatus.restoreInProgress.number
    error := none
    startedAt := some now }
  match ← tried (updateRecallTask claimed) with
  | .error status => if status.code = .failedPrecondition then pure none else throw status
  | .ok () =>
    updateObjectRestoreStatus claimed.bucket claimed.key .restoreInProgress claimed.expireAt
    pure (some claimed)

/-- A recall task as it is taken over. -/
def claimedRecall (current : RecallTask) (now : Timestamp) : RecallTask :=
  { current with
    status := RestoreStatus.restoreInProgress.number
    error := none
    startedAt := some now }

/-- Claim a task: the stored task when it could be claimed, and nothing when it is not free. -/
def claimRecallTask (task : RecallTask) : Task Status (Option RecallTask) := do
  putRecallTaskOnce task
  let current ← getRecallTask task.id
  match tryFrom RestoreStatus current.status with
  | none => throw (.internal "invalid restore task status")
  | some .restorePending | some .restoreWaitingForMedia => startRecallTask current
  | some .restoreCompleted | some .restoreExpired => pure none
  | some .restoreInProgress => pure none
  | some .restoreFailed => pure none
  | some .unspecified => pure none

/-- Fail a task and its object, unless the task has come to an end already. -/
def markRecallFailed (task : RecallTask) (error : String) : Task Status Unit := do
  let current ← getRecallTask task.id
  match tryFrom RestoreStatus current.status with
  | none => throw (.internal "invalid restore task status")
  | some .restoreCompleted => pure ()
  | some .restoreFailed => pure ()
  | some _ =>
    let now ← nowTimestamp
    let failed := { current with
      status := RestoreStatus.restoreFailed.number
      retryCount := saturatingSuccU32 current.retryCount
      completedAt := some now
      error := some error }
    match ← tried (updateRecallTask failed) with
    | .ok () => pure ()
    | .error status => if status.code ≠ .failedPrecondition then throw status
    updateObjectRestoreStatus failed.bucket failed.key .restoreFailed none

/-- Send a claimed task back to waiting, unless it has been moved, and its object with it. -/
def retryRecallTaskLater (task : RecallTask) (error : String) : Task Status Unit := do
  let current ← getRecallTask task.id
  match tryFrom RestoreStatus current.status with
  | none => throw (.internal "invalid recall task status")
  | some .restoreInProgress =>
    let waiting := { current with
      status := RestoreStatus.restoreWaitingForMedia.number
      error := some error
      startedAt := none
      retryCount := saturatingSuccU32 current.retryCount }
    updateRecallTask waiting
    updateObjectRestoreStatus waiting.bucket waiting.key .restoreWaitingForMedia waiting.expireAt
  | some _ => pure ()

variable [Sha256]

/-- Check what was read from tape against the task. -/
def validateRecalled (task : RecallTask) (data : Bytes) : Except Status Unit := do
  ensure (data.length = task.objectSize) (.dataLoss ("recall task " ++ task.id ++ " read " ++
    decimal data.length ++ " bytes, expected " ++ decimal task.objectSize))
  ensure (sha256Hex data = task.checksum)
    (.dataLoss ("recall task " ++ task.id ++ " checksum mismatch"))

/-- Check that the object is still the archived one a task was made for. -/
def validateRecallTarget (task : RecallTask) (object : ObjectMetadata) : Except Status Unit := do
  ensure (object.storageClass = StorageClass.cold.number) (.failedPrecondition
    ("recall task " ++ task.id ++ " requires a COLD object"))
  ensure (object.archiveId = some task.archiveId) (.failedPrecondition
    ("recall task " ++ task.id ++ " archive_id does not match current object metadata"))
  ensure (task.tapeBlockOffset < 2 ^ 32)
    (.invalidArgument "recall tape offset does not fit filemark")

/-- When a recalled object expires: as the task says, or in a day. -/
def recallExpiry (task : RecallTask) : Sched Timestamp :=
  match task.expireAt with
  | some expireAt => pure expireAt
  | none => do
    let now ← nowTimestamp
    pure (daysFromNow now 1)

/-- Bring the object of a claimed task into the cache, and give the number of bytes read. -/
def processRecallTask (recallDriveId : String) (task : RecallTask) : Task Status Nat := do
  let object ← headObject task.bucket task.key
  checked (validateRecallTarget task object)
  let data ← readBundle recallDriveId task.tapeId task.tapeBlockOffset task.objectSize
  checked (validateRecalled task data)
  let expireAt ← recallExpiry task
  putRestored object data expireAt
  let now ← nowTimestamp
  updateRecallTask { task with
    status := RestoreStatus.restoreCompleted.number
    completedAt := some now
    error := none }
  updateObjectRestoreStatus task.bucket task.key .restoreCompleted (some expireAt)
  pure task.objectSize

/-- A claimed task and how its processing went. -/
abbrev Processed := RecallTask × Except Status Nat

/-- Process a claimed task and record a failure with the task; a failure to record ends the batch. -/
def recallClaimed (s : SchedulerState) (task : RecallTask) :
    Sched (Option Status × Option Processed) := do
  let outcome ← attempt (processRecallTask s.config.recallDriveId task)
  match outcome with
  | .ok _ => pure (none, some (task, outcome))
  | .error status =>
    let finalized ← attempt (if isRetriableRecallProcessingError status then
        retryRecallTaskLater task status.message
      else markRecallFailed task status.message)
    match finalized with
    | .ok () => pure (none, some (task, outcome))
    | .error status => pure (some status, some (task, outcome))

/-- Claim and process a task, under the lease of its tape, unless this scheduler is at it already. -/
def recallTask (s : SchedulerState) (task : RecallTask) :
    Sched (Option Status × Option Processed) := do
  let taskKey := phase1RecallTaskKey task
  if ← acquireRecallTask s taskKey then
    acquireTapeLease s task.tapeId
    let claimed ← attempt (claimRecallTask task)
    let step ← match claimed with
      | .error status => pure (some status, none)
      | .ok none => pure (none, none)
      | .ok (some claimed) => recallClaimed s claimed
    releaseRecallTask s taskKey
    releaseTapeLease s task.tapeId
    pure step
  else pure (none, none)

/-- The result of a batch with one more task. -/
def RecallBatchResult.add (result : RecallBatchResult) : Option Processed → RecallBatchResult
  | some (task, .ok bytesRead) =>
    { restoredObjects := result.restoredObjects + 1
      bytesRead := result.bytesRead + bytesRead
      taskIds := result.taskIds ++ [task.id] }
  | _ => result

/-- The answer of a batch, and beside it every claimed task with how its processing went. -/
structure RecallBatch where
  answer : Except Status RecallBatchResult
  processed : List Processed
  deriving DecidableEq

/-- Recall tasks one after the other, each in a slot, until one of them ends the batch. -/
def recallTasks (s : SchedulerState) :
    List RecallTask → RecallBatchResult → List Processed → Sched RecallBatch
  | [], result, processed => pure ⟨.ok result, processed⟩
  | task :: rest, result, processed => do
    locally (.acquireRecallTaskSlot s.number)
    let (failure, step) ← recallTask s task
    locally (.releaseRecallTaskSlot s.number)
    match failure with
    | some status => pure ⟨.error status, processed ++ step.toList⟩
    | none => recallTasks s rest (result.add step) (processed ++ step.toList)

/-- Recall up to the given number of pending tasks. -/
def recallPendingBatch (s : SchedulerState) (limit : Nat) : Sched RecallBatch := do
  let listed : Except Status (List RecallTask) ← attempt (askMetadata .listPendingRecallTasks)
  match listed with
  | .error status => pure ⟨.error status, []⟩
  | .ok tasks =>
    let sorted := sortRecallTasks (tasks.filter isPendingRecallTask)
    recallTasks s (sorted.take limit) {} []

end ColdStore.Scheduler
