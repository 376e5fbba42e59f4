import ColdStore.Metadata.Transition

/-! Every command applied to the catalogue, with the state it leaves also when it fails. -/

namespace ColdStore

open Rust

/-- The answer to a command and the state it leaves. -/
abbrev Applied := Except Status Unit × MetadataState

/-- Go on with the value of a check, or stop with its failure and leave the state as it is. -/
def Applied.given {α : Type} (check : Except Status α) (s : MetadataState)
    (rest : α → Applied) : Applied :=
  match check with
  | .ok value => rest value
  | .error status => (.error status, s)

/-- The time stamped on records, in whole seconds. -/
def nowTimestamp (clock : Nat) : Timestamp := { seconds := clock, nanos := 0 }

/-- Store a new object, replacing the same version of it. -/
def putObject (now : Timestamp) (object : ObjectMetadata) (s : MetadataState) : Applied :=
  if s.buckets.containsKey object.bucket then
    let object := { object with
      createdAt := object.createdAt.or (some now),
      updatedAt := some now }
    let stored := { s with objects := s.objects.insert object.objectKey object }
    (.ok (), refreshBucketStats stored object.bucket)
  else (.error (.notFound ("bucket not found: " ++ object.bucket)), s)

/-- Remove the version of an object that has no version id. -/
def deleteObject (request : DeleteObjectRequest) (s : MetadataState) : Applied :=
  let key : ObjectKey := ⟨request.bucket, request.key, none⟩
  if s.objects.containsKey key then
    let removed := { s with objects := s.objects.remove key }
    (.ok (), refreshBucketStats removed request.bucket)
  else (.error (.notFound "object not found"), s)

/-- Change an object in place. -/
def MetadataState.writeObject (s : MetadataState) (key : ObjectKey) (object : ObjectMetadata) :
    MetadataState := { s with objects := s.objects.update key object }

def updateStorageClass (now : Timestamp) (request : UpdateStorageClassRequest)
    (s : MetadataState) : Applied :=
  .given (findObjectMut s request.bucket request.key none) s fun (key, object) =>
    (.ok (), s.writeObject key { object with
      storageClass := request.storageClass,
      updatedAt := some now })

def updateArchiveLocation (now : Timestamp) (request : UpdateArchiveLocationRequest)
    (s : MetadataState) : Applied :=
  .given (findObjectMut s request.bucket request.key none) s fun (key, object) =>
    (.ok (), s.writeObject key { object with
      archiveId := some request.archiveId, tapeId := some request.tapeId,
      tapeSet := request.tapeSet, tapeBlockOffset := some request.tapeBlockOffset,
      updatedAt := some now })

/-- Store a bundle that is not stored yet. -/
def storeBundle (s : MetadataState) (bundle : ArchiveBundle) : MetadataState :=
  if s.archiveBundles.containsKey bundle.id then s
  else { s with archiveBundles := s.archiveBundles.insert bundle.id bundle }

/-- Record where an object was archived, if it is still the object that was archived. -/
def completeArchiveObject (now : Timestamp) (request : CompleteArchiveObjectRequest)
    (s : MetadataState) : Applied :=
  .given (okOr (.invalidArgument "missing archive bundle") request.bundle) s fun bundle =>
  .given (ensure (bundle.id != "") (.invalidArgument "archive bundle id is empty")) s fun _ =>
  .given (findObject s request.bucket request.key request.versionId) s fun object =>
  .given (validateCompleteArchivePreconditions object request) s fun _ =>
  -- A bundle that is already stored must be the same bundle.
  .given (ensure ((s.archiveBundles.get bundle.id).all (· == bundle))
    (.alreadyExists "archive bundle already exists with different payload")) s fun _ =>
  let s := storeBundle s bundle
  -- The bundle is stored by now, whether or not the second search finds the object.
  .given (findObjectMut s request.bucket request.key request.versionId) s fun (key, object) =>
      (.ok (), s.writeObject key { object with
        archiveId := some bundle.id, tapeId := some bundle.tapeId,
        tapeSet := bundle.tapeSet, tapeBlockOffset := some request.tapeBlockOffset,
        storageClass := request.storageClass,
        updatedAt := some now })

def updateRestoreStatus (now : Timestamp) (request : UpdateRestoreStatusRequest)
    (s : MetadataState) : Applied :=
  .given (findObjectMut s request.bucket request.key none) s fun (key, object) =>
  .given (validateRestoreTransition object.restoreStatus request.status) s fun _ =>
    (.ok (), s.writeObject key { object with
      restoreStatus := some request.status, restoreExpireAt := request.expireAt,
      updatedAt := some now })

def createBucket (now : Timestamp) (bucket : BucketInfo) (s : MetadataState) : Applied :=
  if s.buckets.containsKey bucket.name then
    (.error (.alreadyExists ("bucket already exists: " ++ bucket.name)), s)
  else
    let bucket := { bucket with createdAt := bucket.createdAt.or (some now) }
    (.ok (), { s with buckets := s.buckets.insert bucket.name bucket })

/-- Remove a bucket that holds no object of any version. -/
def deleteBucket (request : DeleteBucketRequest) (s : MetadataState) : Applied :=
  if s.objects.values.any fun object => object.bucket == request.name then
    (.error (.failedPrecondition "bucket is not empty"), s)
  else if s.buckets.containsKey request.name then
    (.ok (), { s with buckets := s.buckets.remove request.name })
  else (.error (.notFound ("bucket not found: " ++ request.name)), s)

def putArchiveBundle (now : Timestamp) (bundle : ArchiveBundle) (s : MetadataState) : Applied :=
  let bundle := { bundle with createdAt := bundle.createdAt.or (some now) }
  (.ok (), { s with archiveBundles := s.archiveBundles.insert bundle.id bundle })

def updateArchiveBundleStatus (now : Timestamp) (request : UpdateArchiveBundleStatusRequest)
    (s : MetadataState) : Applied :=
  .given (okOr (.notFound "archive bundle not found") (s.archiveBundles.get request.id)) s
    fun bundle =>
  .given (validateArchiveBundleTransition bundle.status request.status) s fun _ =>
    let updated := { bundle with
      status := request.status,
      completedAt := if request.status = ArchiveBundleStatus.bundleCompleted.number then some now
        else bundle.completedAt }
    (.ok (), { s with archiveBundles := s.archiveBundles.update request.id updated })

/-- Store a new archive task, or accept one that repeats what is stored. -/
def putArchiveTask (now : Timestamp) (task : ArchiveTask) (s : MetadataState) : Applied :=
  let task := { task with createdAt := task.createdAt.or (some now) }
  match s.archiveTasks.get task.id with
  | some existing =>
    if isSameArchiveTask existing task then (.ok (), s)
    else (.error (.alreadyExists "archive task already exists with different payload"), s)
  | none => (.ok (), { s with archiveTasks := s.archiveTasks.insert task.id task })

def updateArchiveTask (task : ArchiveTask) (s : MetadataState) : Applied :=
  .given (okOr (.notFound "archive task not found") (s.archiveTasks.get task.id)) s fun current =>
  .given (validateArchiveTaskTransition current.status task.status) s fun _ =>
    (.ok (), { s with archiveTasks := s.archiveTasks.insert task.id task })

/-- Store a new recall task, or accept one that repeats what is stored. -/
def putRecallTask (now : Timestamp) (task : RecallTask) (s : MetadataState) : Applied :=
  let task := { task with createdAt := task.createdAt.or (some now) }
  match s.recallTasks.get task.id with
  | some existing =>
    if isSameRecallTask existing task then (.ok (), s)
    else (.error (.alreadyExists "recall task already exists with different payload"), s)
  | none => (.ok (), { s with recallTasks := s.recallTasks.insert task.id task })

def updateRecallTask (task : RecallTask) (s : MetadataState) : Applied :=
  .given (okOr (.notFound "recall task not found") (s.recallTasks.get task.id)) s fun current =>
  .given (validateRestoreTransition (some current.status) task.status) s fun _ =>
    (.ok (), { s with recallTasks := s.recallTasks.insert task.id task })

def putTape (now : Timestamp) (tape : TapeInfo) (s : MetadataState) : Applied :=
  let tape := { tape with registeredAt := tape.registeredAt.or (some now) }
  (.ok (), { s with tapes := s.tapes.insert tape.id tape })

def updateTape (tape : TapeInfo) (s : MetadataState) : Applied :=
  (.ok (), { s with tapes := s.tapes.insert tape.id tape })

def registerSchedulerWorker (now : Timestamp) (worker : SchedulerWorkerInfo)
    (s : MetadataState) : Applied :=
  let worker := { worker with lastHeartbeat := some now }
  (.ok (), { s with schedulerWorkers := s.schedulerWorkers.insert worker.nodeId worker })

def deregisterSchedulerWorker (request : DeregisterWorkerRequest) (s : MetadataState) :
    Applied := (.ok (), { s with schedulerWorkers := s.schedulerWorkers.remove request.nodeId })

def registerCacheWorker (now : Timestamp) (worker : CacheWorkerInfo) (s : MetadataState) :
    Applied :=
  let worker := { worker with lastHeartbeat := some now }
  (.ok (), { s with cacheWorkers := s.cacheWorkers.insert worker.nodeId worker })

def deregisterCacheWorker (request : DeregisterWorkerRequest) (s : MetadataState) : Applied :=
  (.ok (), { s with cacheWorkers := s.cacheWorkers.remove request.nodeId })

def registerTapeWorker (now : Timestamp) (worker : TapeWorkerInfo) (s : MetadataState) :
    Applied :=
  let worker := { worker with lastHeartbeat := some now }
  (.ok (), { s with tapeWorkers := s.tapeWorkers.insert worker.nodeId worker })

def deregisterTapeWorker (request : DeregisterWorkerRequest) (s : MetadataState) : Applied :=
  (.ok (), { s with tapeWorkers := s.tapeWorkers.remove request.nodeId })

def updateWorkerStatus (request : UpdateWorkerStatusRequest) (s : MetadataState) : Applied :=
  let missing : Status := .notFound "worker not found"
  match tryFrom WorkerType request.workerType with
  | some .workerScheduler =>
    .given (okOr missing (s.schedulerWorkers.get request.nodeId)) s fun worker =>
      (.ok (), { s with schedulerWorkers :=
        s.schedulerWorkers.update request.nodeId { worker with status := request.status } })
  | some .workerCache =>
    .given (okOr missing (s.cacheWorkers.get request.nodeId)) s fun worker =>
      (.ok (), { s with cacheWorkers :=
        s.cacheWorkers.update request.nodeId { worker with status := request.status } })
  | some .workerTape =>
    .given (okOr missing (s.tapeWorkers.get request.nodeId)) s fun worker =>
      (.ok (), { s with tapeWorkers :=
        s.tapeWorkers.update request.nodeId { worker with status := request.status } })
  | _ => (.error missing, s)

/-- Take over the load a scheduler worker reports, if the report is one of a scheduler worker. -/
def SchedulerWorkerInfo.report (worker : SchedulerWorkerInfo) :
    Option HeartbeatPayload → SchedulerWorkerInfo
  | some (.scheduler archives recalls active) =>
    { worker with pendingArchiveTasks := archives, pendingRecallTasks := recalls, activeJobs := active }
  | _ => worker

/-- Take over the usage a cache worker reports, if the report is one of a cache worker. -/
def CacheWorkerInfo.report (worker : CacheWorkerInfo) : Option HeartbeatPayload → CacheWorkerInfo
  | some (.cache used blobs) => { worker with usedCapacity := used, blobCount := blobs }
  | _ => worker

/-- Take over the drives a tape worker reports, if the report is one of a tape worker. -/
def TapeWorkerInfo.report (worker : TapeWorkerInfo) : Option HeartbeatPayload → TapeWorkerInfo
  | some (.tape drives) => { worker with drives := drives }
  | _ => worker

def heartbeat (now : Timestamp) (request : HeartbeatRequest) (s : MetadataState) : Applied :=
  match tryFrom WorkerType request.workerType with
  | some .workerScheduler =>
    .given (okOr (.notFound "scheduler worker not found")
      (s.schedulerWorkers.get request.nodeId)) s fun worker =>
        let seen := { worker with lastHeartbeat := some now }
        (.ok (), { s with schedulerWorkers :=
          s.schedulerWorkers.update request.nodeId (seen.report request.payload) })
  | some .workerCache =>
    .given (okOr (.notFound "cache worker not found")
      (s.cacheWorkers.get request.nodeId)) s fun worker =>
        let seen := { worker with lastHeartbeat := some now }
        (.ok (), { s with cacheWorkers :=
          s.cacheWorkers.update request.nodeId (seen.report request.payload) })
  | some .workerTape =>
    .given (okOr (.notFound "tape worker not found")
      (s.tapeWorkers.get request.nodeId)) s fun worker =>
        let seen := { worker with lastHeartbeat := some now }
        (.ok (), { s with tapeWorkers :=
          s.tapeWorkers.update request.nodeId (seen.report request.payload) })
  | _ => (.error (.invalidArgument "unknown worker type"), s)

/-- Apply one command at the given time of the system clock. -/
def applyCommand (clock : Nat) (s : MetadataState) : MetadataCommand → Applied
  | .putObject object => putObject (nowTimestamp clock) object s
  | .deleteObject request => deleteObject request s
  | .updateStorageClass request => updateStorageClass (nowTimestamp clock) request s
  | .updateArchiveLocation request => updateArchiveLocation (nowTimestamp clock) request s
  | .completeArchiveObject request => completeArchiveObject (nowTimestamp clock) request s
  | .updateRestoreStatus request => updateRestoreStatus (nowTimestamp clock) request s
  | .createBucket bucket => createBucket (nowTimestamp clock) bucket s
  | .deleteBucket request => deleteBucket request s
  | .putArchiveBundle bundle => putArchiveBundle (nowTimestamp clock) bundle s
  | .updateArchiveBundleStatus request =>
    updateArchiveBundleStatus (nowTimestamp clock) request s
  | .putArchiveTask task => putArchiveTask (nowTimestamp clock) task s
  | .updateArchiveTask task => updateArchiveTask task s
  | .putRecallTask task => putRecallTask (nowTimestamp clock) task s
  | .updateRecallTask task => updateRecallTask task s
  | .putTape tape => putTape (nowTimestamp clock) tape s
  | .updateTape tape => updateTape tape s
  | .registerSchedulerWorker worker => registerSchedulerWorker (nowTimestamp clock) worker s
  | .deregisterSchedulerWorker request => deregisterSchedulerWorker request s
  | .registerCacheWorker worker => registerCacheWorker (nowTimestamp clock) worker s
  | .deregisterCacheWorker request => deregisterCacheWorker request s
  | .registerTapeWorker worker => registerTapeWorker (nowTimestamp clock) worker s
  | .deregisterTapeWorker request => deregisterTapeWorker request s
  | .updateWorkerStatus request => updateWorkerStatus request s
  | .heartbeat request => heartbeat (nowTimestamp clock) request s

end ColdStore
