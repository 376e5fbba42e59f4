import ColdStore.Proto.Records

/-! The commands that change the catalogue, with the requests they carry. -/

namespace ColdStore

structure DeleteObjectRequest where
  bucket : String
  key : String

structure UpdateStorageClassRequest where
  bucket : String
  key : String
  storageClass : Int

structure UpdateArchiveLocationRequest where
  bucket : String
  key : String
  archiveId : String
  tapeId : String
  tapeSet : List String
  tapeBlockOffset : Nat

/-- The object to complete, what it must still look like, and where it was archived. -/
structure CompleteArchiveObjectRequest where
  bucket : String
  key : String
  versionId : Option String
  expectedSize : Option Nat
  expectedChecksum : Option String
  expectedStorageClass : Option Int
  expectedUpdatedAt : Option Timestamp
  bundle : Option ArchiveBundle
  tapeBlockOffset : Nat
  storageClass : Int

structure UpdateRestoreStatusRequest where
  bucket : String
  key : String
  status : Int
  expireAt : Option Timestamp

structure DeleteBucketRequest where
  name : String

structure UpdateArchiveBundleStatusRequest where
  id : String
  status : Int

structure DeregisterWorkerRequest where
  nodeId : Nat

structure UpdateWorkerStatusRequest where
  workerType : Int
  nodeId : Nat
  status : Int

/-- What a worker reports with its heartbeat. -/
inductive HeartbeatPayload where
  | scheduler (pendingArchiveTasks pendingRecallTasks activeJobs : Nat)
  | cache (usedCapacity blobCount : Nat)
  | tape (drives : List DriveEndpoint)

structure HeartbeatRequest where
  workerType : Int
  nodeId : Nat
  payload : Option HeartbeatPayload

/-- A change of the catalogue, as it is logged and applied. -/
inductive MetadataCommand where
  | putObject (object : ObjectMetadata)
  | deleteObject (request : DeleteObjectRequest)
  | updateStorageClass (request : UpdateStorageClassRequest)
  | updateArchiveLocation (request : UpdateArchiveLocationRequest)
  | completeArchiveObject (request : CompleteArchiveObjectRequest)
  | updateRestoreStatus (request : UpdateRestoreStatusRequest)
  | createBucket (bucket : BucketInfo)
  | deleteBucket (request : DeleteBucketRequest)
  | putArchiveBundle (bundle : ArchiveBundle)
  | updateArchiveBundleStatus (request : UpdateArchiveBundleStatusRequest)
  | putArchiveTask (task : ArchiveTask)
  | updateArchiveTask (task : ArchiveTask)
  | putRecallTask (task : RecallTask)
  | updateRecallTask (task : RecallTask)
  | putTape (tape : TapeInfo)
  | updateTape (tape : TapeInfo)
  | registerSchedulerWorker (worker : SchedulerWorkerInfo)
  | deregisterSchedulerWorker (request : DeregisterWorkerRequest)
  | registerCacheWorker (worker : CacheWorkerInfo)
  | deregisterCacheWorker (request : DeregisterWorkerRequest)
  | registerTapeWorker (worker : TapeWorkerInfo)
  | deregisterTapeWorker (request : DeregisterWorkerRequest)
  | updateWorkerStatus (request : UpdateWorkerStatusRequest)
  | heartbeat (request : HeartbeatRequest)

end ColdStore
