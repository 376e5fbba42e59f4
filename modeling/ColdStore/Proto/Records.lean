import ColdStore.Proto.Common

/-!
Records of `common.proto`.

Every field has the default a message starts with, and enumerations are kept as the integers sent.
-/

namespace ColdStore

/-- Seconds since the epoch and the nanoseconds after them. -/
structure Timestamp where
  seconds : Int := 0
  nanos : Int := 0
  deriving DecidableEq

/-- What the catalogue knows about one object. -/
structure ObjectMetadata where
  bucket : String := ""
  key : String := ""
  versionId : Option String := none
  size : Nat := 0
  checksum : String := ""
  contentType : Option String := none
  etag : Option String := none
  storageClass : Int := 0
  archiveId : Option String := none
  tapeId : Option String := none
  tapeSet : List String := []
  tapeBlockOffset : Option Nat := none
  restoreStatus : Option Int := none
  restoreExpireAt : Option Timestamp := none
  createdAt : Option Timestamp := none
  updatedAt : Option Timestamp := none
  deriving DecidableEq

/-- One object inside an archive bundle. -/
structure BundleEntry where
  bucket : String := ""
  key : String := ""
  versionId : Option String := none
  size : Nat := 0
  offsetInBundle : Nat := 0
  tapeBlockOffset : Nat := 0
  checksum : String := ""
  deriving DecidableEq

/-- A bundle of objects written to tape in one go. -/
structure ArchiveBundle where
  id : String := ""
  tapeId : String := ""
  tapeSet : List String := []
  entries : List BundleEntry := []
  totalSize : Nat := 0
  filemarkStart : Nat := 0
  filemarkEnd : Nat := 0
  checksum : Option String := none
  status : Int := 0
  createdAt : Option Timestamp := none
  completedAt : Option Timestamp := none
  deriving DecidableEq

/-- A tape the catalogue knows. -/
structure TapeInfo where
  id : String := ""
  barcode : Option String := none
  format : String := ""
  status : Int := 0
  location : Option String := none
  capacityBytes : Nat := 0
  usedBytes : Nat := 0
  remainingBytes : Nat := 0
  archiveBundleIds : List String := []
  lastVerifiedAt : Option Timestamp := none
  errorCount : Nat := 0
  registeredAt : Option Timestamp := none
  deriving DecidableEq

/-- A request to read an object back from tape. -/
structure RecallTask where
  id : String := ""
  bucket : String := ""
  key : String := ""
  versionId : Option String := none
  archiveId : String := ""
  tapeId : String := ""
  tapeSet : List String := []
  tapeBlockOffset : Nat := 0
  objectSize : Nat := 0
  checksum : String := ""
  tier : Int := 0
  days : Nat := 0
  expireAt : Option Timestamp := none
  status : Int := 0
  driveId : Option String := none
  retryCount : Nat := 0
  createdAt : Option Timestamp := none
  startedAt : Option Timestamp := none
  completedAt : Option Timestamp := none
  error : Option String := none
  deriving DecidableEq

/-- A request to write a bundle to tape. -/
structure ArchiveTask where
  id : String := ""
  bundleId : String := ""
  tapeId : String := ""
  driveId : Option String := none
  objectCount : Nat := 0
  totalSize : Nat := 0
  bytesWritten : Nat := 0
  status : Int := 0
  retryCount : Nat := 0
  createdAt : Option Timestamp := none
  startedAt : Option Timestamp := none
  completedAt : Option Timestamp := none
  error : Option String := none
  deriving DecidableEq

/-- A bucket and the totals over its objects. -/
structure BucketInfo where
  name : String := ""
  createdAt : Option Timestamp := none
  owner : Option String := none
  versioningEnabled : Bool := false
  objectCount : Nat := 0
  totalSize : Nat := 0
  deriving DecidableEq

/-- A scheduler worker and its load. -/
structure SchedulerWorkerInfo where
  nodeId : Nat := 0
  addr : String := ""
  status : Int := 0
  lastHeartbeat : Option Timestamp := none
  isActive : Bool := false
  pendingArchiveTasks : Nat := 0
  pendingRecallTasks : Nat := 0
  activeJobs : Nat := 0
  pairedCacheWorkerId : Nat := 0
  deriving DecidableEq

/-- A cache worker and its capacity. -/
structure CacheWorkerInfo where
  nodeId : Nat := 0
  addr : String := ""
  status : Int := 0
  lastHeartbeat : Option Timestamp := none
  bdevName : String := ""
  totalCapacity : Nat := 0
  usedCapacity : Nat := 0
  blobCount : Nat := 0
  ioUnitSize : Nat := 0
  deriving DecidableEq

/-- A drive as a tape worker reports it. -/
structure DriveEndpoint where
  driveId : String := ""
  devicePath : String := ""
  driveType : String := ""
  status : Int := 0
  currentTape : Option String := none
  deriving DecidableEq

/-- A tape library as a tape worker reports it. -/
structure LibraryEndpoint where
  devicePath : String := ""
  slotCount : Nat := 0
  importExportCount : Nat := 0
  driveCount : Nat := 0
  deriving DecidableEq

/-- A tape worker and its devices. -/
structure TapeWorkerInfo where
  nodeId : Nat := 0
  addr : String := ""
  status : Int := 0
  lastHeartbeat : Option Timestamp := none
  drives : List DriveEndpoint := []
  library : Option LibraryEndpoint := none
  deriving DecidableEq

end ColdStore
