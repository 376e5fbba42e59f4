import ColdStore.Scheduler.Rules
import ColdStore.Scheduler.World

/-! The clients through which a scheduler reaches the metadata, cache and tape services. -/

namespace ColdStore.Scheduler

open Rust Process

/-- What a scheduler runs, call by call. -/
abbrev Sched (α : Type) := Program Call Reply α

/-- What a scheduler runs and may fail. -/
abbrev Task (ε α : Type) := ExceptT ε (Program Call Reply) α

/-- Make one call. -/
def ask (call : Call) : Sched (Reply call) := Program.perform call

def askMetadata (call : MetadataCall) : Task Status call.Value := ExceptT.mk (ask (.metadata call))

def askCache (call : CacheCall) : Task Status call.Value := ExceptT.mk (ask (.cache call))

def askTape (call : TapeRequest) : Task Status call.Value := ExceptT.mk (ask (.tape call))

def locally (call : LocalCall) : Sched call.Value := ask (.here call)

/-- A check that needs no call. -/
def checked {ε α : Type} (result : Except ε α) : Task ε α := ExceptT.mk (pure result)

/-- Report the failure of a task as another kind of failure. -/
def mapErr {ε δ α : Type} (change : ε → δ) (task : Task ε α) : Task δ α := ExceptT.adapt change task

/-- Run a task and go on with its result, whether it failed or not. -/
def attempt {ε α : Type} (task : Task ε α) : Sched (Except ε α) := task.run

/-- Run a task inside another one and go on with its result, whether it failed or not. -/
def tried {ε δ α : Type} (task : Task ε α) : Task δ (Except ε α) := ExceptT.lift task.run

/-! The metadata service. -/

def applied (command : MetadataCommand) : Task Status Unit := askMetadata (.apply command)

variable (bucket key : String)

def headObject : Task Status ObjectMetadata := askMetadata (.headObject bucket key)

def getArchiveTask (id : String) : Task Status ArchiveTask := askMetadata (.getArchiveTask id)

def getRecallTask (id : String) : Task Status RecallTask := askMetadata (.getRecallTask id)

def updateArchiveTask (task : ArchiveTask) : Task Status Unit := applied (.updateArchiveTask task)

def updateRecallTask (task : RecallTask) : Task Status Unit := applied (.updateRecallTask task)

def updateObjectRestoreStatus (status : RestoreStatus)
    (expireAt : Option Timestamp) : Task Status Unit :=
  applied (.updateRestoreStatus ⟨bucket, key, status.number, expireAt⟩)

def nowTimestamp : Sched Timestamp := locally .now

/-! The cache service. -/

/-- Send an object to staging in two messages, its description and its data. -/
def putStagingObject (object : PutStagingMeta) (data : Bytes) : Task Status String :=
  askCache (.putStaging [some (.metadata object), some (.data data)])

def listStagingKeys (limit : Nat) : Task Status (List StagingKeyEntry) := do
  let response : ListStagingKeysResponse ← askCache (.listStagingKeys limit none)
  pure response.entries

/-- Put the streamed answer of a staged object together. -/
def stagedObject (messages : List (Message StagingObjectMeta)) :
    Except Status Phase1StagedObject := do
  let (received, data) ← drainStream
    (.invalidArgument "cache get_staging returned duplicate metadata")
    (.internal "cache get_staging returned empty chunk") none [] messages
  let description ← okOr (.internal "cache get_staging stream ended without metadata") received
  pure ⟨description, data⟩

def getStaging (versionId : Option String) : Task Status Phase1StagedObject := do
  let messages ← askCache (.getStaging ⟨bucket, key, versionId⟩)
  checked (stagedObject messages)

def deleteStaging (versionId : Option String) : Task Status Unit :=
  askCache (.deleteStaging ⟨bucket, key, versionId⟩)

/-- Delete a staged object, and forget how that went. -/
def deleteStagingBestEffort (versionId : Option String) : Sched Unit := do
  let _ ← attempt (deleteStaging bucket key versionId)

/-- Delete an object from both parts of the cache, and forget how that went. -/
def deleteCachedObjectBestEffort (versionId : Option String) : Sched Unit := do
  let _ ← attempt (askCache (.delete ⟨bucket, key, versionId⟩))
  let _ ← attempt (deleteStaging bucket key versionId)

/-- Send a recalled object to the cache in two messages, its description and its data. -/
def putRestored [Sha256] (object : ObjectMetadata) (data : Bytes) (expireAt : Timestamp) :
    Task Status Unit :=
  askCache (.putRestored [
    some (.metadata ⟨object.bucket, object.key, object.versionId, data.length,
      some (sha256Hex data), object.contentType, object.etag, some expireAt⟩), some (.data data)])

/-! The tape service. -/

def loadTape (tapeId driveId : String) : Task Status Unit := askTape (.loadTape tapeId driveId none)

/-- Bring a tape into a drive, unless it is there already. -/
def loadUnlessLoaded (driveId tapeId : String) (currentTape : Option String) : Task Status Unit :=
  if currentTape ≠ some tapeId then loadTape tapeId driveId else pure ()

/-- The drive that was leased, which is the preferred one if the answer does not name it. -/
def AcquireDriveResponse.leased (preferredDriveId : String) (acquired : AcquireDriveResponse) :
    String :=
  if acquired.driveId = "" then preferredDriveId else acquired.driveId

/-- Lease a drive and bring a tape into it. -/
def acquireAndLoadTape (preferredDriveId tapeId : String) : Task Status String := do
  let acquired : AcquireDriveResponse ← askTape (.acquireDrive (some preferredDriveId) none)
  loadUnlessLoaded (AcquireDriveResponse.leased preferredDriveId acquired) tapeId acquired.currentTape
  pure (AcquireDriveResponse.leased preferredDriveId acquired)

/-- Give a drive back, and forget how that went. -/
def releaseDriveBestEffort (driveId : String) : Sched Unit := do
  let _ ← attempt (askTape (.releaseDrive driveId))

/-- The drive and tape an archive worker writes to. -/
structure TapeArchiveClient where
  driveId : String
  tapeId : String
  tapeSet : List String
  blockSize : Nat

/-- Where an archived bundle went. -/
structure TapeArchiveWrite where
  tapeId : String
  tapeSet : List String
  filemarkStart : Nat
  filemarkEnd : Nat
  bytesWritten : Nat
  deriving DecidableEq

/-- Check that an answer is a success, and one to the bundle and drive it was asked about. -/
def TapeArchiveClient.written (client : TapeArchiveClient) (driveId bundleId : String)
    (response : WriteBundleResponse) : Except Status TapeArchiveWrite := do
  ensure response.success (.internal ("tape write_bundle failed for " ++ bundleId ++ ": " ++
    response.error.getD "unknown tape error"))
  ensure (response.driveId = driveId) (.internal ("tape write_bundle responded for drive " ++
    response.driveId ++ ", expected " ++ driveId))
  ensure (response.bundleId = bundleId) (.internal ("tape write_bundle responded for bundle " ++
    response.bundleId ++ ", expected " ++ bundleId))
  pure ⟨client.tapeId, client.tapeSet, response.filemarkStart, response.filemarkEnd,
    response.bytesWritten⟩

/-- Write a bundle to the tape of the client. -/
def TapeArchiveClient.writeBundle (client : TapeArchiveClient) (bundleId : String)
    (objectCount : Nat) (data : Bytes) : Task Status TapeArchiveWrite := do
  let driveId ← acquireAndLoadTape client.driveId client.tapeId
  let response : Except Status WriteBundleResponse ← tried (askTape (.writeBundle [
    some (.metadata ⟨driveId, bundleId, data.length, objectCount, client.blockSize⟩),
    some (.data data)]))
  -- The drive is given back before the answer is looked at.
  releaseDriveBestEffort driveId
  match response with
  | .error status => throw status
  | .ok response => checked (client.written driveId bundleId response)

/-- Put the streamed answer of a tape read together. -/
def readBytes (messages : List (Message ReadBundleMeta)) : Except Status Bytes := do
  let (received, data) ← drainStream (.internal "tape read returned duplicate metadata")
    (.internal "tape read returned empty chunk") none [] messages
  -- Without a description there is no size to compare with.
  ensure (received.all fun description => description.totalSize = data.length)
    (.dataLoss ("tape read returned " ++ decimal data.length ++ " bytes, expected " ++
      decimal ((received.map ReadBundleMeta.totalSize).getD 0)))
  pure data

/-- Read a bundle from a tape, in the drive a recall worker uses. -/
def readBundle (recallDriveId tapeId : String) (filemark length : Nat) : Task Status Bytes := do
  let driveId ← acquireAndLoadTape recallDriveId tapeId
  let answer : Except Status (List (Message ReadBundleMeta)) ←
    tried (askTape (.readBundle driveId (some (.filemark filemark)) length))
  releaseDriveBestEffort driveId
  match answer with
  | .error status => throw status
  | .ok messages => checked (readBytes messages)

end ColdStore.Scheduler
