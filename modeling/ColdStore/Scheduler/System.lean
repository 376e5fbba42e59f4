import ColdStore.Process.Task
import ColdStore.Scheduler.Objects
import ColdStore.Scheduler.Recall

/-! Schedulers that serve any number of requests at once, and their workers beside them. -/

namespace ColdStore.Scheduler

open Rust Process

/-- What is asked of a scheduler, and the passes of its workers. -/
inductive Request where
  | createBucket (bucket : String)
  | deleteBucket (bucket : String)
  | headBucket (bucket : String)
  | putObject (bucket key : String) (body : Bytes) (contentType : Option String)
  | getObject (bucket key : String)
  | deleteObject (bucket key : String)
  | restoreObject (bucket key : String) (days : Nat) (tier : RestoreTier)
  | archiveStagingBatch (s : SchedulerState) (client : TapeArchiveClient) (limit : Nat)
  | recallPendingBatch (s : SchedulerState) (limit : Nat)

/-- How a request ended. -/
inductive Outcome where
  | finished (answer : Except Status Unit)
  | put (answer : Except Status PutObjectResponse)
  | got (answer : Except Status (ObjectMetadata × Bytes))
  | restored (answer : Except Status RestoreObjectResponse)
  | archived (answer : Except Status ArchiveBatchResult)
  | recalled (batch : RecallBatch)

variable [Sha256]

/-- The program that serves a request. -/
def start : Request → Sched Outcome
  | .createBucket bucket => .finished <$> attempt (createBucket bucket)
  | .deleteBucket bucket => .finished <$> attempt (deleteBucket bucket)
  | .headBucket bucket => .finished <$> attempt (headBucket bucket)
  | .putObject bucket key body contentType =>
    .put <$> attempt (putObject bucket key body contentType)
  | .getObject bucket key => .got <$> attempt (getObject bucket key)
  | .deleteObject bucket key => .finished <$> attempt (deleteObject bucket key)
  | .restoreObject bucket key days tier =>
    .restored <$> attempt (restoreObject bucket key days tier)
  | .archiveStagingBatch s client limit =>
    .archived <$> attempt (archiveStagingBatch s client limit)
  | .recallPendingBatch s limit => .recalled <$> recallPendingBatch s limit

/-- The services, and every request started so far. -/
abbrev System := Config Call Reply World Request Outcome

/-- The system after some events, from a world in which nothing has been asked for yet. -/
def reached (service : CacheService) (env : Nat → Moment) (w : World)
    (events : List (Event Request)) : System :=
  Config.after (machine service env) start ⟨w, []⟩ events

omit [Sha256]

/-- The digests of two short bodies. -/
@[reducible] def shortDigests : Sha256 := .ofTable [
  ([97], #v[202, 151, 129, 18, 202, 27, 189, 202, 250, 194, 49, 179, 154, 35, 220, 77,
    167, 134, 239, 248, 20, 124, 78, 114, 185, 128, 119, 133, 175, 238, 72, 187]),
  ([98, 98], #v[59, 100, 219, 149, 203, 85, 199, 99, 57, 28, 112, 113, 8, 72, 154, 225,
    139, 65, 18, 215, 131, 48, 13, 227, 142, 3, 59, 76, 152, 195, 222, 175])]

/-- A fresh deployment with one bucket and one blank tape in its one drive. -/
def oneTapeWorld : World := .fresh ["docs"] (2 ^ 30) oneDrive

/-- A scheduler that archives to the one tape and recalls from it. -/
def oneTapeScheduler : SchedulerState where
  number := 0
  config := {
    archiveDriveId := "drive-0", archiveTapeId := "TAPE-1", archiveTapeSet := [],
    archiveBlockSize := 262144, archiveBatchSize := 128, recallDriveId := "drive-0" }

def oneTapeClient : TapeArchiveClient := ⟨"drive-0", "TAPE-1", ["TAPE-1"], 262144⟩

/-- The deployment with one tape after some events. -/
def oneTapeAfter (env : Nat → Moment) (events : List (Event Request)) : System :=
  letI := shortDigests
  reached (.even (2 ^ 30)) env oneTapeWorld events

/-- Serve the next calls of a thread. -/
def steps (count spot : Nat) : List (Event Request) := List.replicate count (.step spot)

/-- The deployment with one tape after an upload. -/
def stagedWorld : World :=
  (oneTapeAfter (still 0) ([.spawn (.putObject "docs" "a" [97] none)] ++ steps 3 0)).world

end ColdStore.Scheduler
