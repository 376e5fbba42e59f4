import ColdStore.Cache.Service
import ColdStore.Metadata.Apply
import ColdStore.Metadata.Listing
import ColdStore.Metadata.Queries
import ColdStore.Process.Concurrent
import ColdStore.Tape.Service

/-!
The services a scheduler calls, one call at a time.

A call is served in one step, and the moment it is served at decides what the clocks show and
whether the call or its answer is lost.
-/

namespace ColdStore

open Rust Process

namespace Scheduler

/-- Calls of the metadata service. -/
inductive MetadataCall where
  | apply (command : MetadataCommand)
  | headObject (bucket key : String)
  | getObject (bucket key : String)
  | getBucket (name : String)
  | listObjects (request : ListObjectsRequest)
  | getArchiveTask (id : String)
  | getRecallTask (id : String)
  | listPendingRecallTasks

/-- Calls of the cache service. -/
inductive CacheCall where
  | putStaging (messages : List (Message PutStagingMeta))
  | getStaging (key : CacheKey)
  | deleteStaging (key : CacheKey)
  | listStagingKeys (limit : Nat) (after : Option String)
  | putRestored (messages : List (Message PutRestoredMeta))
  | get (key : CacheKey)
  | delete (key : CacheKey)

/-- Calls of the tape service. -/
inductive TapeRequest where
  | acquireDrive (preferredDriveId requiredTapeId : Option String)
  | releaseDrive (driveId : String)
  | loadTape (tapeId driveId : String) (slotId : Option String)
  | writeBundle (messages : List (Message WriteBundleMeta))
  | readBundle (driveId : String) (location : Option ReadLocation) (length : Nat)

/-- What a scheduler does on its own: read its clock, and enter and leave what its tasks share. -/
inductive LocalCall where
  | now
  | acquireArchiveItem (scheduler : Nat) (key : String)
  | releaseArchiveItem (scheduler : Nat) (key : String)
  | acquireRecallTask (scheduler : Nat) (key : String)
  | releaseRecallTask (scheduler : Nat) (key : String)
  | acquireRecallTaskSlot (scheduler : Nat)
  | releaseRecallTaskSlot (scheduler : Nat)
  | acquireTapeLease (scheduler : Nat) (tapeId : String)
  | releaseTapeLease (scheduler : Nat) (tapeId : String)

/-- Everything a scheduler calls. -/
inductive Call where
  | metadata (call : MetadataCall)
  | cache (call : CacheCall)
  | tape (call : TapeRequest)
  | here (call : LocalCall)

/-- The value a successful metadata call returns. -/
def MetadataCall.Value : MetadataCall → Type
  | .apply _ => Unit
  | .headObject _ _ => ObjectMetadata
  | .getObject _ _ => ObjectMetadata
  | .getBucket _ => BucketInfo
  | .listObjects _ => ListObjectsResponse
  | .getArchiveTask _ => ArchiveTask
  | .getRecallTask _ => RecallTask
  | .listPendingRecallTasks => List RecallTask

/-- The value a successful cache call returns. -/
def CacheCall.Value : CacheCall → Type
  | .putStaging _ => String
  | .getStaging _ => List (Message StagingObjectMeta)
  | .deleteStaging _ => Unit
  | .listStagingKeys _ _ => ListStagingKeysResponse
  | .putRestored _ => Unit
  | .get _ => List (Message CachedObjectMeta)
  | .delete _ => Unit

/-- The value a successful tape call returns. -/
def TapeRequest.Value : TapeRequest → Type
  | .acquireDrive _ _ => AcquireDriveResponse
  | .releaseDrive _ => Unit
  | .loadTape _ _ _ => Unit
  | .writeBundle _ => WriteBundleResponse
  | .readBundle _ _ _ => List (Message ReadBundleMeta)

/-- The value a local call returns. -/
def LocalCall.Value : LocalCall → Type
  | .now => Timestamp
  | .acquireArchiveItem _ _ => Bool
  | .acquireRecallTask _ _ => Bool
  | _ => Unit

/-- A remote call may fail, a local one may not. -/
def Reply : Call → Type
  | .metadata call => Except Status call.Value
  | .cache call => Except Status call.Value
  | .tape call => Except Status call.Value
  | .here call => call.Value

/-- What the tasks of one scheduler share. -/
structure SchedulerLocks where
  activeArchiveKeys : List String := []
  activeRecallTasks : List String := []
  leasedTapes : List String := []
  /-- Permits left for recall tasks. -/
  recallTaskSlots : Nat := 1

/-- All services and schedulers, and the number of calls served so far. Maps are iterated in the
order they were filled in. -/
structure World where
  metadata : MetadataState
  cache : CacheState HddBackend
  tape : SimulatorState
  schedulers : Nat → SchedulerLocks
  tick : Nat

/-- A catalogue with some buckets and nothing in them. -/
def freshCatalogue (buckets : List String) : MetadataState where
  buckets := buckets.foldl (fun map name => map.insert name { name }) HashMap.empty

/-- A fresh deployment: empty buckets, an empty cache of some size, and the given tapes. -/
def World.fresh (buckets : List String) (cacheBytes : Nat) (tape : SimulatorState) : World where
  metadata := freshCatalogue buckets
  cache := ⟨⟨HashMap.empty, cacheBytes, 1⟩, {}⟩
  tape := tape
  schedulers _ := {}
  tick := 0

/-- How a remote call can go wrong on the way. -/
inductive Fault where
  /-- The service never saw the call. -/
  | unreached (status : Status)
  /-- The service served the call, and its answer was lost. -/
  | unanswered (status : Status)

/-- What the outside contributes to one call. -/
structure Moment where
  seconds : Nat
  nanos : Nat
  fault : Option Fault := none

/-- Every call arrives and is answered. -/
abbrev Calm (env : Nat → Moment) : Prop := ∀ tick, (env tick).fault = none

/-- Every call arrives, and the clocks stand still. -/
def still (seconds : Nat) (_ : Nat) : Moment := { seconds, nanos := 0 }

/-- The clocks stand still, and one call never arrives. -/
def lostAt (position : Nat) (status : Status) (tick : Nat) : Moment where
  seconds := 0
  nanos := 0
  fault := if tick = position then some (.unreached status) else none

/-- Answer and state of a call after what happens to it on the way. -/
def delivered {α σ : Type} (moment : Moment) (before : σ) (served : Except Status α × σ) :
    Except Status α × σ :=
  match moment.fault with
  | none => served
  | some (.unreached status) => (.error status, before)
  | some (.unanswered status) => (.error status, served.2)

/-- Serve a metadata call. -/
def MetadataCall.serve (moment : Moment) (s : MetadataState) :
    (call : MetadataCall) → Except Status call.Value × MetadataState
  | .apply command => applyCommand moment.seconds s command
  | .headObject bucket key => (s.headObject bucket key, s)
  | .getObject bucket key => (s.getObject bucket key, s)
  | .getBucket name => (s.getBucket name, s)
  | .listObjects request => (s.listObjects request, s)
  | .getArchiveTask id => (s.getArchiveTask id, s)
  | .getRecallTask id => (s.getRecallTask id, s)
  | .listPendingRecallTasks => (.ok s.listPendingRecallTasks, s)

/-- Serve a cache call. -/
def CacheCall.serve (service : CacheService) (moment : Moment) (s : CacheState HddBackend) :
    (call : CacheCall) → Except Status call.Value × CacheState HddBackend
  | .putStaging messages => service.putStaging moment.seconds s messages
  | .getStaging key => (s.getStaging key, s)
  | .deleteStaging key => s.deleteStaging key
  | .listStagingKeys limit after => (.ok (s.listStagingKeys limit after), s)
  | .putRestored messages => service.putRestored moment.seconds s messages
  | .get key => CacheState.get moment.seconds s key
  | .delete key => s.delete key

/-- Serve a tape call. -/
def TapeRequest.serve (s : SimulatorState) :
    (call : TapeRequest) → Except Status call.Value × SimulatorState
  | .acquireDrive preferred required => s.acquireDrive preferred required
  | .releaseDrive driveId => s.releaseDrive driveId
  | .loadTape tapeId driveId slotId => s.loadTape tapeId driveId slotId
  | .writeBundle messages => s.writeBundleFromMessages messages
  | .readBundle driveId location length => s.readBundleStream driveId location length

/-- The scheduler a local call belongs to. The clock belongs to none of them. -/
def LocalCall.scheduler : LocalCall → Nat
  | .now => 0
  | .acquireArchiveItem scheduler _ | .releaseArchiveItem scheduler _
  | .acquireRecallTask scheduler _ | .releaseRecallTask scheduler _
  | .acquireRecallTaskSlot scheduler | .releaseRecallTaskSlot scheduler
  | .acquireTapeLease scheduler _ | .releaseTapeLease scheduler _ => scheduler

/-- A slot is waited for until one is free, and a tape until its lease is given back. -/
def LocalCall.enabled (locks : SchedulerLocks) : LocalCall → Bool
  | .acquireRecallTaskSlot _ => 0 < locks.recallTaskSlots
  | .acquireTapeLease _ tapeId => !locks.leasedTapes.contains tapeId
  | _ => true

/-- Serve a local call. -/
def LocalCall.serve (moment : Moment) (locks : SchedulerLocks) :
    (call : LocalCall) → call.Value × SchedulerLocks
  | .now => ((⟨moment.seconds, moment.nanos⟩ : Timestamp), locks)
  | .acquireArchiveItem _ key =>
    if locks.activeArchiveKeys.contains key then (false, locks)
    else (true, { locks with activeArchiveKeys := key :: locks.activeArchiveKeys })
  | .releaseArchiveItem _ key =>
    ((), { locks with activeArchiveKeys := locks.activeArchiveKeys.filter (· ≠ key) })
  | .acquireRecallTask _ key =>
    if locks.activeRecallTasks.contains key then (false, locks)
    else (true, { locks with activeRecallTasks := key :: locks.activeRecallTasks })
  | .releaseRecallTask _ key =>
    ((), { locks with activeRecallTasks := locks.activeRecallTasks.filter (· ≠ key) })
  | .acquireRecallTaskSlot _ => ((), { locks with recallTaskSlots := locks.recallTaskSlots - 1 })
  | .releaseRecallTaskSlot _ => ((), { locks with recallTaskSlots := locks.recallTaskSlots + 1 })
  | .acquireTapeLease _ tapeId => ((), { locks with leasedTapes := tapeId :: locks.leasedTapes })
  | .releaseTapeLease _ tapeId =>
    ((), { locks with leasedTapes := locks.leasedTapes.filter (· ≠ tapeId) })

/-- The locks of all schedulers with those of one replaced. -/
def setLocks (schedulers : Nat → SchedulerLocks) (scheduler : Nat) (locks : SchedulerLocks) :
    Nat → SchedulerLocks :=
  fun other => if other = scheduler then locks else schedulers other

/-- Serve a call at the moment it is made. -/
def serve (service : CacheService) (moment : Moment) :
    (call : Call) → World → Reply call × World
  | .metadata call, w =>
    let served := delivered moment w.metadata (call.serve moment w.metadata)
    (served.1, { w with metadata := served.2, tick := w.tick + 1 })
  | .cache call, w =>
    let served := delivered moment w.cache (call.serve service moment w.cache)
    (served.1, { w with cache := served.2, tick := w.tick + 1 })
  | .tape call, w =>
    let served := delivered moment w.tape (call.serve w.tape)
    (served.1, { w with tape := served.2, tick := w.tick + 1 })
  | .here call, w =>
    let served := call.serve moment (w.schedulers call.scheduler)
    (served.1, { w with
      schedulers := setLocks w.schedulers call.scheduler served.2
      tick := w.tick + 1 })

/-- Whether a call can be served. Only local calls ever wait. -/
def enabled : Call → World → Bool
  | .here call, w => call.enabled (w.schedulers call.scheduler)
  | _, _ => true

/-- All services together, in an environment that says what happens at every call. -/
def machine (service : CacheService) (env : Nat → Moment) : Machine Call Reply World where
  enabled := enabled
  serve call w := serve service (env w.tick) call w

/-- The services with a cache of a gigabyte, while clocks stand still and no call is lost. -/
abbrev quietMachine : Machine Call Reply World := machine (.even (2 ^ 30)) (still 0)

end Scheduler

end ColdStore
