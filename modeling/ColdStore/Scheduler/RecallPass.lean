import ColdStore.Cache.Accounting
import ColdStore.Scheduler.LoadedDrive

/-! One pass of a recall worker whose calls all arrive: what happens to each waiting task. -/

namespace ColdStore.Scheduler

open Rust Process Program CacheState SimulatorState

/-- Every object is stored without a version. -/
def Unversioned (s : MetadataState) : Prop :=
  ∀ place obj, s.objects.get place = some obj → place.versionId = none

theorem Unversioned.update {s : MetadataState} (unversioned : Unversioned s)
    (place : ObjectKey) (obj : ObjectMetadata) :
    Unversioned { s with objects := s.objects.update place obj } := by
  intro other found stored
  rw [HashMap.get_update] at stored
  split at stored
  · rename_i same
    rw [same]
    obtain ⟨old, there, _⟩ := Option.map_eq_some_iff.mp stored
    exact unversioned place old there
  · exact unversioned other found stored

/-- A recall task whose object has been brought back. -/
def completedRecall (task : RecallTask) (now : Timestamp) : RecallTask :=
  { task with
    status := RestoreStatus.restoreCompleted.number
    completedAt := some now
    error := none }

/-- A drive that is not leased holds a tape with some bundles on it. -/
def Mounted (s : SimulatorState) (index : Nat) (tapeId : String) (bundles : List Bytes) : Prop :=
  ∃ tape counter, s.HoldsFree index tape counter ∧ tape.records = bundleRecords bundles ∧
    tape.barcode = tapeId

section

variable {svc : CacheService} {env : Nat → Moment} (calm : Calm env) {w : World}

include calm

variable {obj : ObjectMetadata}

/-- A change of restore status that is valid is recorded. -/
theorem updateObjectRestoreStatus_succeeds (unversioned : Unversioned w.metadata)
    {bucket key : String} (stored : w.metadata.objects.get ⟨bucket, key, none⟩ = some obj)
    {status : RestoreStatus}
    (valid : validateRestoreTransition obj.restoreStatus status.number = .ok ())
    (expireAt : Option Timestamp) :
    Succeeds (machine svc env) (updateObjectRestoreStatus bucket key status expireAt)
      (fun _ after => CatalogueOnly w after ∧ ∃ now, after.metadata = { w.metadata with
        objects := w.metadata.objects.update ⟨bucket, key, none⟩
          (restoring status expireAt now obj) }) w := by
  -- Whatever the clock shows, a known transition of a stored object is accepted.
  have accepted : ∀ clock, ∃ after, applyCommand clock w.metadata
      (.updateRestoreStatus ⟨bucket, key, status.number, expireAt⟩) = (.ok (), after) ∧
        ∃ now, after = { w.metadata with
          objects := w.metadata.objects.update ⟨bucket, key, none⟩
            (restoring status expireAt now obj) } :=
    fun clock => ⟨_, updateRestoreStatus_accepted expireAt
      (findObjectMut_plain unversioned stored) valid, _, rfl⟩
  exact applied_succeeds calm accepted

variable {task : RecallTask}

/-- A change of a recall task that may follow is recorded. -/
theorem updateRecallTask_succeeds {stored : RecallTask} (current next : RestoreStatus)
    (present : w.metadata.recallTasks.get task.id = some stored)
    (was : stored.status = current.number) (becomes : task.status = next.number)
    (follows : restoreMayFollow current next = true) :
    Succeeds (machine svc env) (updateRecallTask task)
      (fun _ after => CatalogueOnly w after ∧ after.metadata = { w.metadata with
        recallTasks := w.metadata.recallTasks.insert task.id task }) w := by
  have accepted : ∀ clock, ∃ after,
      applyCommand clock w.metadata (.updateRecallTask task) = (.ok (), after) ∧
        after = { w.metadata with
          recallTasks := w.metadata.recallTasks.insert task.id task } :=
    fun clock => ⟨_, updateRecallTask_accepted current next present was becomes follows, rfl⟩
  exact applied_succeeds calm accepted

/-- Putting a recall task again leaves it as it is. -/
theorem putRecallTaskOnce_present {stored : RecallTask}
    (present : w.metadata.recallTasks.get task.id = some stored) :
    Succeeds (machine svc env) (putRecallTaskOnce task) (fun _ after => Idle w after) w := by
  apply putOnce_present calm
  intro clock
  simp only [applyCommand, putRecallTask, present]
  split
  · exact .inl rfl
  · exact .inr ⟨_, rfl⟩

/-- A waiting recall task is taken over, and its object is marked. -/
theorem startRecallTask_succeeds (unversioned : Unversioned w.metadata) {current : RecallTask}
    (present : w.metadata.recallTasks.get current.id = some current)
    (pending : current.status = RestoreStatus.restorePending.number)
    (stored : w.metadata.objects.get ⟨current.bucket, current.key, none⟩ = some obj)
    (asked : obj.restoreStatus = some RestoreStatus.restorePending.number) :
    Succeeds (machine svc env) (startRecallTask current)
      (fun claimed after => CatalogueOnly w after ∧ ∃ now stamp,
        claimed = some (claimedRecall current now) ∧ after.metadata = { w.metadata with
          recallTasks := w.metadata.recallTasks.insert current.id (claimedRecall current now)
          objects := w.metadata.objects.update ⟨current.bucket, current.key, none⟩
            (restoring .restoreInProgress current.expireAt stamp obj) }) w := by
  refine succeeds_bind succeeds_now fun now first idle => ?_
  -- The task is claimed first, and its object is marked after that.
  have claims : Succeeds (machine svc env) (updateRecallTask (claimedRecall current now))
      (fun _ after => CatalogueOnly first after ∧ after.metadata = { first.metadata with
        recallTasks := first.metadata.recallTasks.insert current.id (claimedRecall current now) })
      first :=
    updateRecallTask_succeeds calm .restorePending .restoreInProgress
      (by rw [idle.metadata]; exact present) pending rfl rfl
  refine succeeds_bind (succeeds_lift claims) fun answer second met => ?_
  obtain ⟨_, rfl, only, metadata⟩ := met
  rw [idle.metadata] at metadata
  have follows : validateRestoreTransition obj.restoreStatus
      RestoreStatus.restoreInProgress.number = .ok () := by
    rw [asked]
    exact validateRestoreTransition_known rfl
  refine succeeds_bind (updateObjectRestoreStatus_succeeds calm (by rw [metadata]; exact unversioned)
    (by rw [metadata]; exact stored) follows _) fun _ third met => ?_
  obtain ⟨only', stamp, metadata'⟩ := met
  rw [metadata] at metadata'
  exact succeeds_pure ⟨(idle.catalogueOnly.trans only).trans only', now, stamp, rfl, metadata'⟩

/-- A waiting recall task is claimed. -/
theorem claimRecallTask_succeeds (unversioned : Unversioned w.metadata)
    (present : w.metadata.recallTasks.get task.id = some task)
    (pending : task.status = RestoreStatus.restorePending.number)
    (stored : w.metadata.objects.get ⟨task.bucket, task.key, none⟩ = some obj)
    (asked : obj.restoreStatus = some RestoreStatus.restorePending.number) :
    Succeeds (machine svc env) (claimRecallTask task)
      (fun claimed after => CatalogueOnly w after ∧ ∃ now stamp,
        claimed = some (claimedRecall task now) ∧ after.metadata = { w.metadata with
          recallTasks := w.metadata.recallTasks.insert task.id (claimedRecall task now)
          objects := w.metadata.objects.update ⟨task.bucket, task.key, none⟩
            (restoring .restoreInProgress task.expireAt stamp obj) }) w := by
  refine succeeds_bind (putRecallTaskOnce_present calm present) fun _ first idle => ?_
  refine succeeds_bind (getRecallTask_succeeds calm (by rw [idle.metadata]; exact present))
    fun current second met => ?_
  obtain ⟨rfl, again⟩ := met
  have since := idle.trans again
  -- A task that waits is started as it was read.
  rw [pending, show tryFrom RestoreStatus RestoreStatus.restorePending.number =
    some .restorePending from rfl]
  refine (startRecallTask_succeeds calm (by rw [since.metadata]; exact unversioned)
    (by rw [since.metadata]; exact present) pending (by rw [since.metadata]; exact stored)
    asked).mono fun claimed after met => ?_
  obtain ⟨only, now, stamp, same, metadata⟩ := met
  rw [since.metadata] at metadata
  exact ⟨since.catalogueOnly.trans only, now, stamp, same, metadata⟩

end

/-- Nothing has changed but the cache. -/
structure CacheOnly (before after : World) : Prop where
  metadata : after.metadata = before.metadata
  tape : after.tape = before.tape
  schedulers : after.schedulers = before.schedulers

/-- A recalled object is kept until it expires, and at most expired ones are gone. -/
def Readmitted (key : CacheKey) (data : Bytes) (expireAt : Timestamp) (now : Int)
    (before after : CacheState HddBackend) : Prop :=
  ∃ xattrs, Admitted (before.HasExpired now) key xattrs data before after ∧
    xattrs.category = .restored ∧ xattrs.size = data.length ∧ xattrs.expireAt = expireAt.seconds

variable [Sha256]

/-- Everything that recalling the object of a task takes, but for a claim. -/
structure Recallable (w : World) (bundles : List Bytes) (task : RecallTask)
    (obj : ObjectMetadata) (data : Bytes) (expireAt : Timestamp) : Prop where
  identity : obj.objectKey = ⟨task.bucket, task.key, none⟩
  cold : obj.storageClass = StorageClass.cold.number
  archived : obj.archiveId = some task.archiveId
  size : task.objectSize = data.length
  checksum : task.checksum = sha256Hex data
  number : task.tapeBlockOffset < 2 ^ 32
  onTape : bundles[task.tapeBlockOffset]? = some data
  small : data.length ≤ usizeMax
  expires : task.expireAt = some expireAt
  uncached : w.cache.findEntry ⟨task.bucket, task.key, none⟩ .restored = none

/-- A task and its object have come to a status, and what recalling the object takes is there. -/
structure Ready (svc : CacheService) (total : Nat) (w : World) (index : Nat)
    (bundles : List Bytes) (task : RecallTask) (obj : ObjectMetadata) (data : Bytes)
    (expireAt : Timestamp) (status : RestoreStatus) : Prop extends
    Recallable w bundles task obj data expireAt where
  unversioned : Unversioned w.metadata
  mounted : Mounted w.tape index task.tapeId bundles
  present : w.metadata.recallTasks.get task.id = some task
  reached : task.status = status.number
  stored : w.metadata.objects.get ⟨task.bucket, task.key, none⟩ = some obj
  marked : obj.restoreStatus = some status.number
  room : svc.RoomFor w.cache.backend.maxSizeBytes total
  accounted : w.cache.Accounted
  fits : w.cache.index.sizes.sum + data.length ≤ total

section

variable {svc : CacheService} {env : Nat → Moment} (calm : Calm env) {w : World} {total : Nat}

include calm

/-- With enough room a recalled object is kept. -/
theorem putRestored_succeeds (room : svc.RoomFor w.cache.backend.maxSizeBytes total)
    (accounted : w.cache.Accounted) {obj : ObjectMetadata} {bucket key : String}
    (identity : obj.objectKey = ⟨bucket, key, none⟩) {data : Bytes}
    (absent : w.cache.findEntry ⟨bucket, key, none⟩ .restored = none)
    (fits : w.cache.index.sizes.sum + data.length ≤ total) (expireAt : Timestamp) :
    Succeeds (machine svc env) (putRestored obj data expireAt)
      (fun _ after => CacheOnly w after ∧ ∃ tick, Readmitted ⟨bucket, key, none⟩ data expireAt
        (env tick).seconds w.cache after.cache) w := by
  rw [ObjectMetadata.objectKey, ObjectKey.mk.injEq] at identity
  obtain ⟨rfl, rfl, plain⟩ := identity
  -- The description carries the name of the object, which has no version.
  let description : PutRestoredMeta := ⟨obj.bucket, obj.key, obj.versionId, data.length,
    some (sha256Hex data), obj.contentType, obj.etag, some expireAt⟩
  have named : description.cacheKey = ⟨obj.bucket, obj.key, none⟩ := by
    rw [PutRestoredMeta.cacheKey, ← plain]
  refine succeeds_askCache calm fun now => ?_
  obtain ⟨after, put, admitted⟩ := CacheService.putRestored_roomy room accounted
    (env now).seconds description rfl rfl (named ▸ absent) fits
  rw [named] at admitted
  exact ⟨(), after, put, fun _ => ⟨⟨rfl, rfl, rfl⟩, now, _, admitted, rfl, rfl, rfl⟩⟩

/-- The object of a claimed task is brought into the cache. -/
theorem processRecallTask_succeeds {driveId : String} {index : Nat}
    (parsed : parseDriveId driveId = .ok ⟨.drive, index⟩) {bundles : List Bytes} {task : RecallTask}
    {obj : ObjectMetadata} {data : Bytes} {expireAt : Timestamp}
    (ready : Ready svc total w index bundles task obj data expireAt .restoreInProgress) :
    Succeeds (machine svc env) (processRecallTask driveId task)
      (fun _ after => after.schedulers = w.schedulers ∧
        Mounted after.tape index task.tapeId bundles ∧
        (∃ tick, Readmitted ⟨task.bucket, task.key, none⟩ data expireAt (env tick).seconds
          w.cache after.cache) ∧
        ∃ now stamp, after.metadata = { w.metadata with
          recallTasks := w.metadata.recallTasks.insert task.id (completedRecall task now)
          objects := w.metadata.objects.update ⟨task.bucket, task.key, none⟩
            (restoring .restoreCompleted (some expireAt) stamp obj) }) w := by
  refine succeeds_bind (headObject_succeeds calm (findObject_of_plain ready.unversioned ready.stored))
    fun current first met => ?_
  obtain ⟨rfl, idle⟩ := met
  have target : validateRecallTarget task current = .ok () := by
    have number := ready.number
    simp only [validateRecallTarget, ready.cold, ready.archived, number, ensure,
      decide_true, if_true, Bind.bind, Except.bind]
  refine succeeds_passing target ?_
  obtain ⟨tape, counter, holds, records, barcode⟩ := ready.mounted
  -- The bundle is read back from the tape as it was written.
  have reads : Succeeds (machine svc env)
      (readBundle driveId task.tapeId task.tapeBlockOffset task.objectSize)
      (fun found after => found = data ∧ TapesOnly first after ∧
        ∃ next, after.tape.HoldsFree index next counter ∧ next.records = tape.records ∧
          next.barcode = tape.barcode) first := by
    rw [ready.size]
    exact readBundle_loaded calm (idle.tape ▸ holds) parsed barcode records ready.onTape ready.small
  refine succeeds_bind reads fun found second met => ?_
  obtain ⟨rfl, only, next, holds', same, name⟩ := met
  have valid : validateRecalled task found = .ok () := by
    simp [validateRecalled, ready.size, ready.checksum, ensure, Bind.bind, Except.bind]
  refine succeeds_passing valid ?_
  have metadata : second.metadata = w.metadata := only.metadata.trans idle.metadata
  have cache : second.cache = w.cache := only.cache.trans idle.cache
  have expiry : (recallExpiry task).Achieves (machine svc env)
      (fun value after => value = expireAt ∧ after = second) second := by
    rw [recallExpiry, ready.expires]
    exact ⟨rfl, rfl⟩
  refine succeeds_bind (succeeds_lift expiry) fun value third met => ?_
  obtain ⟨rfl, rfl⟩ := met
  -- There is room for the copy, and none is cached yet.
  refine succeeds_bind (putRestored_succeeds calm (cache ▸ ready.room)
    (cache ▸ ready.accounted) ready.identity (cache ▸ ready.uncached)
    (cache ▸ ready.fits) value) fun _ fourth met => ?_
  obtain ⟨cacheOnly, tick, readmitted⟩ := met
  rw [cache] at readmitted
  refine succeeds_bind succeeds_now fun now fifth idle5 => ?_
  have metadata5 : fifth.metadata = w.metadata :=
    (idle5.metadata.trans cacheOnly.metadata).trans metadata
  -- The task is completed before its object is.
  have completes : Succeeds (machine svc env)
      (updateRecallTask (completedRecall task now))
      (fun _ after => CatalogueOnly fifth after ∧ after.metadata = { fifth.metadata with
        recallTasks := fifth.metadata.recallTasks.insert task.id (completedRecall task now) })
      fifth :=
    updateRecallTask_succeeds calm .restoreInProgress .restoreCompleted
      (by rw [metadata5]; exact ready.present) ready.reached rfl rfl
  refine succeeds_bind completes fun _ sixth met => ?_
  obtain ⟨only6, metadata6⟩ := met
  rw [metadata5] at metadata6
  have follows : validateRestoreTransition current.restoreStatus
      RestoreStatus.restoreCompleted.number = .ok () := by
    rw [ready.marked]
    exact validateRestoreTransition_known rfl
  refine succeeds_bind (updateObjectRestoreStatus_succeeds calm
    (by rw [metadata6]; exact ready.unversioned) (by rw [metadata6]; exact ready.stored) follows _)
    fun _ seventh met => ?_
  obtain ⟨only7, stamp, metadata7⟩ := met
  rw [metadata6] at metadata7
  refine succeeds_pure ⟨?_, ⟨next, counter, ?_, same.trans records, name.trans barcode⟩,
    ⟨tick, ?_⟩, now, stamp, metadata7⟩
  · rw [only7.schedulers, only6.schedulers, idle5.schedulers, cacheOnly.schedulers, only.schedulers,
      idle.schedulers]
  · rw [only7.tape, only6.tape, idle5.tape, cacheOnly.tape]
    exact holds'
  · rw [only7.cache, only6.cache, idle5.cache]
    exact readmitted

end

/-- An object has been recalled, and everything else but expired objects is as before. -/
structure Recalled (env : Nat → Moment) (index : Nat) (bundles : List Bytes)
    (task : RecallTask) (obj : ObjectMetadata) (data : Bytes) (expireAt : Timestamp)
    (before after : World) : Prop where
  mounted : Mounted after.tape index task.tapeId bundles
  cache : ∃ tick, Readmitted ⟨task.bucket, task.key, none⟩ data expireAt (env tick).seconds
    before.cache after.cache
  objects : ∃ stamp, ∀ place, after.metadata.objects.get place =
    if place = ⟨task.bucket, task.key, none⟩ then
      some (restoring .restoreCompleted (some expireAt) stamp obj)
    else before.metadata.objects.get place
  recallTasks : ∃ done : RecallTask, done.status = RestoreStatus.restoreCompleted.number ∧
    ∀ id, after.metadata.recallTasks.get id =
      if id = task.id then some done else before.metadata.recallTasks.get id

/-- What a worker tells about a task it has recalled. -/
def Told (step : Option Status × Option Processed) : Prop :=
  step.1 = none ∧ ∀ processed ∈ step.2, ∃ bytesRead, processed.2 = .ok bytesRead

section

variable {svc : CacheService} {env : Nat → Moment} (calm : Calm env) {w : World} {total : Nat}

include calm

variable (s : SchedulerState)

omit [Sha256] calm in
/-- A task and a tape no one is at can be taken on, and giving them back leaves the locks as before. -/
theorem acquireRecall_free {key tapeId : String}
    (free : key ∉ (w.schedulers s.number).activeRecallTasks)
    (unleased : tapeId ∉ (w.schedulers s.number).leasedTapes) :
    (acquireRecallTask s key).Achieves (machine svc env)
      (fun (acquired : Bool) first => acquired = true ∧
        (acquireTapeLease s tapeId).Achieves (machine svc env)
          (fun _ second => SameServices w second ∧
            ∀ later : World, later.schedulers = second.schedulers →
              (releaseRecallTask s key).Achieves (machine svc env)
                (fun _ third => (releaseTapeLease s tapeId).Achieves (machine svc env)
                  (fun _ last => SameServices later last ∧ last.schedulers = w.schedulers) third)
                later) first) w := by
  have notIn : (w.schedulers s.number).activeRecallTasks.contains key = false := by
    simpa using free
  refine achieves_locally rfl fun moment tick => ?_
  simp only [LocalCall.scheduler, LocalCall.serve, notIn, Bool.false_eq_true, if_false, true_and]
  refine achieves_locally ?_ fun moment tick => ⟨⟨rfl, rfl, rfl⟩, fun later same => ?_⟩
  · simpa [LocalCall.enabled, LocalCall.scheduler] using unleased
  simp only [LocalCall.scheduler, LocalCall.serve, setLocks_get, setLocks_setLocks] at same
  refine achieves_locally rfl fun moment tick => achieves_locally rfl fun moment tick => ?_
  refine ⟨⟨rfl, rfl, rfl⟩, ?_⟩
  -- Releasing takes away what was acquired, so the locks are what they were.
  simp only [same, LocalCall.scheduler, LocalCall.serve, setLocks_get, setLocks_setLocks,
    filter_ne_cons free, filter_ne_cons unleased]
  exact setLocks_self _ _

variable {index : Nat} (parsed : parseDriveId s.config.recallDriveId = .ok ⟨.drive, index⟩)
  {bundles : List Bytes} {task : RecallTask} {obj : ObjectMetadata} {data : Bytes}
  {expireAt : Timestamp}

include parsed

/-- The object of a claimed task is recalled. -/
theorem recallClaimed_achieves
    (ready : Ready svc total w index bundles task obj data expireAt .restoreInProgress) :
    (recallClaimed s task).Achieves (machine svc env)
      (fun step after => Told step ∧ after.schedulers = w.schedulers ∧
        Recalled env index bundles task obj data expireAt w after) w := by
  refine achieves_bind (processRecallTask_succeeds calm parsed ready) fun outcome after met => ?_
  obtain ⟨bytes, rfl, schedulers, mounted, cache, now, stamp, metadata⟩ := met
  refine ⟨⟨rfl, ?_⟩, schedulers, mounted, cache, ⟨stamp, fun place => ?_⟩, completedRecall task now,
    rfl, fun id => ?_⟩
  · rintro processed ⟨⟩
    exact ⟨bytes, rfl⟩
  · rw [metadata, HashMap.get_update]
    split
    · rw [ready.stored]
      rfl
    · rfl
  · rw [metadata, HashMap.get_insert]

/-- A waiting task is claimed and its object recalled. -/
theorem recallTask_achieves
    (ready : Ready svc total w index bundles task obj data expireAt .restorePending)
    (free : task.id ∉ (w.schedulers s.number).activeRecallTasks)
    (unleased : task.tapeId ∉ (w.schedulers s.number).leasedTapes) :
    (recallTask s task).Achieves (machine svc env)
      (fun step after => Told step ∧ after.schedulers = w.schedulers ∧
        Recalled env index bundles task obj data expireAt w after) w := by
  refine achieves_bind (acquireRecall_free s free unleased) fun acquired first met => ?_
  obtain ⟨rfl, leases⟩ := met
  rw [if_pos rfl]
  refine achieves_bind leases fun _ second met => ?_
  obtain ⟨⟨metadata, cache, tape⟩, releases⟩ := met
  refine achieves_bind (claimRecallTask_succeeds calm (metadata ▸ ready.unversioned)
    (metadata ▸ ready.present) ready.reached (metadata ▸ ready.stored) ready.marked)
    fun claimed third met => ?_
  obtain ⟨_, rfl, only, now, stamp, rfl, claimedMetadata⟩ := met
  rw [metadata] at claimedMetadata
  have cache3 : third.cache = w.cache := only.cache.trans cache
  have claimed : Ready svc total third index bundles (claimedRecall task now)
      (restoring .restoreInProgress task.expireAt stamp obj) data expireAt
      .restoreInProgress :=
    { ready with
      uncached := cache3 ▸ ready.uncached
      unversioned := claimedMetadata ▸ ready.unversioned.update _ _
      mounted := by
        rw [only.tape, tape]
        exact ready.mounted
      present := by
        rw [claimedMetadata]
        exact HashMap.get_insert_self _ _ _
      reached := rfl
      stored := by
        rw [claimedMetadata]
        exact HashMap.get_update_of_some _ _ ready.stored
      marked := rfl
      room := cache3 ▸ ready.room
      accounted := cache3 ▸ ready.accounted
      fits := cache3 ▸ ready.fits }
  refine achieves_bind (recallClaimed_achieves calm s parsed claimed) fun step fourth met => ?_
  obtain ⟨told, schedulers, recalled⟩ := met
  refine achieves_bind (releases fourth (schedulers.trans only.schedulers)) fun _ fifth back => ?_
  refine achieves_bind back fun _ last met => ?_
  obtain ⟨⟨metadata', cache', tape'⟩, locks⟩ := met
  refine ⟨told, locks, tape' ▸ recalled.mounted, ?_, ?_, ?_⟩
  · rw [cache', ← cache3]
    exact recalled.cache
  · obtain ⟨stamp', objects⟩ := recalled.objects
    refine ⟨stamp', fun place => ?_⟩
    rw [metadata', objects]
    refine ite_congr rfl (fun _ => rfl) fun ne => ?_
    rw [claimedMetadata]
    exact HashMap.get_update_ne _ _ ne
  · obtain ⟨done, completed, tasks⟩ := recalled.recallTasks
    refine ⟨done, completed, fun id => ?_⟩
    rw [metadata', tasks]
    refine ite_congr rfl (fun _ => rfl) fun ne => ?_
    rw [claimedMetadata]
    exact HashMap.get_insert_ne _ _ ne

omit [Sha256] calm parsed in
/-- A slot that is free can be taken, and giving it back leaves the locks as before. -/
theorem acquireRecallTaskSlot_free (scheduler : Nat)
    (free : 0 < (w.schedulers scheduler).recallTaskSlots) :
    (locally (.acquireRecallTaskSlot scheduler)).Achieves (machine svc env)
      (fun _ after => SameServices w after ∧ (after.schedulers scheduler).activeRecallTasks =
          (w.schedulers scheduler).activeRecallTasks ∧
        (after.schedulers scheduler).leasedTapes = (w.schedulers scheduler).leasedTapes ∧
        ∀ later : World, later.schedulers = after.schedulers →
          (locally (.releaseRecallTaskSlot scheduler)).Achieves (machine svc env)
            (fun _ last => SameServices later last ∧ last.schedulers = w.schedulers) later) w := by
  refine achieves_locally (decide_eq_true free) fun moment tick => ?_
  simp only [LocalCall.scheduler, LocalCall.serve, setLocks_get, true_and]
  refine ⟨⟨rfl, rfl, rfl⟩, fun later same => achieves_locally rfl fun _ _ => ⟨⟨rfl, rfl, rfl⟩, ?_⟩⟩
  have back : (w.schedulers scheduler).recallTaskSlots - 1 + 1 =
      (w.schedulers scheduler).recallTaskSlots := by omega
  simp only [same, LocalCall.scheduler, LocalCall.serve, setLocks_get, setLocks_setLocks, back]
  exact setLocks_self _ _

/-- No task of a scheduler is at a recall. -/
structure Unoccupied (locks : SchedulerLocks) : Prop where
  slots : 0 < locks.recallTaskSlots
  tasks : locks.activeRecallTasks = []
  tapes : locks.leasedTapes = []

variable {holds : List RecallTask → World → Prop}
  (services : ∀ tasks before after, SameServices before after → holds tasks before →
    holds tasks after)
  (recalls : ∀ task rest before, holds (task :: rest) before →
    task.id ∉ (before.schedulers s.number).activeRecallTasks →
    task.tapeId ∉ (before.schedulers s.number).leasedTapes →
    (recallTask s task).Achieves (machine svc env)
      (fun step after => Told step ∧ after.schedulers = before.schedulers ∧ holds rest after) before)

include services recalls

omit calm parsed in
/-- What recalling one task after the other keeps, a whole list of tasks keeps. -/
theorem recallTasks_achieves (tasks : List RecallTask) :
    ∀ (result : RecallBatchResult) (processed : List Processed) {w : World}, holds tasks w →
      Unoccupied (w.schedulers s.number) →
      (∀ step ∈ processed, ∃ bytesRead, step.2 = .ok bytesRead) →
      (recallTasks s tasks result processed).Achieves (machine svc env)
        (fun batch after => after.schedulers = w.schedulers ∧
          (∃ result, batch.answer = .ok result) ∧
          (∀ step ∈ batch.processed, ∃ bytesRead, step.2 = .ok bytesRead) ∧ holds [] after)
        w := by
  induction tasks with
  | nil => exact fun result processed w held _ fine => ⟨rfl, ⟨result, rfl⟩, fine, held⟩
  | cons task rest ih =>
    intro result processed w held unoccupied fine
    refine achieves_bind (acquireRecallTaskSlot_free s.number unoccupied.slots)
      fun _ first met => ?_
    obtain ⟨same, active, leased, releases⟩ := met
    refine achieves_bind (recalls task rest first (services _ _ _ same held)
      (by simp [active, unoccupied.tasks]) (by simp [leased, unoccupied.tapes]))
      fun step second met => ?_
    obtain ⟨told, schedulers, held⟩ := met
    refine achieves_bind (releases second schedulers) fun _ third met => ?_
    obtain ⟨same, schedulers⟩ := met
    obtain ⟨failure, done⟩ := step
    obtain rfl : failure = none := told.1
    refine (ih _ _ (services _ _ _ same held) (by rw [schedulers]; exact unoccupied)
      ?_).mono fun batch after met => ?_
    · intro step mem
      rcases List.mem_append.mp mem with before | now
      · exact fine step before
      · exact told.2 step (Option.mem_toList.mp now)
    · rw [schedulers] at met
      exact met

omit parsed in
/-- What recalling one task after the other keeps, a pass over the waiting tasks keeps. -/
theorem recallPendingBatch_achieves (limit : Nat)
    (held : holds ((sortRecallTasks (w.metadata.listPendingRecallTasks.filter
      isPendingRecallTask)).take limit) w) (unoccupied : Unoccupied (w.schedulers s.number)) :
    (recallPendingBatch s limit).Achieves (machine svc env)
      (fun batch after => after.schedulers = w.schedulers ∧
        (∃ result, batch.answer = .ok result) ∧
        (∀ step ∈ batch.processed, ∃ bytesRead, step.2 = .ok bytesRead) ∧ holds [] after)
      w := by
  have lists : Succeeds (machine svc env) (askMetadata .listPendingRecallTasks)
      (fun (tasks : List RecallTask) after => tasks = w.metadata.listPendingRecallTasks ∧
        Idle w after) w :=
    succeeds_read calm fun _ => rfl
  refine achieves_bind lists fun listed first met => ?_
  obtain ⟨_, rfl, rfl, idle⟩ := met
  refine (recallTasks_achieves s services recalls _ {} []
    (services _ _ _ idle.toSameServices held) (by rw [idle.schedulers]; exact unoccupied)
    (by simp)).mono fun batch after met => ?_
  rw [idle.schedulers] at met
  exact met

end

end ColdStore.Scheduler
