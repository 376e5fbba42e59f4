import ColdStore.Scheduler.Calm
import ColdStore.Scheduler.Upholding

/-! One pass of an archive worker whose calls all arrive: what happens to each listed object. -/

namespace ColdStore.Scheduler

open Rust Process Program CacheState

/-- The object that a line of the listing is about. -/
abbrev place (line : StagingKeyEntry) : String × String := (line.bucket, line.key)

/-- The bundle that a listed object goes to. -/
abbrev bundleOf (line : StagingKeyEntry) : String := phase1BundleId line.bucket line.key none

/-- The catalogue is as before, but for one archive task. -/
structure OnlyArchiveTask (id : String) (before after : MetadataState) : Prop where
  objects : after.objects = before.objects
  buckets : after.buckets = before.buckets
  archiveBundles : after.archiveBundles = before.archiveBundles
  recallTasks : after.recallTasks = before.recallTasks
  others : ∀ other, other ≠ id → after.archiveTasks.get other = before.archiveTasks.get other

theorem OnlyArchiveTask.refl (id : String) (s : MetadataState) :
    OnlyArchiveTask id s s := ⟨rfl, rfl, rfl, rfl, fun _ _ => rfl⟩

theorem OnlyArchiveTask.trans {id : String} {first second third : MetadataState}
    (left : OnlyArchiveTask id first second) (right : OnlyArchiveTask id second third) :
    OnlyArchiveTask id first third :=
  ⟨right.objects.trans left.objects, right.buckets.trans left.buckets,
    right.archiveBundles.trans left.archiveBundles, right.recallTasks.trans left.recallTasks,
    fun other ne => (right.others other ne).trans (left.others other ne)⟩

theorem onlyArchiveTask_insert (s : MetadataState) (id : String) (task : ArchiveTask) :
    OnlyArchiveTask id s { s with archiveTasks := s.archiveTasks.insert id task } :=
  ⟨rfl, rfl, rfl, rfl, fun _ ne => HashMap.get_insert_ne _ _ ne⟩

section

variable {svc : CacheService} {env : Nat → Moment} (calm : Calm env) {w : World}

include calm

variable {task stored : ArchiveTask}

/-- Putting a task again leaves it as it is. -/
theorem putArchiveTaskOnce_present (present : w.metadata.archiveTasks.get task.id = some stored) :
    Succeeds (machine svc env) (putArchiveTaskOnce task) (fun _ after => Idle w after) w := by
  apply putOnce_present calm
  intro clock
  simp only [applyCommand, putArchiveTask, present]
  split
  · exact .inl rfl
  · exact .inr ⟨_, rfl⟩

/-- A task that is not there yet is put. -/
theorem putArchiveTaskOnce_absent (absent : w.metadata.archiveTasks.get task.id = none) :
    Succeeds (machine svc env) (putArchiveTaskOnce task)
      (fun _ after => CatalogueOnly w after ∧
        OnlyArchiveTask task.id w.metadata after.metadata ∧
        ∃ stored, after.metadata.archiveTasks.get task.id = some stored ∧ stored.id = task.id ∧
          stored.status = task.status) w := by
  have accepted : ∀ clock, ∃ after,
      applyCommand clock w.metadata (.putArchiveTask task) = (.ok (), after) ∧
        OnlyArchiveTask task.id w.metadata after ∧
        ∃ stored, after.archiveTasks.get task.id = some stored ∧ stored.id = task.id ∧
          stored.status = task.status :=
    fun clock => ⟨_, putArchiveTask_absent _ absent,
      onlyArchiveTask_insert _ _ _, _, HashMap.get_insert_self _ _ _, rfl, rfl⟩
  refine succeeds_bind (succeeds_lift (applied_succeeds calm accepted)) fun answer after met => ?_
  obtain ⟨_, rfl, met⟩ := met
  exact succeeds_pure met

/-- A task as it is taken over. -/
def takenOver (current : ArchiveTask) (now : Timestamp) : ArchiveTask :=
  { current with
    status := ArchiveTaskStatus.archiveTaskInProgress.number
    error := none
    startedAt := some now }

/-- A waiting task is taken over. -/
theorem startArchiveTask_succeeds {current : ArchiveTask}
    (present : w.metadata.archiveTasks.get current.id = some current)
    (pending : current.status = ArchiveTaskStatus.archiveTaskPending.number) :
    Succeeds (machine svc env) (startArchiveTask current)
      (fun claimed after => CatalogueOnly w after ∧
        OnlyArchiveTask current.id w.metadata after.metadata ∧
        ∃ task, claimed = some task ∧ task.id = current.id ∧
          task.status = ArchiveTaskStatus.archiveTaskInProgress.number ∧
          after.metadata.archiveTasks.get current.id = some task) w := by
  refine succeeds_bind succeeds_now fun now later idle => ?_
  have accepted : ∀ clock, ∃ after,
      applyCommand clock later.metadata (.updateArchiveTask (takenOver current now)) =
        (.ok (), after) ∧ OnlyArchiveTask current.id later.metadata after ∧
          after.archiveTasks.get current.id = some (takenOver current now) :=
    fun clock => ⟨_, updateArchiveTask_accepted .archiveTaskPending .archiveTaskInProgress
      (by rw [idle.metadata]; exact present) pending rfl rfl, onlyArchiveTask_insert _ _ _,
      HashMap.get_insert_self _ _ _⟩
  refine succeeds_bind (succeeds_lift (applied_succeeds calm accepted)) fun answer after met => ?_
  obtain ⟨_, rfl, only, onlyTask, stored⟩ := met
  rw [idle.metadata] at onlyTask
  exact succeeds_pure ⟨idle.catalogueOnly.trans only, onlyTask, _, rfl, rfl, rfl, stored⟩

/-- An unclaimed task is claimed. -/
theorem claimArchiveTask_unclaimed (keys : w.metadata.KeysAgree)
    (pending : task.status = ArchiveTaskStatus.archiveTaskPending.number)
    (unclaimed : ¬ w.metadata.ArchiveStarted task.id) :
    Succeeds (machine svc env) (claimArchiveTask task)
      (fun claimed after => CatalogueOnly w after ∧
        OnlyArchiveTask task.id w.metadata after.metadata ∧
        ∃ found, claimed = some found ∧ found.id = task.id ∧
          found.status = ArchiveTaskStatus.archiveTaskInProgress.number ∧
          after.metadata.archiveTasks.get task.id = some found) w := by
  -- Whether the task is new or has been put before, it waits now.
  have put : Succeeds (machine svc env) (putArchiveTaskOnce task)
      (fun _ after => CatalogueOnly w after ∧
        OnlyArchiveTask task.id w.metadata after.metadata ∧
        ∃ stored, after.metadata.archiveTasks.get task.id = some stored ∧ stored.id = task.id ∧
          stored.status = ArchiveTaskStatus.archiveTaskPending.number) w := by
    cases present : w.metadata.archiveTasks.get task.id with
    | none =>
      rw [← pending]
      exact putArchiveTaskOnce_absent calm present
    | some stored =>
      refine (putArchiveTaskOnce_present calm present).mono fun _ after idle => ?_
      rw [idle.metadata]
      exact ⟨idle.catalogueOnly, .refl _ _, stored, present,
        (HashMap.keyed_iff.mp keys.archiveTasks _ _ present).symm,
        not_not.mp fun other => unclaimed ⟨stored, present, other⟩⟩
  refine succeeds_bind put fun _ first met => ?_
  obtain ⟨only, onlyTask, stored, present, same, waits⟩ := met
  refine succeeds_bind (getArchiveTask_succeeds calm present) fun current second met => ?_
  obtain ⟨rfl, idle⟩ := met
  rw [waits, show tryFrom ArchiveTaskStatus ArchiveTaskStatus.archiveTaskPending.number =
    some .archiveTaskPending from rfl]
  refine (startArchiveTask_succeeds calm ?_ waits).mono fun claimed after met => ?_
  · rw [idle.metadata, same]
    exact present
  · obtain ⟨only', onlyTask', found, some, id, status, there⟩ := met
    rw [same] at onlyTask' id there
    rw [idle.metadata] at onlyTask'
    exact ⟨(only.trans idle.catalogueOnly).trans only', onlyTask.trans onlyTask', found, some, id,
      status, there⟩

/-- A task that someone has claimed is left alone. -/
theorem claimArchiveTask_claimed (present : w.metadata.archiveTasks.get task.id = some stored)
    {status : ArchiveTaskStatus} (number : stored.status = status.number)
    (meaning : status ≠ .unspecified) (claimed : status ≠ .archiveTaskPending) :
    Succeeds (machine svc env) (claimArchiveTask task)
      (fun claimed after => claimed = none ∧ Idle w after) w := by
  refine succeeds_bind (putArchiveTaskOnce_present calm present) fun _ first idle => ?_
  refine succeeds_bind (getArchiveTask_succeeds calm (by rw [idle.metadata]; exact present))
    fun current second met => ?_
  obtain ⟨rfl, again⟩ := met
  rw [number, show tryFrom ArchiveTaskStatus status.number = some status from tryFrom_number status]
  -- In every status but the first the task is left to whoever started it.
  cases status with
  | unspecified => exact absurd rfl meaning
  | archiveTaskPending => exact absurd rfl claimed
  | _ => exact succeeds_pure ⟨rfl, idle.trans again⟩

/-- A claimed task is completed. -/
theorem finalizeArchiveTaskSuccess_succeeds (bytesWritten : Nat)
    (present : w.metadata.archiveTasks.get task.id = some stored) (same : stored.id = task.id)
    (claimed : stored.status = ArchiveTaskStatus.archiveTaskInProgress.number) :
    Succeeds (machine svc env) (finalizeArchiveTaskSuccess task bytesWritten)
      (fun _ after => CatalogueOnly w after ∧
        OnlyArchiveTask task.id w.metadata after.metadata ∧
        ∃ done, after.metadata.archiveTasks.get task.id = some done ∧
          done.status = ArchiveTaskStatus.archiveTaskCompleted.number) w := by
  refine succeeds_bind (getArchiveTask_succeeds calm present) fun current first met => ?_
  obtain ⟨rfl, idle⟩ := met
  rw [claimed, show tryFrom ArchiveTaskStatus ArchiveTaskStatus.archiveTaskInProgress.number =
    some .archiveTaskInProgress from rfl]
  refine succeeds_bind succeeds_now fun now second again => ?_
  rw [← again.metadata.trans idle.metadata] at present ⊢
  -- The task is in progress, and may be completed under its own name.
  have accepted : ∀ (completed : ArchiveTask), completed.id = task.id →
      completed.status = ArchiveTaskStatus.archiveTaskCompleted.number → ∀ clock, ∃ after,
        applyCommand clock second.metadata (.updateArchiveTask completed) = (.ok (), after) ∧
          OnlyArchiveTask task.id second.metadata after ∧
          ∃ done, after.archiveTasks.get task.id = some done ∧
            done.status = ArchiveTaskStatus.archiveTaskCompleted.number := by
    intro completed id status clock
    rw [← id] at present ⊢
    exact ⟨_, updateArchiveTask_accepted .archiveTaskInProgress .archiveTaskCompleted present claimed
      status rfl, onlyArchiveTask_insert _ _ _, completed, HashMap.get_insert_self _ _ _, status⟩
  refine succeeds_bind (succeeds_lift (applied_succeeds calm (accepted _ same rfl)))
    fun answer after met => ?_
  obtain ⟨_, rfl, only, onlyTask, done⟩ := met
  exact succeeds_pure ⟨(idle.trans again).catalogueOnly.trans only, onlyTask, done⟩

variable {bucket key : String} {data : Bytes}

/-- What is staged can be read. -/
theorem getStaging_succeeds {xattrs : CacheXattrs}
    (served : w.cache.view .staging ⟨bucket, key, none⟩ = some (xattrs, data)) :
    Succeeds (machine svc env) (getStaging bucket key none)
      (fun staged after => Idle w after ∧ staged.data = data ∧
        staged.description.bucket = xattrs.bucket ∧ staged.description.key = xattrs.key ∧
        staged.description.versionId = xattrs.versionId ∧
        staged.description.size = xattrs.size ∧ staged.description.checksum = xattrs.checksum)
      w := by
  -- The cache streams the staged copy, and the scheduler puts the stream together.
  have answered : Succeeds (machine svc env)
      (askCache (.getStaging ⟨bucket, key, none⟩))
      (fun (messages : List (Message StagingObjectMeta)) after => Idle w after ∧
        messages = streamObject xattrs.staged data) w := by
    refine succeeds_askCache calm fun moment => ⟨_, w.cache, ?_, fun tick => ⟨?_, rfl⟩⟩
    · rw [CacheCall.serve, getStaging_served xattrs data _ served]
      rfl
    · exact ⟨⟨rfl, rfl, rfl⟩, rfl⟩
  refine succeeds_bind answered fun messages first met => ?_
  obtain ⟨idle, rfl⟩ := met
  have read : stagedObject (streamObject xattrs.staged data) = .ok ⟨xattrs.staged, data⟩ := by
    simp [stagedObject, drainStream_streamObject, okOr, Bind.bind, Except.bind, Pure.pure,
      Except.pure]
  refine (succeeds_checked read).mono fun staged after met => ?_
  obtain ⟨rfl, again⟩ := met
  exact ⟨idle.trans again, rfl, rfl, rfl, rfl, rfl, rfl⟩

/-- Deleting from staging succeeds. -/
theorem deleteStaging_succeeds (sound : w.cache.Sound) (bucket key : String)
    (versionId : Option String) :
    Succeeds (machine svc env) (deleteStaging bucket key versionId)
      (fun _ after => after.cache = (w.cache.deleteEntry ⟨bucket, key, versionId⟩ .staging).2 ∧
        after.metadata = w.metadata ∧ after.tape = w.tape ∧ after.schedulers = w.schedulers) w :=
  succeeds_askCache calm fun _ => ⟨(), _, deleteStaging_eq sound _, fun _ => ⟨rfl, rfl, rfl, rfl⟩⟩

/-- An object waits to be archived, and what is staged for it is what is recorded. -/
structure Awaits [Sha256] (w : World) (bucket key : String) (obj : ObjectMetadata)
    (data : Bytes) : Prop where
  stored : w.metadata.objects.get ⟨bucket, key, none⟩ = some obj
  waits : obj.storageClass = StorageClass.coldPending.number
  size : obj.size = data.length
  checksum : obj.checksum = sha256Hex data
  served : ∃ xattrs, w.cache.view .staging ⟨bucket, key, none⟩ = some (xattrs, data)

variable {before after : World} {obj : ObjectMetadata}

omit calm in
/-- Whether an object waits is a matter of the objects and of what is cached. -/
theorem Awaits.of_services [Sha256] (awaits : Awaits before bucket key obj data)
    (objects : after.metadata.objects = before.metadata.objects)
    (cache : after.cache = before.cache) : Awaits after bucket key obj data where
  stored := by rw [objects]; exact awaits.stored
  waits := awaits.waits
  size := awaits.size
  checksum := awaits.checksum
  served := by rw [cache]; exact awaits.served

/-- A bundle can be written to tape, and nothing else is touched by it. -/
def Writable (machine : Machine Call Reply World) (client : TapeArchiveClient) (bundleId : String)
    (data : Bytes) (written : TapeArchiveWrite → SimulatorState → Prop) (tape : SimulatorState) :
    Prop := ∀ w : World, w.tape = tape → Succeeds machine (client.writeBundle bundleId 1 data)
    (fun write after => written write after.tape ∧ write.bytesWritten = data.length ∧
      after.metadata = w.metadata ∧ after.cache = w.cache ∧ after.schedulers = w.schedulers) w

/-- The record of an object that has been archived. -/
def archivedObject (bundleId : String) (write : TapeArchiveWrite) (now : Timestamp)
    (obj : ObjectMetadata) : ObjectMetadata :=
  { obj with
    archiveId := some bundleId
    tapeId := some write.tapeId
    tapeSet := write.tapeSet
    tapeBlockOffset := some write.filemarkStart
    storageClass := StorageClass.cold.number
    updatedAt := some now }

/-- An object has been archived, and the rest of the catalogue and the cache is as before. -/
structure Archived [Sha256] (bucket key bundleId : String) (obj : ObjectMetadata) (data : Bytes)
    (write : TapeArchiveWrite) (before after : World) : Prop where
  objects : ∃ now, after.metadata.objects =
    before.metadata.objects.update ⟨bucket, key, none⟩ (archivedObject bundleId write now obj)
  bundles : ∃ bundle, bundle.checksum = some (sha256Hex data) ∧
    after.metadata.archiveBundles = before.metadata.archiveBundles.insert bundleId bundle
  task : ∃ done, after.metadata.archiveTasks.get bundleId = some done ∧
    done.status = ArchiveTaskStatus.archiveTaskCompleted.number
  tasks : ∀ other, other ≠ bundleId →
    after.metadata.archiveTasks.get other = before.metadata.archiveTasks.get other
  buckets : after.metadata.buckets = before.metadata.buckets
  recallTasks : after.metadata.recallTasks = before.metadata.recallTasks
  cache : after.cache = (before.cache.deleteEntry ⟨bucket, key, none⟩ .staging).2

variable {bundleId : String} {write : TapeArchiveWrite}

omit calm in
/-- Only the catalogue and the cache matter to whether an object has been archived. -/
theorem Archived.of_services [Sha256] {before' after' : World}
    (archived : Archived bucket key bundleId obj data write before after)
    (first : before'.metadata = before.metadata ∧ before'.cache = before.cache)
    (second : after'.metadata = after.metadata ∧ after'.cache = after.cache) :
    Archived bucket key bundleId obj data write before' after' := by
  obtain ⟨metadata, cache⟩ := first
  obtain ⟨metadata', cache'⟩ := second
  constructor
  all_goals simp only [metadata, metadata', cache, cache']
  exacts [archived.objects, archived.bundles, archived.task, archived.tasks, archived.buckets,
    archived.recallTasks, archived.cache]

omit calm in
/-- Claiming the task beforehand is part of archiving an object. -/
theorem Archived.of_claimed [Sha256] {middle : World}
    (claimed : OnlyArchiveTask bundleId before.metadata middle.metadata)
    (only : CatalogueOnly before middle)
    (archived : Archived bucket key bundleId obj data write middle after) :
    Archived bucket key bundleId obj data write before after where
  objects := by rw [← claimed.objects]; exact archived.objects
  bundles := by rw [← claimed.archiveBundles]; exact archived.bundles
  task := archived.task
  tasks other ne := (archived.tasks other ne).trans (claimed.others other ne)
  buckets := archived.buckets.trans claimed.buckets
  recallTasks := archived.recallTasks.trans claimed.recallTasks
  cache := by rw [archived.cache, only.cache]

variable {entry : StagingKeyEntry}

omit calm in
/-- The completion of an archive is recorded, for an object that has not changed. -/
theorem completion_accepted [Sha256] {s : MetadataState} (orderly : Orderly s)
    (named : bundleId ≠ "") (stored : s.objects.get ⟨entry.bucket, entry.key, none⟩ = some obj)
    (plain : obj.versionId = none) (absent : s.archiveBundles.get bundleId = none)
    (now : Timestamp) (clock : Nat) : ∃ after,
      applyCommand clock s (.completeArchiveObject (completionRequest entry obj
        (archivedBundle entry bundleId data write now) write)) = (.ok (), after) ∧
      (∃ now, after.objects = s.objects.update ⟨entry.bucket, entry.key, none⟩
        (archivedObject bundleId write now obj)) ∧
      (∃ bundle, bundle.checksum = some (sha256Hex data) ∧
        after.archiveBundles = s.archiveBundles.insert bundleId bundle) ∧
      after.archiveTasks = s.archiveTasks ∧ after.buckets = s.buckets ∧
      after.recallTasks = s.recallTasks := by
  have known := orderly.objects _ _ stored
  have found := findObjectMut_plain orderly.plain stored
  -- The request expects the object as it was read, and it has not changed since.
  have unchanged : validateCompleteArchivePreconditions obj (completionRequest entry obj
      (archivedBundle entry bundleId data write now) write) = .ok () := by
    simp [validateCompleteArchivePreconditions, completionRequest, ensure, okOr, known.dated,
      Bind.bind, Except.bind]
  refine ⟨_, completeArchiveObject_accepted rfl named ?_ unchanged absent, ⟨_, rfl⟩, ⟨_, rfl, rfl⟩,
    rfl, rfl, rfl⟩
  rw [completionRequest, plain]
  exact found

variable {written : TapeArchiveWrite → SimulatorState → Prop}

/-- An object whose task has been claimed is archived, if the tape takes it. -/
theorem archiveClaimed_succeeds [Sha256] (inOrder : InOrder w) {client : TapeArchiveClient}
    (plain : entry.versionId = none) (named : bundleId ≠ "")
    (awaits : Awaits w entry.bucket entry.key obj data)
    (present : w.metadata.archiveTasks.get bundleId = some task) (id : task.id = bundleId)
    (claimed : task.status = ArchiveTaskStatus.archiveTaskInProgress.number)
    (absent : w.metadata.archiveBundles.get bundleId = none)
    (writable : Writable (machine svc env) client bundleId data written w.tape) :
    Succeeds (machine svc env) (archiveClaimed client entry bundleId obj task)
      (fun _ after => after.schedulers = w.schedulers ∧ ∃ write, written write after.tape ∧
        Archived entry.bucket entry.key bundleId obj data write w after) w := by
  obtain ⟨xattrs, served⟩ := awaits.served
  have described := inOrder.described _ _ _ served
  have found := findObject_of_plain inOrder.orderly.plain awaits.stored
  have identity := (findObject_plain inOrder.keys inOrder.orderly found).1
  rw [ObjectMetadata.objectKey, ObjectKey.mk.injEq] at identity
  rw [archiveClaimed, plain]
  refine succeeds_bind (getStaging_succeeds calm served) fun staged first met => ?_
  obtain ⟨idle, rfl, bucket, key, version, size, checksum⟩ := met
  have same := described.cacheKey
  rw [CacheKey.mk.injEq] at same
  have valid : validateStagedObjectMatchesMetadata obj staged = .ok () :=
    validateStagedObject_ok (by rw [bucket, same.1, identity.1])
      (by rw [key, same.2.1, identity.2.1]) (by rw [version, same.2.2, identity.2.2])
      (size.trans described.size) awaits.size (checksum.trans described.checksum) awaits.checksum
  refine succeeds_passing valid ?_
  refine succeeds_bind (writable first idle.tape) fun write second met => ?_
  obtain ⟨wrote, bytes, metadata, cache, schedulers⟩ := met
  rw [idle.metadata] at metadata
  rw [idle.cache] at cache
  rw [idle.schedulers] at schedulers
  refine succeeds_passing ((ensure_eq_ok _ _ ()).mpr (by simpa using bytes)) ?_
  -- The object has not been replaced, since nothing else runs.
  refine succeeds_bind (headObject_succeeds calm (by rw [metadata]; exact found))
    fun current third met => ?_
  obtain ⟨rfl, idle3⟩ := met
  refine succeeds_passing ((ensure_eq_ok _ _ ()).mpr (by simpa using awaits.waits)) ?_
  refine succeeds_passing valid ?_
  refine succeeds_bind succeeds_now fun now fourth idle4 => ?_
  have since := idle3.trans idle4
  rw [← since.metadata] at metadata
  refine succeeds_bind (applied_succeeds calm (completion_accepted (metadata ▸ inOrder.orderly) named
    (metadata ▸ awaits.stored) identity.2.2 (metadata ▸ absent) now)) fun _ fifth met => ?_
  obtain ⟨only, objects, bundles, tasks, buckets, recallTasks⟩ := met
  rw [metadata] at objects bundles tasks buckets recallTasks
  have cache5 : fifth.cache = w.cache := (only.cache.trans since.cache).trans cache
  refine succeeds_bind (deleteStaging_succeeds calm (cache5 ▸ inOrder.sound) _ _ _)
    fun _ sixth met => ?_
  obtain ⟨cache6, metadata6, tape6, schedulers6⟩ := met
  rw [cache5] at cache6
  have present6 : sixth.metadata.archiveTasks.get task.id = some task := by
    rw [metadata6, tasks, id]
    exact present
  refine succeeds_bind (finalizeArchiveTaskSuccess_succeeds calm _ present6 rfl claimed)
    fun _ seventh met => ?_
  obtain ⟨only7, onlyTask, done⟩ := met
  rw [id] at onlyTask done
  refine succeeds_pure ⟨?_, write, ?_, ?_⟩
  · rw [only7.schedulers, schedulers6, only.schedulers, since.schedulers, schedulers]
  · rw [only7.tape, tape6, only.tape, since.tape]
    exact wrote
  · rw [← metadata6] at objects bundles tasks buckets recallTasks
    exact {
      objects := by rw [onlyTask.objects]; exact objects
      bundles := by rw [onlyTask.archiveBundles]; exact bundles
      task := done
      tasks := fun other ne => by rw [onlyTask.others other ne, tasks]
      buckets := onlyTask.buckets.trans buckets
      recallTasks := onlyTask.recallTasks.trans recallTasks
      cache := only7.cache.trans cache6 }

omit calm in
theorem phase1ArchiveTask_achieves (bundleId tapeId : String) (size : Nat) :
    (phase1ArchiveTask bundleId tapeId size).Achieves (machine svc env)
      (fun task after => Idle w after ∧ task.id = bundleId ∧
        task.status = ArchiveTaskStatus.archiveTaskPending.number) w :=
  achieves_bind achieves_now fun _ _ idle => ⟨idle, rfl, rfl⟩

/-- A listed object that waits is archived, if no one has claimed its task and the tape takes it. -/
theorem archiveEntry_archives [Sha256] (inOrder : InOrder w) (s : SchedulerState)
    {client : TapeArchiveClient} (plain : entry.versionId = none)
    (awaits : Awaits w entry.bucket entry.key obj data)
    (unclaimed : ¬ w.metadata.ArchiveStarted (bundleOf entry))
    (writable : Writable (machine svc env) client (bundleOf entry) data written w.tape) :
    Succeeds (machine svc env) (archiveEntry s client entry)
      (fun _ after => after.schedulers = w.schedulers ∧ ∃ write, written write after.tape ∧
        Archived entry.bucket entry.key (bundleOf entry) obj data
          write w after) w := by
  have found := findObject_of_plain inOrder.orderly.plain awaits.stored
  have named : bundleOf entry ≠ "" := by
    intro empty
    have := congrArg String.length empty
    simp [phase1BundleId, phase1Name] at this
  -- A bundle is stored only for a task that has been claimed.
  have absent : w.metadata.archiveBundles.get (bundleOf entry) =
      none := by
    cases present : w.metadata.archiveBundles.get (bundleOf entry)
    · rfl
    · exact absurd (inOrder.orderly.started _ _ present) unclaimed
  rw [archiveEntry, plain]
  refine succeeds_bind (succeeds_adapt (headObject_succeeds calm found)) fun current first met => ?_
  obtain ⟨rfl, idle⟩ := met
  refine succeeds_bind (succeeds_lift (phase1ArchiveTask_achieves _ _ _)) fun task second met => ?_
  obtain ⟨again, id, pending⟩ := met
  have since := idle.trans again
  rw [if_neg (not_not.mpr awaits.waits)]
  have order := inOrder.of_services since.metadata since.cache
  have secured : (contract svc env).Secures (claimArchiveTask task) _ second :=
    claimArchiveTask_secures task pending
  have claims := secured.succeeds order (claimArchiveTask_unclaimed calm order.keys pending
    (by rw [since.metadata, id]; exact unclaimed))
  refine succeeds_bind (succeeds_adapt claims) fun claimed third met => ?_
  obtain ⟨⟨only, onlyTask, claim, rfl, sameId, inProgress, present⟩, order⟩ := met
  rw [id] at onlyTask sameId present
  rw [since.metadata] at onlyTask
  have only := since.catalogueOnly.trans only
  have awaits : Awaits third entry.bucket entry.key current data :=
    awaits.of_services onlyTask.objects only.cache
  refine succeeds_bind (succeeds_adapt (archiveClaimed_succeeds calm order plain named awaits present
    sameId inProgress (by rw [onlyTask.archiveBundles]; exact absent) (only.tape ▸ writable)))
    fun bytes after met => ?_
  obtain ⟨schedulers, write, wrote, archived⟩ := met
  exact succeeds_pure ⟨schedulers.trans only.schedulers, write, wrote,
    archived.of_claimed onlyTask only⟩

end

end ColdStore.Scheduler
