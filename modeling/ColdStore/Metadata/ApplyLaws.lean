import ColdStore.Metadata.Apply

/-! Failed commands change nothing, and every command keeps records under their identities. -/

namespace ColdStore

open Rust

/-- A command that fails leaves the given state behind. -/
def Applied.Atomic (s : MetadataState) (applied : Applied) : Prop :=
  ∀ status, applied.1 = .error status → applied.2 = s

variable {s : MetadataState}

/-- What holds of a failure that changes nothing and of the rest holds of a guarded command. -/
theorem Applied.given_of {α : Type} {check : Except Status α} {rest : α → Applied}
    {property : Applied → Prop} (failed : ∀ status, property (.error status, s))
    (continues : ∀ value, check = .ok value → property (rest value)) :
    property (.given check s rest) := by
  cases checked : check with
  | ok value => exact continues value checked
  | error status => exact failed status

/-! A search for change finds what the search for reading finds. -/

variable {bucket key : String}

/-- The key of every version belongs to the searched object and maps to the version. -/
theorem mem_versions {entry : ObjectKey × ObjectMetadata} :
    entry ∈ versions s bucket key ↔
      s.objects.get entry.1 = some entry.2 ∧ entry.1.bucket = bucket ∧ entry.1.key = key := by
  simp [versions, ← HashMap.mem_entries]

/-- The latest version of a key, with the place it is stored at. -/
def latestVersion (s : MetadataState) (bucket key : String) :
    Option (ObjectKey × ObjectMetadata) :=
  maxByKey (fun entry => timestampSortKey entry.2.updatedAt) (versions s bucket key)

/-- Both searches without a version id pick the latest version. -/
theorem findObjectMut_none (s : MetadataState) (bucket key : String) :
    findObjectMut s bucket key none =
      okOr (.notFound "object not found") (latestVersion s bucket key) := by
  -- The candidate keys are the keys of the versions, in the same order.
  have candidates : (s.objects.keys.filter fun candidate =>
      candidate.bucket == bucket && candidate.key == key)
        = (versions s bucket key).map Prod.fst := by
    rw [HashMap.keys, List.filter_map]
    rfl
  -- Looking the time up again under the key finds the time of the version itself.
  have times : ∀ entry ∈ versions s bucket key,
      ((fun candidate => ((s.objects.get candidate).map fun obj =>
        timestampSortKey obj.updatedAt).getD (toLex (0, 0))) ∘ Prod.fst) entry
          = timestampSortKey entry.2.updatedAt := by
    intro entry mem
    simp [(mem_versions.mp mem).1]
  simp only [findObjectMut, candidates, maxByKey_map, maxByKey_congr times]
  cases found : latestVersion s bucket key with
  | none =>
    simp only [latestVersion] at found
    simp [found, okOr, Bind.bind, Except.bind]
  | some entry =>
    have stored := (mem_versions.mp (maxByKey_spec found).1).1
    simp only [latestVersion] at found
    simp [found, okOr, stored, Bind.bind, Except.bind, Pure.pure, Except.pure]

/-- The search for reading returns the value the search for change would change. -/
theorem findObject_eq (s : MetadataState) (bucket key : String) (versionId : Option String) :
    findObject s bucket key versionId = (findObjectMut s bucket key versionId).map Prod.snd := by
  cases versionId with
  | none =>
    rw [findObjectMut_none]
    simp only [findObject, latestVersion]
    cases maxByKey (fun entry : ObjectKey × ObjectMetadata =>
      timestampSortKey entry.2.updatedAt) (versions s bucket key) <;> rfl
  | some versionId =>
    simp only [findObject, findObjectMut]
    cases s.objects.get ⟨bucket, key, some versionId⟩ <;> rfl

/-- What a search for change finds is stored where it says, for the searched object. -/
theorem findObjectMut_stored {versionId : Option String} {place : ObjectKey}
    {obj : ObjectMetadata} (found : findObjectMut s bucket key versionId = .ok (place, obj)) :
    s.objects.get place = some obj ∧ place.bucket = bucket ∧ place.key = key := by
  cases versionId with
  | none =>
    rw [findObjectMut_none, okOr_eq_ok] at found
    exact mem_versions.mp (maxByKey_spec found).1
  | some versionId =>
    simp only [findObjectMut, okOr_eq_ok, Option.map_eq_some_iff, Prod.mk.injEq] at found
    obtain ⟨_, stored, rfl, rfl⟩ := found
    exact ⟨stored, rfl, rfl⟩

/-- Searches look at the objects only. -/
theorem findObjectMut_of_objects {left right : MetadataState}
    (same : left.objects = right.objects) (bucket key : String) (versionId : Option String) :
    findObjectMut left bucket key versionId = findObjectMut right bucket key versionId := by
  simp only [findObjectMut, same]

@[simp] theorem storeBundle_objects (s : MetadataState) (bundle : ArchiveBundle) :
    (storeBundle s bundle).objects = s.objects := by
  simp only [storeBundle]
  split <;> rfl

@[simp] theorem refreshBucketStats_objects (s : MetadataState) (bucket : String) :
    (refreshBucketStats s bucket).objects = s.objects := by
  simp only [refreshBucketStats]
  split <;> rfl

/-- Counting a bucket again keeps the names of all buckets. -/
@[simp] theorem refreshBucketStats_containsKey (s : MetadataState) (bucket name : String) :
    (refreshBucketStats s bucket).buckets.containsKey name = s.buckets.containsKey name := by
  simp only [refreshBucketStats]
  split
  · rfl
  · rename_i info stored
    simp only [HashMap.containsKey, HashMap.get_update]
    split
    · rename_i same
      simp [same, stored]
    · rfl

@[simp] theorem refreshBucketStats_archiveBundles (s : MetadataState) (bucket : String) :
    (refreshBucketStats s bucket).archiveBundles = s.archiveBundles := by
  simp only [refreshBucketStats]
  split <;> rfl

@[simp] theorem refreshBucketStats_archiveTasks (s : MetadataState) (bucket : String) :
    (refreshBucketStats s bucket).archiveTasks = s.archiveTasks := by
  simp only [refreshBucketStats]
  split <;> rfl

@[simp] theorem refreshBucketStats_recallTasks (s : MetadataState) (bucket : String) :
    (refreshBucketStats s bucket).recallTasks = s.recallTasks := by
  simp only [refreshBucketStats]
  split <;> rfl

/-- What holds of the old state and of every continuation holds after a guarded continuation. -/
theorem Applied.given_keeps {α : Type} {check : Except Status α} {rest : α → Applied}
    {property : MetadataState → Prop} (before : property s)
    (continues : ∀ value, check = .ok value → property (rest value).2) :
    property (Applied.given check s rest).2 :=
  @given_of _ _ _ _ (fun applied => property applied.2) (fun _ => before) continues

/-- A guarded continuation that succeeds passed its check. -/
theorem Applied.given_ok {α : Type} {check : Except Status α} {rest : α → Applied}
    (accepted : (Applied.given check s rest).1 = .ok ()) :
    ∃ value, check = .ok value ∧ Applied.given check s rest = rest value ∧
      (rest value).1 = .ok () := by
  cases checked : check with
  | ok value =>
    rw [checked] at accepted
    exact ⟨value, rfl, rfl, accepted⟩
  | error status =>
    rw [checked] at accepted
    cases accepted

/-! Every command is about few of the maps. -/

namespace MetadataCommand

/-- The commands that may write an object. -/
def writesObjects : MetadataCommand → Bool
  | .putObject _ | .deleteObject _ | .updateStorageClass _ | .updateArchiveLocation _
  | .completeArchiveObject _ | .updateRestoreStatus _ => true
  | _ => false

/-- The commands that may write a bucket. Those that put and delete objects count them again. -/
def writesBuckets : MetadataCommand → Bool
  | .putObject _ | .deleteObject _ | .createBucket _ | .deleteBucket _ => true
  | _ => false

/-- The commands that may write a bundle. -/
def writesBundles : MetadataCommand → Bool
  | .completeArchiveObject _ | .putArchiveBundle _ | .updateArchiveBundleStatus _ => true
  | _ => false

/-- The commands that may write an archive task. -/
def writesArchiveTasks : MetadataCommand → Bool
  | .putArchiveTask _ | .updateArchiveTask _ => true
  | _ => false

/-- The commands that may write a recall task. -/
def writesRecallTasks : MetadataCommand → Bool
  | .putRecallTask _ | .updateRecallTask _ => true
  | _ => false

end MetadataCommand

/-- The maps a command is not about have not changed. -/
structure Framed (cmd : MetadataCommand) (before after : MetadataState) : Prop where
  objects : cmd.writesObjects = false → after.objects = before.objects
  buckets : cmd.writesBuckets = false → after.buckets = before.buckets
  archiveBundles : cmd.writesBundles = false → after.archiveBundles = before.archiveBundles
  archiveTasks : cmd.writesArchiveTasks = false → after.archiveTasks = before.archiveTasks
  recallTasks : cmd.writesRecallTasks = false → after.recallTasks = before.recallTasks

namespace Framed

variable {cmd : MetadataCommand} {before after : MetadataState}

/-- Tapes and workers may change. -/
theorem aside {tapes : HashMap String TapeInfo}
    {schedulerWorkers : HashMap Nat SchedulerWorkerInfo}
    {cacheWorkers : HashMap Nat CacheWorkerInfo} {tapeWorkers : HashMap Nat TapeWorkerInfo} :
    Framed cmd before { before with tapes, schedulerWorkers, cacheWorkers, tapeWorkers } :=
  ⟨fun _ => rfl, fun _ => rfl, fun _ => rfl, fun _ => rfl, fun _ => rfl⟩

/-- Nothing has changed. -/
theorem refl : Framed cmd before before := .aside

/-- A command about objects may count the objects of a bucket again. -/
theorem of_refresh (objects : cmd.writesObjects = true) (buckets : cmd.writesBuckets = true)
    (changed : HashMap ObjectKey ObjectMetadata) (bucket : String) :
    Framed cmd before (refreshBucketStats { before with objects := changed } bucket) where
  objects other := nomatch objects.symm.trans other
  buckets other := nomatch buckets.symm.trans other
  archiveBundles _ := refreshBucketStats_archiveBundles _ _
  archiveTasks _ := refreshBucketStats_archiveTasks _ _
  recallTasks _ := refreshBucketStats_recallTasks _ _

/-- A command about objects may change one in place. -/
theorem of_writeObject (objects : cmd.writesObjects = true) (framed : Framed cmd before after)
    (place : ObjectKey) (changed : ObjectMetadata) :
    Framed cmd before (after.writeObject place changed) :=
  { framed with objects := fun other => nomatch objects.symm.trans other }

theorem of_buckets (buckets : cmd.writesBuckets = true) (changed : HashMap String BucketInfo) :
    Framed cmd before { before with buckets := changed } :=
  { refl with buckets := fun other => nomatch buckets.symm.trans other }

theorem of_bundles (bundles : cmd.writesBundles = true) (changed : HashMap String ArchiveBundle) :
    Framed cmd before { before with archiveBundles := changed } :=
  { refl with archiveBundles := fun other => nomatch bundles.symm.trans other }

theorem of_archiveTasks (tasks : cmd.writesArchiveTasks = true)
    (changed : HashMap String ArchiveTask) :
    Framed cmd before { before with archiveTasks := changed } :=
  { refl with archiveTasks := fun other => nomatch tasks.symm.trans other }

theorem of_recallTasks (tasks : cmd.writesRecallTasks = true)
    (changed : HashMap String RecallTask) :
    Framed cmd before { before with recallTasks := changed } :=
  { refl with recallTasks := fun other => nomatch tasks.symm.trans other }

end Framed

theorem storeBundle_framed (req : CompleteArchiveObjectRequest) (s : MetadataState)
    (bundle : ArchiveBundle) :
    Framed (.completeArchiveObject req) s (storeBundle s bundle) := by
  unfold storeBundle
  split
  · exact .refl
  · exact .of_bundles rfl _

/-! Every command keeps records under the identities they carry. -/

theorem keysAgree_default : MetadataState.KeysAgree {} := by
  constructor <;> exact HashMap.keyed_empty _

theorem keysAgree_of_equiv {left right : MetadataState} (agree : left.KeysAgree)
    (same : left ≈ right) : right.KeysAgree where
  objects := agree.objects.of_equiv same.objects
  buckets := agree.buckets.of_equiv same.buckets
  archiveBundles := agree.archiveBundles.of_equiv same.archiveBundles
  archiveTasks := agree.archiveTasks.of_equiv same.archiveTasks
  recallTasks := agree.recallTasks.of_equiv same.recallTasks
  tapes := agree.tapes.of_equiv same.tapes
  schedulerWorkers := agree.schedulerWorkers.of_equiv same.schedulerWorkers
  cacheWorkers := agree.cacheWorkers.of_equiv same.cacheWorkers
  tapeWorkers := agree.tapeWorkers.of_equiv same.tapeWorkers

theorem keysAgree_refresh (agree : s.KeysAgree) (bucket : String) :
    (refreshBucketStats s bucket).KeysAgree := by
  simp only [refreshBucketStats]
  split
  · exact agree
  · rename_i info stored
    exact { agree with buckets := agree.buckets.update stored rfl }

theorem keysAgree_storeBundle (agree : s.KeysAgree) (bundle : ArchiveBundle) :
    (storeBundle s bundle).KeysAgree := by
  simp only [storeBundle]
  split
  · exact agree
  · exact { agree with archiveBundles := agree.archiveBundles.insert bundle }

/-- An object changed in place keeps its identity. -/
theorem keysAgree_writeObject (agree : s.KeysAgree) {versionId : Option String} {place : ObjectKey}
    {obj changed : ObjectMetadata} (found : findObjectMut s bucket key versionId = .ok (place, obj))
    (same : changed.objectKey = obj.objectKey) : (s.writeObject place changed).KeysAgree :=
  { agree with objects := agree.objects.update (findObjectMut_stored found).1 same }

/-! A heartbeat changes what a worker reports, never which worker it is. -/

@[simp] theorem SchedulerWorkerInfo.report_nodeId (worker : SchedulerWorkerInfo)
    (payload : Option HeartbeatPayload) : (worker.report payload).nodeId = worker.nodeId := by
  rcases payload with _ | _ | _ | _ <;> rfl

@[simp] theorem CacheWorkerInfo.report_nodeId (worker : CacheWorkerInfo)
    (payload : Option HeartbeatPayload) : (worker.report payload).nodeId = worker.nodeId := by
  rcases payload with _ | _ | _ | _ <;> rfl

@[simp] theorem TapeWorkerInfo.report_nodeId (worker : TapeWorkerInfo)
    (payload : Option HeartbeatPayload) : (worker.report payload).nodeId = worker.nodeId := by
  rcases payload with _ | _ | _ | _ <;> rfl

/-- What every command sees to, whether it succeeds or fails. -/
structure Settled (cmd : MetadataCommand) (s : MetadataState) (applied : Applied) : Prop where
  atomic : applied.Atomic s
  framed : Framed cmd s applied.2
  keysAgree : s.KeysAgree → applied.2.KeysAgree

variable {cmd : MetadataCommand}

theorem Settled.failed {status : Status} :
    Settled cmd s (.error status, s) := ⟨fun _ _ => rfl, .refl, id⟩

theorem Settled.done {after : MetadataState}
    (framed : Framed cmd s after) (keysAgree : s.KeysAgree → after.KeysAgree) :
    Settled cmd s (.ok (), after) := ⟨fun _ failed => (nomatch failed), framed, keysAgree⟩

theorem Settled.given {α : Type} {check : Except Status α} {rest : α → Applied}
    (continues : ∀ value, check = .ok value → Settled cmd s (rest value)) :
    Settled cmd s (.given check s rest) := Applied.given_of (fun _ => .failed) continues

/-- Every failure happens before the first change, or after a change that is bound to succeed. -/
theorem completeArchiveObject_settled (now : Timestamp) (req : CompleteArchiveObjectRequest)
    (s : MetadataState) :
    Settled (.completeArchiveObject req) s (completeArchiveObject now req s) := by
  refine .given fun bundle _ => .given fun _ _ => .given fun obj found => .given fun _ _ =>
    .given fun _ _ => ?_
  -- Storing the bundle left the objects alone, so the second search succeeds like the first.
  have again : ∃ entry, findObjectMut (storeBundle s bundle)
      req.bucket req.key req.versionId = .ok entry := by
    rw [findObject_eq] at found
    rw [findObjectMut_of_objects (storeBundle_objects s bundle)]
    cases searched : findObjectMut s req.bucket req.key req.versionId with
    | ok entry => exact ⟨entry, rfl⟩
    | error status => simp [searched, Except.map] at found
  obtain ⟨entry, searched⟩ := again
  simp only [Applied.given, searched]
  exact .done ((storeBundle_framed req s bundle).of_writeObject rfl _ _) fun agree =>
    keysAgree_writeObject (keysAgree_storeBundle agree bundle) searched rfl

/--
Every command sees to it that a failure changes nothing and other maps stay as they are.

It enters records under the keys made from them, or changes fields outside those keys.
-/
theorem applyCommand_settled (clock : Nat) (s : MetadataState) (cmd : MetadataCommand) :
    Settled cmd s (applyCommand clock s cmd) := by
  cases cmd with
  | putObject obj =>
    simp only [applyCommand, putObject]
    split
    · refine .done (.of_refresh rfl rfl _ _) fun agree => ?_
      apply keysAgree_refresh
      exact { agree with objects := agree.objects.insert _ }
    · exact .failed
  | deleteObject req =>
    simp only [applyCommand, deleteObject]
    split
    · refine .done (.of_refresh rfl rfl _ _) fun agree => ?_
      apply keysAgree_refresh
      exact { agree with objects := agree.objects.remove _ }
    · exact .failed
  | updateStorageClass _ | updateArchiveLocation _ =>
    exact .given fun _ found =>
      .done (Framed.refl.of_writeObject rfl _ _) fun agree => keysAgree_writeObject agree found rfl
  | completeArchiveObject req => exact completeArchiveObject_settled _ req s
  | updateRestoreStatus req =>
    exact .given fun _ found => .given fun _ _ =>
      .done (Framed.refl.of_writeObject rfl _ _) fun agree => keysAgree_writeObject agree found rfl
  | createBucket bucket =>
    simp only [applyCommand, createBucket]
    split
    · exact .failed
    · exact .done (.of_buckets rfl _) fun agree => { agree with
        buckets := agree.buckets.insert { bucket with
          createdAt := bucket.createdAt.or (some (nowTimestamp clock)) } }
  | deleteBucket req =>
    simp only [applyCommand, deleteBucket]
    split
    · exact .failed
    · split
      · exact .done (.of_buckets rfl _) fun agree => { agree with
          buckets := agree.buckets.remove _ }
      · exact .failed
  | putArchiveBundle bundle =>
    exact .done (.of_bundles rfl _) fun agree => { agree with
      archiveBundles := agree.archiveBundles.insert _ }
  | updateArchiveBundleStatus req =>
    exact .given fun bundle found => .given fun _ _ =>
      .done (.of_bundles rfl _) fun agree => { agree with
        archiveBundles := agree.archiveBundles.update ((okOr_eq_ok _ _ _).mp found) rfl }
  | putArchiveTask task =>
    simp only [applyCommand, putArchiveTask]
    split
    · split
      · exact .done .refl id
      · exact .failed
    · exact .done (.of_archiveTasks rfl _) fun agree => { agree with
        archiveTasks := agree.archiveTasks.insert { task with
          createdAt := task.createdAt.or (some (nowTimestamp clock)) } }
  | updateArchiveTask task =>
    exact .given fun _ _ => .given fun _ _ =>
      .done (.of_archiveTasks rfl _) fun agree => { agree with
        archiveTasks := agree.archiveTasks.insert _ }
  | putRecallTask task =>
    simp only [applyCommand, putRecallTask]
    split
    · split
      · exact .done .refl id
      · exact .failed
    · exact .done (.of_recallTasks rfl _) fun agree => { agree with
        recallTasks := agree.recallTasks.insert { task with
          createdAt := task.createdAt.or (some (nowTimestamp clock)) } }
  | updateRecallTask task =>
    exact .given fun _ _ => .given fun _ _ =>
      .done (.of_recallTasks rfl _) fun agree => { agree with
        recallTasks := agree.recallTasks.insert _ }
  | putTape _ | updateTape _ =>
    exact .done .aside fun agree => { agree with
      tapes := agree.tapes.insert _ }
  | registerSchedulerWorker _ =>
    exact .done .aside fun agree => { agree with
      schedulerWorkers := agree.schedulerWorkers.insert _ }
  | deregisterSchedulerWorker _ =>
    exact .done .aside fun agree => { agree with
      schedulerWorkers := agree.schedulerWorkers.remove _ }
  | registerCacheWorker _ =>
    exact .done .aside fun agree => { agree with
      cacheWorkers := agree.cacheWorkers.insert _ }
  | deregisterCacheWorker _ =>
    exact .done .aside fun agree => { agree with
      cacheWorkers := agree.cacheWorkers.remove _ }
  | registerTapeWorker _ =>
    exact .done .aside fun agree => { agree with
      tapeWorkers := agree.tapeWorkers.insert _ }
  | deregisterTapeWorker _ =>
    exact .done .aside fun agree => { agree with
      tapeWorkers := agree.tapeWorkers.remove _ }
  | updateWorkerStatus _ | heartbeat _ =>
    -- A worker that is told about or reports is still the same worker.
    simp only [applyCommand, updateWorkerStatus, heartbeat]
    split
    · exact .given fun _ found =>
        .done .aside fun agree => { agree with
          schedulerWorkers := agree.schedulerWorkers.update ((okOr_eq_ok _ _ _).mp found) (by simp) }
    · exact .given fun _ found =>
        .done .aside fun agree => { agree with
          cacheWorkers := agree.cacheWorkers.update ((okOr_eq_ok _ _ _).mp found) (by simp) }
    · exact .given fun _ found =>
        .done .aside fun agree => { agree with
          tapeWorkers := agree.tapeWorkers.update ((okOr_eq_ok _ _ _).mp found) (by simp) }
    · exact .failed

/-- A command that fails leaves all nine maps as they were. -/
theorem applyCommand_atomic (clock : Nat) (s : MetadataState) (cmd : MetadataCommand) :
    (applyCommand clock s cmd).Atomic s := (applyCommand_settled clock s cmd).atomic

/-- A command leaves the maps alone that it is not about. -/
theorem applyCommand_framed (clock : Nat) (s : MetadataState) (cmd : MetadataCommand) :
    Framed cmd s (applyCommand clock s cmd).2 := (applyCommand_settled clock s cmd).framed

/-- Every command keeps records under the identities they carry. -/
theorem applyCommand_keysAgree (agree : s.KeysAgree) (clock : Nat) (cmd : MetadataCommand) :
    (applyCommand clock s cmd).2.KeysAgree := (applyCommand_settled clock s cmd).keysAgree agree

end ColdStore
