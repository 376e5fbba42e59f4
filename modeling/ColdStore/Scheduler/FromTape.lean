import ColdStore.Scheduler.ToTape

/-! Uploads on one tape that are asked for, recalled by the passes of a worker, and read. -/

namespace ColdStore.Scheduler

open Rust Process Program CacheState SimulatorState

/-- The name of the task that recalls an upload. -/
def Upload.recallTaskId (upload : Upload) : String :=
  phase1RecallTaskId upload.bucket upload.key none

/-- The recall tasks that wait for a worker. -/
def waitingTasks (w : World) : List RecallTask :=
  w.metadata.recallTasks.values.filter isPendingRecallTask

/-- A worker lists the tasks that wait. -/
theorem listPendingRecallTasks_filter (w : World) :
    w.metadata.listPendingRecallTasks.filter isPendingRecallTask = waitingTasks w := by
  rw [MetadataState.listPendingRecallTasks, List.filter_filter, waitingTasks]
  -- The catalogue and the worker test for the same two statuses.
  exact List.filter_congr fun task _ => Bool.and_self (isPendingRecallTask task)

/-- A restore is asked for, or a worker makes a pass. -/
inductive RecallStep where
  | restore (upload : Upload) (days : Nat) (tier : RestoreTier)
  | pass (s : SchedulerState) (limit : Nat)

def RecallStep.request : RecallStep → Request
  | .restore upload days tier => .restoreObject upload.bucket upload.key days tier
  | .pass s limit => .recallPendingBatch s limit

/-- The upload a step asks for. -/
def RecallStep.asksFor : RecallStep → Option Upload
  | .restore upload _ _ => some upload
  | .pass _ _ => none

/-- The uploads that are asked for, in this order. -/
def askedUploads (steps : List RecallStep) : List Upload := steps.filterMap RecallStep.asksFor

/-- How many tasks wait after some steps: a pass takes up to its limit of them. -/
def waitingAfter : Nat → List RecallStep → Nat
  | waiting, [] => waiting
  | waiting, .restore _ _ _ :: rest => waitingAfter (waiting + 1) rest
  | waiting, .pass _ limit :: rest => waitingAfter (waiting - limit) rest

/-- A restore that is not urgent and does not run out, or a pass of a worker at the drive. -/
def RecallStep.Fair (env : Nat → Moment) (index : Nat) : RecallStep → Prop
  | .restore _ days tier => tier ≠ .expedited ∧ ∀ first second : Nat,
      (env second).seconds < (env first).seconds + max days 1 * 86400
  | .pass s _ => parseDriveId s.config.recallDriveId = .ok ⟨.drive, index⟩

section

variable {uploads : List Upload} {first second : Upload} (apart : Apart uploads)
  (left : first ∈ uploads) (right : second ∈ uploads) (ne : first ≠ second)

include apart left right ne

theorem Apart.objectKey_ne : first.objectKey ≠ second.objectKey := by
  intro same
  refine ne (apart.eq_of_place left right ?_)
  simpa [Upload.objectKey] using same

theorem Apart.cacheKey_ne : first.cacheKey ≠ second.cacheKey := by
  intro same
  refine ne (apart.eq_of_place left right ?_)
  simpa [Upload.cacheKey] using same

theorem Apart.recallTaskId_ne : first.recallTaskId ≠ second.recallTaskId :=
  fun same => ne (apart.eq_of_name left right same)

end

/-- Uploads that are to come back from one tape, with the bundles on it. -/
structure RecallPlan (svc : CacheService) extends TapePlan svc where
  bundles : List Bytes

variable {svc : CacheService}

/-- What is done about an upload is done without any change to another one. -/
structure LeftAlone (plan : RecallPlan svc) (upload : Upload) (before after : World) : Prop where
  object : after.metadata.objects.get upload.objectKey = before.metadata.objects.get upload.objectKey
  task : after.metadata.recallTasks.get upload.recallTaskId =
    before.metadata.recallTasks.get upload.recallTaskId
  uncached : before.cache.findEntry upload.cacheKey .restored = none →
    after.cache.findEntry upload.cacheKey .restored = none
  served : ∀ object, before.cache.view .restored upload.cacheKey = some object →
    (∀ tick, ((plan.env tick).seconds : Int) < object.1.expireAt) →
      after.cache.view .restored upload.cacheKey = some object

variable [Sha256]

/-- An upload is on the tape, and its restore has not been asked for. -/
structure NotAsked (plan : RecallPlan svc) (upload : Upload) (w : World) : Prop where
  stored : ∃ obj, w.metadata.objects.get upload.objectKey = some obj ∧
    OnTape plan.tapeId plan.bundles upload obj ∧ obj.restoreStatus = none
  unasked : w.metadata.recallTasks.get upload.recallTaskId = none
  uncached : w.cache.findEntry upload.cacheKey .restored = none

/-- A task is to recall an upload, and it will not expire. -/
structure Asked (plan : RecallPlan svc) (upload : Upload) (task : RecallTask) (w : World) :
    Prop where
  present : w.metadata.recallTasks.get upload.recallTaskId = some task
  pending : task.status = RestoreStatus.restorePending.number
  named : task.id = upload.recallTaskId
  bucket : task.bucket = upload.bucket
  key : task.key = upload.key
  tape : task.tapeId = plan.tapeId
  recallable : ∃ obj expireAt, w.metadata.objects.get upload.objectKey = some obj ∧
    obj.restoreStatus = some RestoreStatus.restorePending.number ∧
    OnTape plan.tapeId plan.bundles upload obj ∧ Recallable w plan.bundles task obj upload.body expireAt ∧
    ∀ tick, ((plan.env tick).seconds : Int) < expireAt.seconds

/-- An upload is back in the cache, and it will not expire. -/
structure Back (plan : RecallPlan svc) (upload : Upload) (w : World) : Prop where
  stored : ∃ obj, w.metadata.objects.get upload.objectKey = some obj ∧
    obj.objectKey = upload.objectKey ∧ obj.storageClass = StorageClass.cold.number ∧
    obj.restoreStatus = some RestoreStatus.restoreCompleted.number ∧
    obj.size = upload.body.length ∧ obj.checksum = sha256Hex upload.body
  closed : ∃ task, w.metadata.recallTasks.get upload.recallTaskId = some task ∧
    task.status = RestoreStatus.restoreCompleted.number
  served : ∃ xattrs, w.cache.view .restored upload.cacheKey = some (xattrs, upload.body) ∧
    xattrs.size = upload.body.length ∧ ∀ tick, ((plan.env tick).seconds : Int) < xattrs.expireAt

section

variable {plan : RecallPlan svc} {upload : Upload} {before after : World}

theorem NotAsked.leftAlone (notAsked : NotAsked plan upload before)
    (alone : LeftAlone plan upload before after) : NotAsked plan upload after where
  stored := by rw [alone.object]; exact notAsked.stored
  unasked := alone.task.trans notAsked.unasked
  uncached := alone.uncached notAsked.uncached

theorem Asked.leftAlone {task : RecallTask} (asked : Asked plan upload task before)
    (alone : LeftAlone plan upload before after) : Asked plan upload task after := by
  obtain ⟨obj, expireAt, stored, pending, onTape, recallable, alive⟩ := asked.recallable
  -- Only the cache is looked at in the world, and only where the upload would be.
  have uncached := recallable.uncached
  rw [asked.bucket, asked.key] at uncached
  refine { asked with
    present := alone.task.trans asked.present
    recallable := ⟨obj, expireAt, alone.object.trans stored, pending, onTape,
      { recallable with uncached := ?_ }, alive⟩ }
  rw [asked.bucket, asked.key]
  exact alone.uncached uncached

theorem Back.leftAlone (back : Back plan upload before)
    (alone : LeftAlone plan upload before after) : Back plan upload after where
  stored := by rw [alone.object]; exact back.stored
  closed := by rw [alone.task]; exact back.closed
  served := by
    obtain ⟨xattrs, served, size, alive⟩ := back.served
    exact ⟨xattrs, alone.served _ served alive, size, alive⟩

/-- What waits or is back stays so when it is left alone. -/
theorem LeftAlone.touched (alone : LeftAlone plan upload before after)
    (touched : (∃ task, Asked plan upload task before) ∨ Back plan upload before) :
    (∃ task, Asked plan upload task after) ∨
      Back plan upload after := by
  rcases touched with ⟨task, asked⟩ | back
  · exact Or.inl ⟨task, asked.leftAlone alone⟩
  · exact Or.inr (back.leftAlone alone)

end

/-- What remains has not been asked for, and the other uploads wait or are back. -/
structure Keeping (plan : RecallPlan svc) (remaining : List Upload) (w : World) : Prop where
  unversioned : Unversioned w.metadata
  accounted : w.cache.Accounted
  storage : w.cache.backend.maxSizeBytes = plan.storageBytes
  mounted : Mounted w.tape plan.index plan.tapeId plan.bundles
  unstaged : ∀ key, w.cache.findEntry key .staging = none
  restored : ∀ key entry, w.cache.findEntry key .restored = some entry →
    (key, entry.xattrs.size) ∈ weights plan.uploads
  tasks : ∀ id task, w.metadata.recallTasks.get id = some task →
    ∃ upload ∈ plan.uploads, id = upload.recallTaskId
  untouched : ∀ upload ∈ remaining, NotAsked plan upload w
  touched : ∀ upload ∈ plan.uploads, upload ∉ remaining →
    (∃ task, Asked plan upload task w) ∨ Back plan upload w

section

variable {plan : RecallPlan svc} {remaining : List Upload} {upload : Upload} {before after : World}

/-- Nothing has been asked for once everything is on the tape. -/
theorem Shelving.keeping {w : World} (inOrder : InOrder w)
    (shelving : Shelving plan.toTapePlan plan.bundles [] w)
    (all : ∀ upload, upload ∈ remaining ↔ upload ∈ plan.uploads) : Keeping plan remaining w where
  unversioned := inOrder.orderly.plain
  accounted := shelving.accounted
  storage := shelving.storage
  mounted := by
    obtain ⟨tape, holds, appended, barcode⟩ := shelving.filling
    exact ⟨tape, _, holds, appended.records, barcode⟩
  unstaged key := by
    refine Option.eq_none_iff_forall_ne_some.mpr fun entry found => ?_
    -- Everything staged would have a line, and there is none left.
    obtain ⟨line, there, _⟩ := shelving.staged key entry found
    cases there
  restored key entry found := by
    rw [shelving.unrestored] at found
    cases found
  tasks id task found := by
    rw [shelving.unasked] at found
    cases found
  untouched upload mem :=
    ⟨shelving.shelved upload ((all upload).mp mem) (by simp), shelving.unasked _,
      shelving.unrestored _⟩
  touched upload mem other := absurd ((all upload).mpr mem) other

variable {task : RecallTask}

/-- A task that waits is that of an upload that was asked for. -/
theorem Keeping.asked (keeping : Keeping plan remaining before) {id : String}
    (present : before.metadata.recallTasks.get id = some task)
    (waits : isPendingRecallTask task = true) :
    ∃ upload ∈ plan.uploads, upload ∉ remaining ∧
      Asked plan upload task before := by
  obtain ⟨upload, mem, rfl⟩ := keeping.tasks id task present
  -- A remaining upload has no task yet.
  have touched : upload ∉ remaining := by
    intro unasked
    rw [(keeping.untouched upload unasked).unasked] at present
    cases present
  refine ⟨upload, mem, touched, ?_⟩
  rcases keeping.touched upload mem touched with ⟨other, asked⟩ | back
  · obtain rfl := Option.some.inj (present.symm.trans asked.present)
    exact asked
  -- The task of an upload that is back is closed.
  · obtain ⟨other, stored, completed⟩ := back.closed
    obtain rfl := Option.some.inj (present.symm.trans stored)
    rw [isPendingRecallTask, completed] at waits
    cases waits

variable {obj : ObjectMetadata}

/-- The catalogue tells where on the tape an upload is. -/
theorem OnTape.placed (onTape : OnTape plan.tapeId plan.bundles upload obj) :
    ∃ number, archivePlace obj =
        .ok ⟨phase1BundleId upload.bucket upload.key none, plan.tapeId, number⟩ ∧
      number < 2 ^ 32 ∧ plan.bundles[number]? = some upload.body := by
  obtain ⟨number, offset, small, there⟩ := onTape.offset
  refine ⟨number, ?_, small, there⟩
  rw [archivePlace, onTape.archived, onTape.tape, offset]
  rfl

variable {tier : RestoreTier}

/-- An upload that was just asked for waits. -/
theorem AskedFor.asked {number days : Nat}
    (stored : before.metadata.objects.get upload.objectKey = some obj)
    (onTape : OnTape plan.tapeId plan.bundles upload obj) (short : number < 2 ^ 32)
    (there : plan.bundles[number]? = some upload.body)
    (uncached : before.cache.findEntry upload.cacheKey .restored = none)
    (small : upload.body.length ≤ usizeMax)
    (alive : ∀ first second : Nat,
      (plan.env second).seconds < (plan.env first).seconds + max days 1 * 86400)
    (askedFor : AskedFor plan.env upload.bucket upload.key obj
      ⟨phase1BundleId upload.bucket upload.key none, plan.tapeId, number⟩ days tier before after) :
    ∃ task, Asked plan upload task after ∧
      after.metadata.recallTasks = before.metadata.recallTasks.insert upload.recallTaskId task := by
  obtain ⟨tick, expireAt, now, stamp, seconds, metadata⟩ := askedFor.recorded
  obtain ⟨bucket, key, plain⟩ := ObjectKey.mk.inj onTape.identity
  -- The restore copies what the catalogue says into the task.
  let task := restoreTask upload.bucket upload.key obj
    ⟨phase1BundleId upload.bucket upload.key none, plan.tapeId, number⟩ days tier expireAt now
  have named : task.id = upload.recallTaskId := by
    rw [Upload.recallTaskId, ← plain]
    rfl
  have tasks : after.metadata.recallTasks =
      before.metadata.recallTasks.insert upload.recallTaskId task := by
    rw [metadata]
    rfl
  have objects : after.metadata.objects.get upload.objectKey =
      some (restoring .restorePending (some expireAt) stamp obj) := by
    rw [metadata]
    exact HashMap.get_update_of_some _ _ stored
  have recallable : Recallable after plan.bundles task
      (restoring .restorePending (some expireAt) stamp obj) upload.body expireAt :=
    ⟨onTape.identity, onTape.cold, onTape.archived, onTape.size, onTape.checksum, short, there,
      small, rfl, by rw [askedFor.only.cache]; exact uncached⟩
  refine ⟨task, ⟨?_, rfl, named, rfl, rfl, rfl, _, expireAt, objects, rfl, { onTape with },
    recallable, fun other => ?_⟩, tasks⟩
  · rw [tasks]
    exact HashMap.get_insert_self _ _ _
  -- The expiry lies behind every moment, counted from any of them.
  · have later := alive tick other
    omega

omit [Sha256] in
/-- Other uploads are left alone when one is asked for. -/
theorem AskedFor.leftAlone {place : ArchivePlace} {days : Nat} {other : Upload}
    (mem : upload ∈ plan.uploads) (there : other ∈ plan.uploads) (ne : other ≠ upload)
    (askedFor : AskedFor plan.env upload.bucket upload.key obj place days tier before after) :
    LeftAlone plan other before after := by
  obtain ⟨tick, expireAt, now, stamp, seconds, metadata⟩ := askedFor.recorded
  -- Object and task are stored under other names, and the cache is not touched.
  refine ⟨?_, ?_, ?_, ?_⟩
  · rw [metadata]
    exact HashMap.get_update_ne _ _ (plan.apart.objectKey_ne there mem ne)
  · rw [metadata]
    exact HashMap.get_insert_ne _ _ (plan.apart.recallTaskId_ne there mem ne)
  · rw [askedFor.only.cache]
    exact id
  · rw [askedFor.only.cache]
    exact fun _ served _ => served

/-- Asking for one more upload leaves the others to be asked for. -/
theorem Keeping.askedFor {rest : List Upload} (mem : upload ∈ plan.uploads)
    (inside : ∀ other ∈ rest, other ∈ plan.uploads) (once : upload ∉ rest)
    (keeping : Keeping plan (upload :: rest) before) {place : ArchivePlace} {days : Nat}
    (askedFor : AskedFor plan.env upload.bucket upload.key obj place days tier before after)
    (asked : Asked plan upload task after) :
    Keeping plan rest after := by
  have alone : ∀ other ∈ plan.uploads, other ≠ upload → LeftAlone plan other before after :=
    fun other there ne => askedFor.leftAlone mem there ne
  obtain ⟨tick, expireAt, now, stamp, seconds, metadata⟩ := askedFor.recorded
  have cache := askedFor.only.cache
  exact {
    unversioned := by rw [metadata]; exact keeping.unversioned.update _ _
    accounted := cache ▸ keeping.accounted
    storage := cache ▸ keeping.storage
    mounted := askedFor.only.tape ▸ keeping.mounted
    unstaged := cache ▸ keeping.unstaged
    restored := cache ▸ keeping.restored
    tasks := by
      intro id found present
      rw [metadata, HashMap.get_insert] at present
      split at present
      · rename_i same
        exact ⟨upload, mem, same⟩
      · exact keeping.tasks id found present
    untouched := by
      intro other there
      have ne : other ≠ upload := fun same => once (same ▸ there)
      exact (keeping.untouched other (List.mem_cons_of_mem _ there)).leftAlone
        (alone other (inside other there) ne)
    touched := by
      intro other there done
      -- The upload itself waits now, and every other one is as before.
      by_cases same : other = upload
      · exact Or.inl ⟨task, same ▸ asked⟩
      · have earlier : other ∉ upload :: rest := by simp [same, done]
        exact (alone other there same).touched (keeping.touched other there earlier) }

/-- Locks and time make no difference. -/
theorem Keeping.of_services (same : SameServices before after)
    (keeping : Keeping plan remaining before) : Keeping plan remaining after := by
  obtain ⟨metadata, cache, tape⟩ := same
  have alone : ∀ upload, LeftAlone plan upload before after := fun upload =>
    ⟨by rw [metadata], by rw [metadata], by rw [cache]; exact id, by rw [cache]; exact fun _ h _ => h⟩
  exact ⟨metadata ▸ keeping.unversioned, cache ▸ keeping.accounted, cache ▸ keeping.storage,
    tape ▸ keeping.mounted, cache ▸ keeping.unstaged, cache ▸ keeping.restored,
    metadata ▸ keeping.tasks, fun upload there => (keeping.untouched upload there).leftAlone (alone _),
    fun upload there done => (alone upload).touched (keeping.touched upload there done)⟩

/-- A pass has come to some tasks, and leaves others for later passes. -/
structure Passing (plan : RecallPlan svc) (remaining : List Upload) (left : Nat)
    (tasks : List RecallTask) (w : World) : Prop where
  keeping : Keeping plan remaining w
  waiting : ∀ task ∈ tasks, w.metadata.recallTasks.get task.id = some task ∧
    isPendingRecallTask task = true
  distinct : (tasks.map RecallTask.id).Nodup
  count : (waitingTasks w).length = left + tasks.length

/-- A pass starts with the tasks that wait, as many of them as it may take. -/
theorem Keeping.passing (keys : before.metadata.KeysAgree) (keeping : Keeping plan remaining before)
    (limit : Nat) :
    Passing plan remaining
      ((waitingTasks before).length - limit)
      ((sortRecallTasks (waitingTasks before)).take limit) before := by
  -- Sorting and cutting off leave tasks that wait, each once.
  have sorted : (sortRecallTasks (waitingTasks before)).Perm (waitingTasks before) :=
    List.perm_insertionSort _ _
  refine ⟨keeping, fun task mem => ?_, ?_, ?_⟩
  · obtain ⟨stored, pending⟩ := List.mem_filter.mp (sorted.subset (List.mem_of_mem_take mem))
    obtain ⟨id, present⟩ := (HashMap.mem_values _ _).mp stored
    obtain rfl := HashMap.keyed_iff.mp keys.recallTasks id task present
    exact ⟨present, pending⟩
  · have all : ((waitingTasks before).map RecallTask.id).Nodup :=
      keys.recallTasks.values_nodup.sublist (List.filter_sublist.map _)
    exact ((sorted.map _).nodup_iff.mpr all).sublist ((List.take_sublist _ _).map _)
  · rw [List.length_take, sorted.length_eq]
    omega

variable {expireAt : Timestamp}
  (recalled : Recalled plan.env plan.index plan.bundles task obj upload.body expireAt before after)
  (asked : Asked plan upload task before)

include recalled asked

/-- An upload that was just recalled is back. -/
theorem Recalled.back (onTape : OnTape plan.tapeId plan.bundles upload obj)
    (alive : ∀ tick, ((plan.env tick).seconds : Int) < expireAt.seconds) : Back plan upload after where
  stored := by
    obtain ⟨stamp, objects⟩ := recalled.objects
    rw [asked.bucket, asked.key] at objects
    exact ⟨_, (objects upload.objectKey).trans (if_pos rfl), onTape.identity, onTape.cold, rfl,
      onTape.size, onTape.checksum⟩
  closed := by
    obtain ⟨done, completed, tasks⟩ := recalled.recallTasks
    exact ⟨done, (tasks upload.recallTaskId).trans (if_pos asked.named.symm), completed⟩
  served := by
    obtain ⟨tick, xattrs, admitted, kind, size, expires⟩ := recalled.cache
    rw [asked.bucket, asked.key] at admitted
    exact ⟨xattrs, kind ▸ admitted.itself, size, expires ▸ alive⟩

/-- Other uploads are left alone when one is recalled. -/
theorem Recalled.leftAlone {other : Upload} (mem : upload ∈ plan.uploads)
    (there : other ∈ plan.uploads) (ne : other ≠ upload) : LeftAlone plan other before after := by
  have place := plan.apart.objectKey_ne there mem ne
  have key : other.cacheKey ≠ ⟨task.bucket, task.key, none⟩ := by
    rw [asked.bucket, asked.key]
    exact plan.apart.cacheKey_ne there mem ne
  -- At most expired objects go when one is kept.
  obtain ⟨tick, xattrs, admitted, kind, _⟩ := recalled.cache
  refine ⟨?_, ?_, fun absent => ?_, fun kept served alive => ?_⟩
  · obtain ⟨stamp, objects⟩ := recalled.objects
    rw [asked.bucket, asked.key] at objects
    exact (objects other.objectKey).trans (if_neg place)
  · obtain ⟨done, _, tasks⟩ := recalled.recallTasks
    rw [tasks, asked.named]
    exact if_neg (plan.apart.recallTaskId_ne there mem ne)
  · refine Option.eq_none_iff_forall_ne_some.mpr fun entry found => ?_
    rcases admitted.entries _ _ _ found with ⟨_, same, _⟩ | was
    · exact key same
    · rw [absent] at was
      cases was
  · rw [admitted.others _ _ (fun same => key same.2) fun _ expired => ?_, served]
    -- What has not expired is not cleared away.
    obtain ⟨entry, found, gone⟩ := expired
    obtain ⟨same, present, known, _⟩ := findEntry_of_view served
    obtain rfl := Option.some.inj (found.symm.trans present)
    have later := alive tick
    rw [known] at gone
    simp only [isExpiredAt, decide_eq_true_eq] at gone
    omega

/-- Recalling an upload that waits leaves what remains to be asked for. -/
theorem Keeping.of_recalled (inside : ∀ other ∈ remaining, other ∈ plan.uploads)
    (mem : upload ∈ plan.uploads) (touched : upload ∉ remaining)
    (keeping : Keeping plan remaining before) (back : Back plan upload after) :
    Keeping plan remaining after := by
  have alone : ∀ other ∈ plan.uploads, other ≠ upload → LeftAlone plan other before after :=
    fun other there ne => recalled.leftAlone asked mem there ne
  obtain ⟨tick, xattrs, admitted, kind, size, _⟩ := recalled.cache
  rw [asked.bucket, asked.key] at admitted
  exact {
    unversioned := by
      obtain ⟨stamp, objects⟩ := recalled.objects
      intro place found stored
      rw [objects] at stored
      split at stored
      · rename_i same
        rw [same]
      · exact keeping.unversioned place found stored
    accounted := admitted.accounted
    storage := admitted.maxSizeBytes.trans keeping.storage
    mounted := asked.tape ▸ recalled.mounted
    unstaged := by
      intro key
      refine Option.eq_none_iff_forall_ne_some.mpr fun entry found => ?_
      -- What was kept is a restored object.
      rcases admitted.entries _ _ _ found with ⟨other, _⟩ | was
      · rw [kind] at other
        cases other
      · rw [keeping.unstaged] at was
        cases was
    restored := by
      intro key entry found
      rcases admitted.entries _ _ _ found with ⟨_, rfl, same⟩ | was
      · exact mem_weights.mpr ⟨upload, mem, rfl, by rw [same, size]⟩
      · exact keeping.restored key entry was
    tasks := by
      obtain ⟨done, _, tasks⟩ := recalled.recallTasks
      intro id found present
      rw [tasks] at present
      split at present
      · rename_i same
        exact ⟨upload, mem, same.trans asked.named⟩
      · exact keeping.tasks id found present
    untouched := by
      intro other there
      have ne : other ≠ upload := fun same => touched (same ▸ there)
      exact (keeping.untouched other there).leftAlone (alone other (inside other there) ne)
    touched := by
      intro other there done
      by_cases same : other = upload
      -- The recalled upload is the only one that changes sides.
      · exact Or.inr (same ▸ back)
      · exact (alone other there same).touched (keeping.touched other there done) }

omit asked in
/-- A pass goes on to the next task once one is recalled. -/
theorem Passing.next {rest : List RecallTask} {left : Nat}
    (passing : Passing plan remaining left (task :: rest) before)
    (keeping : Keeping plan remaining after) :
    Passing plan remaining left rest after := by
  obtain ⟨done, completed, tasks⟩ := recalled.recallTasks
  obtain ⟨present, pending⟩ := passing.waiting task (List.mem_cons_self ..)
  have distinct := passing.distinct
  rw [List.map_cons, List.nodup_cons] at distinct
  refine ⟨keeping, fun other there => ?_, distinct.2, ?_⟩
  · obtain ⟨stored, waits⟩ := passing.waiting other (List.mem_cons_of_mem _ there)
    -- No task stands twice in a pass, so the others still wait.
    have ne : other.id ≠ task.id := fun same =>
      distinct.1 (same ▸ List.mem_map_of_mem there)
    exact ⟨(tasks _).trans ((if_neg ne).trans stored), waits⟩
  -- One task less waits, and the pass has one task less to come to.
  · have closed : isPendingRecallTask done = false := by
      rw [isPendingRecallTask, completed]
      rfl
    have fewer := HashMap.values_filter_replaced present tasks pending closed
    have count := passing.count
    rw [List.length_cons] at count
    simp only [waitingTasks] at count ⊢
    omega

end

section

variable {plan : RecallPlan svc} {remaining : List Upload} {before : World}

omit [Sha256] in
/-- What fits into the cache can be counted. -/
theorem RecallPlan.length_le {upload : Upload} (mem : upload ∈ plan.uploads) :
    upload.body.length ≤ usizeMax := by
  have part : upload.body.length ≤ totalSize plan.uploads :=
    List.single_le_sum (fun _ _ => Nat.zero_le _) _ (List.mem_map_of_mem mem)
  have whole := plan.room.all
  simp only [CacheService.capacity, u64Max] at whole
  rw [usizeMax]
  omega

/-- The restore of an upload on the tape is asked for. -/
theorem restore_achieves {upload : Upload} {rest : List Upload} (mem : upload ∈ plan.uploads)
    (inside : ∀ other ∈ rest, other ∈ plan.uploads) (once : upload ∉ rest) {days : Nat}
    {tier : RestoreTier} (patient : tier ≠ .expedited)
    (alive : ∀ first second : Nat,
      (plan.env second).seconds < (plan.env first).seconds + max days 1 * 86400)
    (keeping : Keeping plan (upload :: rest) before) :
    (start (.restoreObject upload.bucket upload.key days tier)).Achieves (machine svc plan.env)
      (fun outcome after => outcome.Succeeded ∧ after.schedulers = before.schedulers ∧
        (waitingTasks after).length = (waitingTasks before).length + 1 ∧
        Keeping plan rest after) before := by
  have notAsked := keeping.untouched upload (List.mem_cons_self ..)
  obtain ⟨obj, stored, onTape, fresh⟩ := notAsked.stored
  -- What the archive pass recorded is enough to ask for the upload.
  obtain ⟨number, placed, short, there⟩ := onTape.placed
  have plain := (ObjectKey.mk.inj onTape.identity).2.2
  have restores : Succeeds (machine svc plan.env)
      (restoreObject upload.bucket upload.key days tier) _ before :=
    restoreObject_succeeds plan.calm keeping.unversioned stored plain onTape.cold fresh placed
      notAsked.unasked days patient
  refine (report_achieves restores .restored).mono fun outcome after met => ?_
  obtain ⟨answer, rfl, _, askedFor⟩ := met
  obtain ⟨task, asked, tasks⟩ := askedFor.asked stored onTape short there notAsked.uncached
    (plan.length_le mem) alive
  have pending : isPendingRecallTask task = true := by
    rw [isPendingRecallTask, asked.pending]
    rfl
  refine ⟨rfl, askedFor.only.schedulers, ?_, keeping.askedFor mem inside once askedFor asked⟩
  rw [waitingTasks, tasks]
  exact HashMap.values_filter_insert _ notAsked.unasked pending

variable (inside : ∀ other ∈ remaining, other ∈ plan.uploads) (s : SchedulerState)
  (parsed : parseDriveId s.config.recallDriveId = .ok ⟨.drive, plan.index⟩)

include inside parsed

/-- A task that waits is done. -/
theorem Passing.recallTask_achieves {left : Nat} {task : RecallTask} {rest : List RecallTask}
    (passing : Passing plan remaining left (task :: rest) before)
    (free : task.id ∉ (before.schedulers s.number).activeRecallTasks)
    (unleased : task.tapeId ∉ (before.schedulers s.number).leasedTapes) :
    (recallTask s task).Achieves (machine svc plan.env)
      (fun step after => Told step ∧ after.schedulers = before.schedulers ∧
        Passing plan remaining left rest after)
      before := by
  have keeping := passing.keeping
  obtain ⟨present, pending⟩ := passing.waiting task (List.mem_cons_self ..)
  -- The task belongs to an upload, whose body is on the tape.
  obtain ⟨upload, mem, touched, asked⟩ := keeping.asked present pending
  obtain ⟨obj, expireAt, stored, status, onTape, recallable, alive⟩ := asked.recallable
  have uncached : before.cache.findEntry upload.cacheKey .restored = none := by
    have absent := recallable.uncached
    rw [asked.bucket, asked.key] at absent
    exact absent
  have here : before.metadata.objects.get ⟨task.bucket, task.key, none⟩ = some obj := by
    rw [asked.bucket, asked.key]
    exact stored
  -- The cache holds other uploads only, each at most once.
  have fits : before.cache.index.sizes.sum + upload.body.length ≤ totalSize plan.uploads := by
    refine room_left mem .restored keeping.restored uncached fun other ne key => ?_
    cases other with
    | staging => exact keeping.unstaged key
    | restored => exact absurd rfl ne
  have ready : Ready svc (totalSize plan.uploads) before plan.index plan.bundles task obj upload.body
      expireAt .restorePending :=
    ⟨recallable, keeping.unversioned, asked.tape ▸ keeping.mounted, present, asked.pending, here,
      status, keeping.storage ▸ plan.room, keeping.accounted, fits⟩
  refine (Scheduler.recallTask_achieves plan.calm s parsed ready free unleased).mono
    fun step after met => ?_
  obtain ⟨told, schedulers, recalled⟩ := met
  have back := recalled.back asked onTape alive
  exact ⟨told, schedulers,
    passing.next recalled (keeping.of_recalled recalled asked inside mem touched back)⟩

/-- A pass recalls as many of the uploads that wait as it may. -/
theorem pass_achieves (limit : Nat) (keys : before.metadata.KeysAgree)
    (unoccupied : Unoccupied (before.schedulers s.number))
    (keeping : Keeping plan remaining before) :
    (start (.recallPendingBatch s limit)).Achieves (machine svc plan.env)
      (fun outcome after => outcome.Succeeded ∧ after.schedulers = before.schedulers ∧
        (waitingTasks after).length = (waitingTasks before).length - limit ∧
        Keeping plan remaining after) before := by
  have first : Passing plan remaining
      ((waitingTasks before).length - limit) ((sortRecallTasks
        (before.metadata.listPendingRecallTasks.filter isPendingRecallTask)).take limit) before := by
    rw [listPendingRecallTasks_filter]
    exact keeping.passing keys limit
  -- A pass is about the services: taking and giving back a slot changes none of them.
  have services : ∀ tasks earlier later, SameServices earlier later →
      Passing plan remaining ((waitingTasks before).length - limit) tasks earlier →
      Passing plan remaining ((waitingTasks before).length - limit) tasks later := by
    intro tasks earlier later same passing
    refine ⟨passing.keeping.of_services same, same.metadata ▸ passing.waiting, passing.distinct, ?_⟩
    rw [waitingTasks, same.metadata]
    exact passing.count
  have pass := recallPendingBatch_achieves plan.calm s services
    (fun task rest earlier passing free unleased =>
      passing.recallTask_achieves inside s parsed free unleased) limit first
    unoccupied
  show (Outcome.recalled <$> recallPendingBatch s limit).Achieves _ _ _
  rw [map_eq_pure_bind]
  refine achieves_bind pass fun batch after met => ?_
  obtain ⟨schedulers, ⟨result, answer⟩, fine, passing⟩ := met
  refine ⟨⟨by rw [answer]; rfl, fun step there => ?_⟩, schedulers, passing.count, passing.keeping⟩
  obtain ⟨bytesRead, done⟩ := fine step there
  rw [done]
  rfl

end

/-! Restores and passes in any order, until nothing waits any more. -/

/-- The steps to come ask for what remains, and then recall all that waits. -/
structure Due (plan : RecallPlan svc) (steps : List RecallStep) (w : World) : Prop where
  inOrder : InOrder w
  locks : w.schedulers = fun _ => {}
  fair : ∀ step ∈ steps, step.Fair plan.env plan.index
  once : (askedUploads steps).Nodup
  inside : ∀ upload ∈ askedUploads steps, upload ∈ plan.uploads
  enough : waitingAfter (waitingTasks w).length steps = 0
  keeping : Keeping plan (askedUploads steps) w

/-- All uploads can be read. -/
structure AllBack (plan : RecallPlan svc) (w : World) : Prop where
  unversioned : Unversioned w.metadata
  sound : w.cache.Sound
  back : ∀ upload ∈ plan.uploads, Back plan upload w

/-- An upload is read as it was put. -/
def ReadBack (upload : Upload) (outcome : Outcome) : Prop :=
  ∃ obj, outcome = .got (.ok (obj, upload.body)) ∧ obj.objectKey = upload.objectKey ∧
    obj.size = upload.body.length ∧ obj.checksum = sha256Hex upload.body

section

variable {plan : RecallPlan svc} {w : World}

/-- Once nothing waits and nothing remains, everything is back. -/
theorem Due.allBack (due : Due plan [] w) : AllBack plan w where
  unversioned := due.keeping.unversioned
  sound := due.inOrder.sound
  back upload mem := by
    rcases due.keeping.touched upload mem (by simp [askedUploads]) with ⟨task, asked⟩ | back
    · -- A task that waits would be counted.
      have counted : task ∈ waitingTasks w := by
        refine List.mem_filter.mpr ⟨(HashMap.mem_values _ _).mpr ⟨_, asked.present⟩, ?_⟩
        rw [isPendingRecallTask, asked.pending]
        rfl
      have none := List.eq_nil_of_length_eq_zero due.enough
      rw [none] at counted
      cases counted
    · exact back

/-- One upload is read. -/
theorem AllBack.read_achieves {upload : Upload} (mem : upload ∈ plan.uploads)
    (allBack : AllBack plan w) :
    (start (.getObject upload.bucket upload.key)).Achieves (machine svc plan.env)
      (fun outcome after => ReadBack upload outcome ∧ AllBack plan after) w := by
  obtain ⟨obj, stored, identity, cold, restored, size, checksum⟩ := (allBack.back upload mem).stored
  obtain ⟨xattrs, served, described, alive⟩ := (allBack.back upload mem).served
  have reads : Succeeds (machine svc plan.env) (getObject upload.bucket upload.key) _ w :=
    getObject_succeeds plan.calm allBack.unversioned allBack.sound stored identity cold restored served
      described size alive
  refine (report_achieves reads .got).mono fun outcome after met => ?_
  obtain ⟨_, rfl, rfl, metadata, sound, now, view⟩ := met
  refine ⟨⟨obj, rfl, identity, size, checksum⟩, metadata ▸ allBack.unversioned, sound,
    fun other there => ?_⟩
  -- Reading one upload leaves all of them readable.
  have back := allBack.back other there
  refine ⟨metadata ▸ back.stored, metadata ▸ back.closed, ?_⟩
  obtain ⟨kept, served', described', alive'⟩ := back.served
  rw [view]
  split
  · rename_i same
    -- What is read once more was only marked as read.
    rw [same] at served'
    obtain ⟨rfl, body⟩ := Prod.mk.inj (Option.some.inj (served.symm.trans served'))
    exact ⟨xattrs.accessed now, by rw [body], described', alive'⟩
  · exact ⟨kept, served', described', alive'⟩

/-- Any of the uploads are read, one after the other. -/
theorem reads_achieve {reads : List Upload} (inside : ∀ upload ∈ reads, upload ∈ plan.uploads)
    (allBack : AllBack plan w) :
    (serveAll (reads.map fun upload => .getObject upload.bucket upload.key)).Achieves
      (machine svc plan.env)
      (fun outcomes _ => List.Forall₂ ReadBack reads outcomes) w := by
  -- Beside being back, what is still to be read are uploads.
  let holds : List Upload → World → Prop := fun rest w =>
    (∀ upload ∈ rest, upload ∈ plan.uploads) ∧ AllBack plan w
  have serves : ∀ upload rest before, holds (upload :: rest) before →
      (start (.getObject upload.bucket upload.key)).Achieves (machine svc plan.env)
        (fun outcome after => ReadBack upload outcome ∧ holds rest after) before := by
    intro upload rest before held
    refine (held.2.read_achieves (held.1 upload (List.mem_cons_self ..))).mono
      fun outcome after met => ?_
    exact ⟨met.1, fun other there => held.1 other (List.mem_cons_of_mem _ there), met.2⟩
  have first : holds reads w := ⟨inside, allBack⟩
  exact (serveAll_map_achieves serves reads first).mono fun _ _ met => met.1

/-- One more step is taken. -/
theorem Due.step_achieves {step : RecallStep} {rest : List RecallStep}
    (due : Due plan (step :: rest) w) :
    (start step.request).Achieves (machine svc plan.env)
      (fun outcome after => outcome.Succeeded ∧
        Due plan rest after) w := by
  have fair := due.fair step (List.mem_cons_self ..)
  have later : ∀ other ∈ rest, other.Fair plan.env plan.index := fun other there =>
    due.fair other (List.mem_cons_of_mem _ there)
  -- Every request leaves the catalogue and the cache in order.
  have upholds : (contract svc plan.env).Upholds (start step.request) Ended w :=
    start_upholds step.request w
  cases step with
  | restore upload days tier =>
    -- The upload is taken off what remains, and one more task waits.
    have asked : askedUploads (.restore upload days tier :: rest) = upload :: askedUploads rest := rfl
    have keeping := due.keeping
    rw [asked] at keeping
    obtain ⟨only, once⟩ := List.nodup_cons.mp (asked ▸ due.once)
    have others : ∀ other ∈ askedUploads rest, other ∈ plan.uploads := fun other there =>
      due.inside other (List.mem_cons_of_mem _ there)
    refine (upholds.achieves due.inOrder (restore_achieves
      (due.inside upload (List.mem_cons_self ..)) others only fair.1 fair.2 keeping)).mono
      fun outcome after met => ?_
    obtain ⟨⟨succeeded, schedulers, count, keeping⟩, inOrder⟩ := met
    exact ⟨succeeded, inOrder, schedulers.trans due.locks, later, once, others, count ▸ due.enough,
      keeping⟩
  | pass s limit =>
    -- Between two requests no worker holds a slot, a task or a tape.
    have unoccupied : Unoccupied (w.schedulers s.number) := by
      rw [due.locks]
      exact ⟨Nat.one_pos, rfl, rfl⟩
    refine (upholds.achieves due.inOrder (pass_achieves due.inside s fair limit
      due.inOrder.keys unoccupied due.keeping)).mono fun outcome after met => ?_
    obtain ⟨⟨succeeded, schedulers, count, keeping⟩, inOrder⟩ := met
    exact ⟨succeeded, inOrder, schedulers.trans due.locks, later, due.once, due.inside,
      count ▸ due.enough, keeping⟩

/-- All steps together bring everything back. -/
theorem steps_achieve {steps : List RecallStep} (due : Due plan steps w) :
    (serveAll (steps.map RecallStep.request)).Achieves (machine svc plan.env)
      (fun outcomes after => List.Forall₂ (fun _ outcome => outcome.Succeeded) steps outcomes ∧
        AllBack plan after) w :=
  (serveAll_map_achieves (fun _ _ _ due => due.step_achieves) steps due).mono
    fun _ _ met => ⟨met.1, met.2.allBack⟩

end

end ColdStore.Scheduler
