import ColdStore.Scheduler.ArchivePass

/-! A whole batch of an archive worker whose calls all arrive, object by object. -/

namespace ColdStore.Scheduler

open Rust Process Program CacheState

/-- What is said of a write: the tapes before it, the data, the answer and the tapes after it. -/
abbrev WriteEffect := SimulatorState → Bytes → TapeArchiveWrite → SimulatorState → Prop

/-- What writing bundles does to tapes, as long as the calls for it succeed. -/
structure TapeWriter (machine : Machine Call Reply World) (client : TapeArchiveClient) where
  /-- The tapes can be written. -/
  ready : SimulatorState → Prop
  wrote : WriteEffect
  writes : ∀ tape bundleId data, ready tape → Writable machine client bundleId data
    (fun write after => wrote tape data write after ∧ ready after) tape

/-- An object has been taken out of staging, and the services are otherwise as before. -/
structure Cleaned (bucket key : String) (before after : World) : Prop where
  metadata : after.metadata = before.metadata
  cache : after.cache = (before.cache.deleteEntry ⟨bucket, key, none⟩ .staging).2
  tape : after.tape = before.tape

variable [Sha256]

/-- What becomes of a listed object that is worked on, if all calls for it arrive. -/
inductive Treated (wrote : WriteEffect) (entry : StagingKeyEntry) (before after : World) :
    Prop
  /-- It does not wait to be archived. -/
  | cleaned (obj : ObjectMetadata)
      (stored : before.metadata.objects.get ⟨entry.bucket, entry.key, none⟩ = some obj)
      (other : obj.storageClass ≠ StorageClass.coldPending.number)
      (cleaned : Cleaned entry.bucket entry.key before after)
  /-- Its task has been claimed before. -/
  | skipped (started : before.metadata.ArchiveStarted (bundleOf entry))
      (same : SameServices before after)
  /-- It is archived. -/
  | archived (obj : ObjectMetadata) (data : Bytes) (write : TapeArchiveWrite)
      (awaits : Awaits before entry.bucket entry.key obj data)
      (unclaimed : ¬ before.metadata.ArchiveStarted (bundleOf entry))
      (wrote : wrote before.tape data write after.tape)
      (archived : Archived entry.bucket entry.key (bundleOf entry) obj data write before after)

/-- Another worker of the scheduler is at a listed object. -/
def Taken (s : SchedulerState) (w : World) (line : StagingKeyEntry) : Prop :=
  phase1ArchiveItemKey line.bucket line.key none ∈ (w.schedulers s.number).activeArchiveKeys

/-- What becomes of listed objects, one after the other. -/
inductive Pass (wrote : WriteEffect) (s : SchedulerState) :
    List StagingKeyEntry → World → World → Prop
  | nil (w : World) : Pass wrote s [] w w
  /-- Another worker of the scheduler is at the first object. -/
  | busy {entry : StagingKeyEntry} {rest : List StagingKeyEntry} {before middle after : World}
      (active : Taken s before entry) (idle : Idle before middle) (pass : Pass wrote s rest middle after) :
      Pass wrote s (entry :: rest) before after
  | treated {entry : StagingKeyEntry} {rest : List StagingKeyEntry} {before middle after : World}
      (treated : Treated wrote entry before middle)
      (locks : middle.schedulers = before.schedulers)
      (pass : Pass wrote s rest middle after) : Pass wrote s (entry :: rest) before after

/-- The catalogue knows a listed object, and if it waits, then what is staged is what is recorded. -/
def Workable (w : World) (entry : StagingKeyEntry) : Prop :=
  ∃ obj, w.metadata.objects.get ⟨entry.bucket, entry.key, none⟩ = some obj ∧
    (obj.storageClass = StorageClass.coldPending.number →
      ∃ data, Awaits w entry.bucket entry.key obj data)

/-- A listed object does not end a batch: it is known, and waits with what is recorded or unasked. -/
def Passable (w : World) (entry : StagingKeyEntry) : Prop :=
  ∃ obj, w.metadata.objects.get ⟨entry.bucket, entry.key, none⟩ = some obj ∧
    (obj.storageClass = StorageClass.coldPending.number →
      w.metadata.ArchiveStarted (bundleOf entry) ∨ ∃ data, Awaits w entry.bucket entry.key obj data)

theorem Workable.passable {w : World} {entry : StagingKeyEntry}
    (workable : Workable w entry) : Passable w entry := by
  obtain ⟨obj, stored, matching⟩ := workable
  exact ⟨obj, stored, fun waits => .inr (matching waits)⟩

section

variable {wrote : WriteEffect} {entry other : StagingKeyEntry} {before after : World}

/-- Only the services matter to what becomes of an object. -/
theorem Treated.of_services {before' after' : World} (treated : Treated wrote entry before after)
    (first : SameServices before before') (second : SameServices after after') :
    Treated wrote entry before' after' := by
  obtain ⟨metadata, cache, tape⟩ := first
  obtain ⟨metadata', cache', tape'⟩ := second
  cases treated with
  | cleaned obj stored waits cleaned =>
    exact .cleaned obj (metadata ▸ stored) waits ⟨by rw [metadata', metadata, cleaned.metadata],
      by rw [cache', cache, cleaned.cache], by rw [tape', tape, cleaned.tape]⟩
  | skipped started same =>
    exact .skipped (metadata ▸ started) ⟨by rw [metadata', metadata, same.metadata],
      by rw [cache', cache, same.cache], by rw [tape', tape, same.tape]⟩
  | archived obj data write awaits unclaimed wrote archived =>
    exact .archived obj data write (awaits.of_services (by rw [metadata]) cache)
      (metadata ▸ unclaimed) (tape ▸ tape' ▸ wrote)
      (archived.of_services ⟨metadata, cache⟩ ⟨metadata', cache'⟩)

theorem Workable.of_services (workable : Workable before entry)
    (metadata : after.metadata = before.metadata) (cache : after.cache = before.cache) :
    Workable after entry := by
  obtain ⟨obj, stored, matching⟩ := workable
  refine ⟨obj, metadata ▸ stored, fun waits => ?_⟩
  obtain ⟨data, awaits⟩ := matching waits
  exact ⟨data, awaits.of_services (by rw [metadata]) cache⟩

theorem Passable.of_services (passable : Passable before entry)
    (metadata : after.metadata = before.metadata) (cache : after.cache = before.cache) :
    Passable after entry := by
  obtain ⟨obj, stored, matching⟩ := passable
  refine ⟨obj, metadata ▸ stored, fun waits => ?_⟩
  refine (matching waits).imp (metadata ▸ ·) ?_
  exact Exists.imp fun data awaits => awaits.of_services (by rw [metadata]) cache

/-- Other objects are left alone. -/
theorem Treated.objects_get (treated : Treated wrote entry before after) {place : ObjectKey}
    (ne : place ≠ ⟨entry.bucket, entry.key, none⟩) :
    after.metadata.objects.get place = before.metadata.objects.get place := by
  cases treated with
  | cleaned _ _ _ cleaned => rw [cleaned.metadata]
  | skipped _ same => rw [same.metadata]
  | archived _ _ _ _ _ _ archived =>
    obtain ⟨now, objects⟩ := archived.objects
    rw [objects, HashMap.get_update_ne _ _ ne]

/-- The cache serves everything else as before. -/
theorem Treated.view (treated : Treated wrote entry before after) (sound : before.cache.Sound)
    {kind : CacheCategory} {place : CacheKey} (ne : place ≠ ⟨entry.bucket, entry.key, none⟩) :
    after.cache.view kind place = before.cache.view kind place := by
  cases treated with
  | cleaned _ _ _ cleaned => rw [cleaned.cache, deleteEntry_view sound, if_neg (by simp [ne])]
  | skipped _ same => rw [same.cache]
  | archived _ _ _ _ _ _ archived =>
    rw [archived.cache, deleteEntry_view sound, if_neg (by simp [ne])]

/-- An object that waits still does after another one has been worked on. -/
theorem Treated.awaits (treated : Treated wrote entry before after) (sound : before.cache.Sound)
    {bucket key : String} {obj : ObjectMetadata} {data : Bytes}
    (ne : (bucket, key) ≠ place entry)
    (awaits : Awaits before bucket key obj data) : Awaits after bucket key obj data where
  stored := by
    rw [treated.objects_get (by simpa using ne)]
    exact awaits.stored
  waits := awaits.waits
  size := awaits.size
  checksum := awaits.checksum
  served := by
    obtain ⟨xattrs, served⟩ := awaits.served
    exact ⟨xattrs, by rw [treated.view sound (by simpa using ne), served]⟩

theorem Treated.workable (treated : Treated wrote entry before after) (sound : before.cache.Sound)
    (ne : place other ≠ place entry)
    (workable : Workable before other) : Workable after other := by
  obtain ⟨obj, stored, matching⟩ := workable
  refine ⟨obj, ?_, fun waits => ?_⟩
  · rw [treated.objects_get (by simpa using ne)]
    exact stored
  · obtain ⟨data, awaits⟩ := matching waits
    exact ⟨data, treated.awaits sound ne awaits⟩

end

section

variable {svc : CacheService} {env : Nat → Moment} (calm : Calm env) {w : World}

include calm

variable {entry : StagingKeyEntry}

/-- A listed object that does not wait is taken out of staging. -/
theorem archiveEntry_cleans (inOrder : InOrder w) (s : SchedulerState)
    (client : TapeArchiveClient) {obj : ObjectMetadata} (plain : entry.versionId = none)
    (stored : w.metadata.objects.get ⟨entry.bucket, entry.key, none⟩ = some obj)
    (other : obj.storageClass ≠ StorageClass.coldPending.number) :
    Succeeds (machine svc env) (archiveEntry s client entry)
      (fun _ after => after.schedulers = w.schedulers ∧
        Cleaned entry.bucket entry.key w after) w := by
  have found := findObject_of_plain inOrder.orderly.plain stored
  rw [archiveEntry, plain]
  refine succeeds_bind (succeeds_adapt (headObject_succeeds calm found)) fun current first met => ?_
  obtain ⟨rfl, idle⟩ := met
  refine succeeds_bind (succeeds_lift (phase1ArchiveTask_achieves _ _ _)) fun task second met => ?_
  have since := idle.trans met.1
  -- The object does not wait to be archived, so its staged copy is all there is to treat.
  rw [if_pos other]
  refine succeeds_bind (succeeds_lift (achieves_bind
    (deleteStaging_succeeds calm (since.cache ▸ inOrder.sound) _ _ _) fun _ after met => ?_))
    fun _ after met => succeeds_pure met
  obtain ⟨_, _, cache, metadata, tape, schedulers⟩ := met
  exact ⟨schedulers.trans since.schedulers, metadata.trans since.metadata, since.cache ▸ cache,
    tape.trans since.tape⟩

/-- A listed object that waits is left alone if its task has been claimed before. -/
theorem archiveEntry_skips (inOrder : InOrder w) (s : SchedulerState)
    (client : TapeArchiveClient) {obj : ObjectMetadata} (plain : entry.versionId = none)
    (stored : w.metadata.objects.get ⟨entry.bucket, entry.key, none⟩ = some obj)
    (waits : obj.storageClass = StorageClass.coldPending.number)
    (started : w.metadata.ArchiveStarted (bundleOf entry)) :
    Succeeds (machine svc env) (archiveEntry s client entry) (fun _ after => Idle w after) w := by
  have found := findObject_of_plain inOrder.orderly.plain stored
  obtain ⟨task, present, claimed⟩ := started
  obtain ⟨status, number, meaning⟩ := inOrder.orderly.known _ _ present
  -- A task that has been started is in a known status other than the first one.
  have moved : status ≠ .archiveTaskPending := fun pending => claimed (pending ▸ number)
  rw [archiveEntry, plain]
  refine succeeds_bind (succeeds_adapt (headObject_succeeds calm found)) fun current first met => ?_
  obtain ⟨rfl, idle⟩ := met
  refine succeeds_bind (succeeds_lift (phase1ArchiveTask_achieves _ _ _)) fun made second met => ?_
  obtain ⟨again, id, _⟩ := met
  have since := idle.trans again
  rw [if_neg (not_not.mpr waits)]
  have there : second.metadata.archiveTasks.get made.id = some task := by
    rw [since.metadata, id]
    exact present
  refine succeeds_bind (succeeds_adapt (claimArchiveTask_claimed calm there number meaning moved))
    fun claim third met => ?_
  obtain ⟨rfl, last⟩ := met
  exact succeeds_pure (since.trans last)

variable {client : TapeArchiveClient}

/-- A listed object can be worked on, if the tapes can be written. -/
theorem archiveEntry_treats (inOrder : InOrder w) (s : SchedulerState)
    (writer : TapeWriter (machine svc env) client) (ready : writer.ready w.tape)
    (plain : entry.versionId = none) (passable : Passable w entry) :
    Succeeds (machine svc env) (archiveEntry s client entry)
      (fun _ after => (after.schedulers = w.schedulers ∧ writer.ready after.tape ∧
        Treated writer.wrote entry w after) ∧ InOrder after) w := by
  have secured : (contract svc env).Secures (archiveEntry s client entry) _ w :=
    archiveEntry_secures s client entry
  refine secured.succeeds inOrder ?_
  obtain ⟨obj, stored, matching⟩ := passable
  -- Three treatments, by whether the object waits and whether its task has been started.
  by_cases waits : obj.storageClass = StorageClass.coldPending.number
  · by_cases started : w.metadata.ArchiveStarted (bundleOf entry)
    · refine (archiveEntry_skips calm inOrder s client plain stored waits started).mono
        fun _ after idle => ?_
      exact ⟨idle.schedulers, idle.tape ▸ ready, .skipped started idle.toSameServices⟩
    · obtain ⟨data, awaits⟩ := (matching waits).resolve_left started
      refine (archiveEntry_archives calm inOrder s plain awaits started
        (writer.writes _ _ data ready)).mono fun _ after met => ?_
      obtain ⟨schedulers, write, ⟨wrote, ready⟩, archived⟩ := met
      exact ⟨schedulers, ready, .archived obj data write awaits started wrote archived⟩
  · refine (archiveEntry_cleans calm inOrder s client plain stored waits).mono fun _ after met => ?_
    exact ⟨met.1, met.2.tape ▸ ready, .cleaned obj stored waits met.2⟩

omit [Sha256] calm in
/-- An object no other worker is at can be taken on, and giving it back leaves the locks as before. -/
theorem acquireArchiveItem_free (s : SchedulerState) {key : String}
    (free : key ∉ (w.schedulers s.number).activeArchiveKeys) :
    (acquireArchiveItem s key).Achieves (machine svc env)
      (fun (acquired : Bool) after => acquired = true ∧ SameServices w after ∧
        ∀ later : World, later.schedulers = after.schedulers →
          (releaseArchiveItem s key).Achieves (machine svc env)
            (fun _ last => SameServices later last ∧ last.schedulers = w.schedulers) later) w := by
  refine achieves_locally rfl fun moment tick => ?_
  have notIn : (w.schedulers s.number).activeArchiveKeys.contains key = false := by
    simpa using free
  simp only [LocalCall.scheduler, LocalCall.serve, notIn, Bool.false_eq_true, if_false, true_and]
  refine ⟨⟨rfl, rfl, rfl⟩, fun later same => achieves_locally rfl fun _ _ => ⟨⟨rfl, rfl, rfl⟩, ?_⟩⟩
  -- Releasing takes away the key that was acquired.
  simp only [same, LocalCall.scheduler, LocalCall.serve, setLocks_get, setLocks_setLocks,
    filter_ne_cons free]
  exact setLocks_self _ _

omit [Sha256] calm in
theorem acquireArchiveItem_busy (s : SchedulerState) {key : String}
    (active : key ∈ (w.schedulers s.number).activeArchiveKeys) :
    (acquireArchiveItem s key).Achieves (machine svc env)
      (fun (acquired : Bool) after => acquired = false ∧ Idle w after) w := by
  refine achieves_locally rfl fun moment tick => ?_
  have isIn : (w.schedulers s.number).activeArchiveKeys.contains key = true := by
    simpa using active
  simp only [LocalCall.scheduler, LocalCall.serve, isIn, if_true]
  exact ⟨trivial, ⟨rfl, rfl, rfl⟩, setLocks_self _ _⟩

/-- A batch goes on to the rest after an object that is taken by another worker or can be passed. -/
theorem archiveEntries_step (inOrder : InOrder w) (s : SchedulerState)
    (writer : TapeWriter (machine svc env) client) (ready : writer.ready w.tape)
    (plain : entry.versionId = none)
    (passes : Taken s w entry ∨ Passable w entry) (rest : List StagingKeyEntry)
    (result : ArchiveBatchResult)
    {post : Except Status ArchiveBatchResult → World → Prop}
    (later : ∀ middle result, InOrder middle → writer.ready middle.tape →
      (Taken s w entry ∧ Idle w middle ∨ ¬ Taken s w entry ∧
        Treated writer.wrote entry w middle ∧ middle.schedulers = w.schedulers) →
      (archiveEntries s client rest result).run.Achieves (machine svc env) post middle) :
    (archiveEntries s client (entry :: rest) result).run.Achieves (machine svc env) post w := by
  rw [archiveEntries, plain]
  by_cases active : Taken s w entry
  · refine achieves_after (succeeds_lift (acquireArchiveItem_busy s active))
      fun acquired middle met => ?_
    obtain ⟨rfl, idle⟩ := met
    rw [if_neg (by simp)]
    exact later middle _ (inOrder.of_services idle.metadata idle.cache) (idle.tape ▸ ready)
      (.inl ⟨active, idle⟩)
  · refine achieves_after (succeeds_lift (acquireArchiveItem_free s active))
      fun acquired locked met => ?_
    obtain ⟨rfl, same, releases⟩ := met
    rw [if_pos rfl]
    refine achieves_after (succeeds_lift (archiveEntry_treats calm
      (inOrder.of_services same.metadata same.cache) s writer (same.tape ▸ ready) plain
      ((passes.resolve_left active).of_services same.metadata same.cache)))
      fun answer middle met => ?_
    obtain ⟨archived, rfl, ⟨locks, ready, treated⟩, order⟩ := met
    refine achieves_after (succeeds_lift (releases middle locks)) fun _ last met => ?_
    obtain ⟨same', locks⟩ := met
    exact later last _ (order.of_services same'.metadata same'.cache) (same'.tape ▸ ready)
      (.inr ⟨active, treated.of_services same.symm same', locks⟩)

/-- All listed objects are worked on, one after the other. -/
theorem archiveEntries_succeeds (s : SchedulerState)
    (writer : TapeWriter (machine svc env) client) (entries : List StagingKeyEntry) :
    ∀ (result : ArchiveBatchResult) {w : World}, InOrder w → writer.ready w.tape →
      (∀ entry ∈ entries, entry.versionId = none) → (entries.map place).Nodup →
      (∀ entry ∈ entries, Workable w entry) →
      Succeeds (machine svc env) (archiveEntries s client entries result)
        (fun _ after => Pass writer.wrote s entries w after ∧ InOrder after ∧
          writer.ready after.tape) w := by
  induction entries with
  | nil => exact fun result w inOrder ready _ _ _ => succeeds_pure ⟨.nil _, inOrder, ready⟩
  | cons entry rest ih =>
    intro result w inOrder ready plain distinct workable
    rw [List.map_cons, List.nodup_cons] at distinct
    have plainRest := fun other mem => plain other (List.mem_cons_of_mem _ mem)
    refine archiveEntries_step calm inOrder s writer ready (plain entry List.mem_cons_self)
      (.inr (workable entry List.mem_cons_self).passable) rest result
      fun middle result order ready step => ?_
    obtain ⟨active, idle⟩ | ⟨_, treated, locks⟩ := step
    · refine (ih result order ready plainRest distinct.2 fun other mem => ?_).mono
        fun _ after met => ⟨.busy active idle met.1, met.2⟩
      exact (workable other (List.mem_cons_of_mem _ mem)).of_services idle.metadata idle.cache
    · refine (ih result order ready plainRest distinct.2 fun other mem => ?_).mono
        fun _ after met => ⟨.treated treated locks met.1, met.2⟩
      -- No other line of the listing is about the same object.
      refine treated.workable inOrder.sound ?_ (workable other (List.mem_cons_of_mem _ mem))
      exact fun same => distinct.1 (same ▸ List.mem_map_of_mem mem)

omit calm in
/-- Objects are staged without a version, so their buckets and keys tell listed lines apart. -/
theorem listed_plain (inOrder : InOrder w) (limit : Nat) :
    (∀ entry ∈ (w.cache.listStagingKeys limit none).entries, entry.versionId = none) ∧
      ((w.cache.listStagingKeys limit none).entries.map place).Nodup := by
  have plain : ∀ entry ∈ (w.cache.listStagingKeys limit none).entries, entry.versionId = none := by
    intro entry mem
    obtain ⟨key, stored, present, rfl⟩ := mem_listStagingKeys mem
    have found : w.cache.findEntry key .staging = some stored := present
    obtain ⟨data, served, _⟩ := inOrder.sound.view_isSome found
    exact (inOrder.described key _ data served).plain
  refine ⟨plain, ?_⟩
  -- Keys without versions are told apart by bucket and key.
  have distinct : ((w.cache.listStagingKeys limit none).entries.map
      StagingKeyEntry.cacheKey).Nodup := listStagingKeys_nodup limit none
  refine List.Nodup.of_map (fun place => (⟨place.1, place.2, none⟩ : CacheKey)) ?_
  rw [List.map_map]
  convert distinct using 1
  refine List.map_congr_left fun entry mem => ?_
  simp [StagingKeyEntry.cacheKey, plain entry mem]

omit [Sha256] in
/-- What is listed is what is staged. -/
theorem listStagingKeys_succeeds (limit : Nat) :
    Succeeds (machine svc env) (listStagingKeys limit)
      (fun entries after => entries = (w.cache.listStagingKeys limit none).entries ∧
        Idle w after) w := by
  have answered : Succeeds (machine svc env) (askCache (.listStagingKeys limit none))
      (fun (response : ListStagingKeysResponse) after =>
        response = w.cache.listStagingKeys limit none ∧ Idle w after) w :=
    succeeds_askCache calm fun _ => ⟨_, _, rfl, fun _ => ⟨rfl, ⟨rfl, rfl, rfl⟩, rfl⟩⟩
  refine succeeds_bind answered fun response after met => succeeds_pure ?_
  exact ⟨congrArg _ met.1, met.2⟩

/-- A batch works on everything it lists. -/
theorem archiveStagingBatch_succeeds (inOrder : InOrder w) (s : SchedulerState)
    (writer : TapeWriter (machine svc env) client) (ready : writer.ready w.tape) {limit : Nat}
    (workable : ∀ entry ∈ (w.cache.listStagingKeys limit none).entries, Workable w entry) :
    Succeeds (machine svc env) (archiveStagingBatch s client limit)
      (fun _ after => ∃ begun, Idle w begun ∧ InOrder after ∧ writer.ready after.tape ∧
        Pass writer.wrote s (w.cache.listStagingKeys limit none).entries begun after)
      w := by
  obtain ⟨plain, distinct⟩ := listed_plain inOrder limit
  -- The listing is taken once, and the pass goes through it.
  refine succeeds_bind (listStagingKeys_succeeds calm limit) fun entries begun met => ?_
  obtain ⟨rfl, idle⟩ := met
  refine (archiveEntries_succeeds calm s writer _ {} (inOrder.of_services idle.metadata idle.cache)
    (idle.tape ▸ ready) plain distinct fun entry mem => ?_).mono fun _ after met => ?_
  · exact (workable entry mem).of_services idle.metadata idle.cache
  · exact ⟨begun, idle, met.2.1, met.2.2, met.1⟩

end

end ColdStore.Scheduler
