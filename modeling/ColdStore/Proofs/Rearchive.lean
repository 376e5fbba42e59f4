import ColdStore.Scheduler.LoadedDrive

/-!
Which staged objects an archive batch turns cold.

The task and the bundle of an object are named after its bucket and key alone, and a task that was
once claimed is never free again. So it is decided by the task that earlier generations of the
object have left.
-/

namespace ColdStore.Scheduler

open Rust Process Program CacheState

/-- A listed object waits to be archived. -/
def Waits (s : MetadataState) (line : StagingKeyEntry) : Prop :=
  ∃ obj, s.objects.get ⟨line.bucket, line.key, none⟩ = some obj ∧
    obj.storageClass = StorageClass.coldPending.number

/-- An object is archived, in a bundle that carries its checksum. -/
def ColdWith (s : MetadataState) (bucket key checksum : String) : Prop :=
  ∃ obj id bundle, s.objects.get ⟨bucket, key, none⟩ = some obj ∧
    obj.storageClass = StorageClass.cold.number ∧ obj.checksum = checksum ∧
    obj.archiveId = some id ∧ s.archiveBundles.get id = some bundle ∧
    bundle.checksum = some checksum

variable [Sha256] {wrote : WriteEffect}
  {line : StagingKeyEntry} {before after : World} {s : SchedulerState}

omit [Sha256] in
/-- Objects that share a bundle are the same item to a scheduler. -/
theorem itemKey_of_bundleId {bucket key bucket' key' : String}
    (same : phase1BundleId bucket key none = phase1BundleId bucket' key' none) :
    phase1ArchiveItemKey bucket key none = phase1ArchiveItemKey bucket' key' none := by
  simp only [phase1BundleId, phase1ArchiveItemKey, phase1Name, Option.filter_none,
    String.append_assoc, String.append_right_inj, String.empty_append] at same ⊢
  exact same

theorem Treated.sound (treated : Treated wrote line before after) (sound : before.cache.Sound) :
    after.cache.Sound := by
  cases treated with
  | cleaned _ _ _ cleaned => exact cleaned.cache ▸ deleteEntry_sound sound _ _
  | skipped _ same => exact same.cache ▸ sound
  | archived _ _ _ _ _ _ archived => exact archived.cache ▸ deleteEntry_sound sound _ _

/-- Working on an object that waits claims its task, and no other task is claimed. -/
theorem Treated.started_iff (treated : Treated wrote line before after) (id : String) :
    after.metadata.ArchiveStarted id ↔ before.metadata.ArchiveStarted id ∨
      Waits before.metadata line ∧ bundleOf line = id := by
  cases treated with
  | cleaned obj stored other cleaned =>
    rw [cleaned.metadata]
    refine ⟨Or.inl, ?_⟩
    rintro (started | ⟨⟨waiting, found, waits⟩, _⟩)
    · exact started
    · rw [stored, Option.some.injEq] at found
      exact absurd (found ▸ waits) other
  | skipped started same =>
    rw [same.metadata]
    refine ⟨Or.inl, ?_⟩
    rintro (started | ⟨_, rfl⟩)
    · exact started
    · exact started
  | archived obj data write awaits _ _ archived =>
    have waits : Waits before.metadata line := ⟨obj, awaits.stored, awaits.waits⟩
    -- Archiving starts the task under the name of the object, and no other.
    by_cases same : bundleOf line = id
    · obtain ⟨done, present, completed⟩ := archived.task
      rw [same] at present
      exact ⟨fun _ => Or.inr ⟨waits, same⟩, fun _ => ⟨done, present, by rw [completed]; decide⟩⟩
    · simp only [MetadataState.ArchiveStarted, archived.tasks id (Ne.symm same), same, and_false,
        or_false]

variable {lines : List StagingKeyEntry}

/-- What time passing and work on each listed object keep, a whole pass keeps. -/
theorem Pass.keeps (keeps : World → Prop)
    (idle : ∀ before after, Idle before after → keeps before → keeps after)
    (treated : ∀ line ∈ lines, ∀ before after, Treated wrote line before after →
      keeps before → keeps after) (pass : Pass wrote s lines before after) :
    keeps before → keeps after := by
  induction pass with
  | nil w => exact fun kept => kept
  | busy active still pass ih =>
    exact fun kept => ih (fun line mem => treated line (List.mem_cons_of_mem _ mem))
      (idle _ _ still kept)
  | treated done locks pass ih =>
    exact fun kept => ih (fun line mem => treated line (List.mem_cons_of_mem _ mem))
      (treated _ (List.mem_cons_self ..) _ _ done kept)

theorem Pass.locks (pass : Pass wrote s lines before after) :
    after.schedulers = before.schedulers := by
  induction pass with
  | nil w => rfl
  | busy active idle pass ih => exact ih.trans idle.schedulers
  | treated done locks pass ih => exact ih.trans locks

variable {first : List StagingKeyEntry}

theorem Pass.split {second : List StagingKeyEntry} :
    ∀ {before : World}, Pass wrote s (first ++ second) before after →
      ∃ middle, Pass wrote s first before middle ∧ Pass wrote s second middle after := by
  induction first with
  | nil => exact fun pass => ⟨_, .nil _, pass⟩
  | cons line rest ih =>
    intro before pass
    cases pass with
    | busy active idle pass =>
      obtain ⟨middle, left, right⟩ := ih pass
      exact ⟨middle, .busy active idle left, right⟩
    | treated done locks pass =>
      obtain ⟨middle, left, right⟩ := ih pass
      exact ⟨middle, .treated done locks left, right⟩

variable {bucket key : String}

variable {obj : ObjectMetadata} {data : Bytes}

/-- Work on others leaves what is staged of an object. -/
theorem Pass.view (pass : Pass wrote s lines before after)
    (others : (bucket, key) ∉ lines.map place)
    (sound : before.cache.Sound) : after.cache.view .staging ⟨bucket, key, none⟩ =
      before.cache.view .staging ⟨bucket, key, none⟩ := by
  refine (Pass.keeps (fun w => w.cache.Sound ∧ w.cache.view .staging
    ⟨bucket, key, none⟩ = before.cache.view .staging ⟨bucket, key, none⟩)
    (fun _ _ idle kept => idle.cache ▸ kept) (fun line mem _ _ treated kept => ?_) pass
    ⟨sound, rfl⟩).2
  refine ⟨treated.sound kept.1, (treated.view kept.1 fun same => others ?_).trans kept.2⟩
  simp only [CacheKey.mk.injEq] at same
  exact same.1 ▸ same.2.1 ▸ List.mem_map_of_mem mem

theorem Pass.objects_get (pass : Pass wrote s lines before after)
    (others : (bucket, key) ∉ lines.map place) :
    after.metadata.objects.get ⟨bucket, key, none⟩ =
      before.metadata.objects.get ⟨bucket, key, none⟩ := by
  refine Pass.keeps (fun w => w.metadata.objects.get ⟨bucket, key, none⟩ =
    before.metadata.objects.get ⟨bucket, key, none⟩) (fun _ _ idle kept => idle.metadata ▸ kept)
    (fun line mem _ _ treated kept => ?_) pass rfl
  refine (treated.objects_get fun same => others ?_).trans kept
  simp only [ObjectKey.mk.injEq] at same
  exact same.1 ▸ same.2.1 ▸ List.mem_map_of_mem mem

/-- An object waits after work on others exactly if it did before. -/
theorem Pass.awaits_iff (pass : Pass wrote s lines before after)
    (others : (bucket, key) ∉ lines.map place)
    (sound : before.cache.Sound) :
    Awaits after bucket key obj data ↔ Awaits before bucket key obj data := by
  have objects := pass.objects_get others
  have view := pass.view others sound
  constructor
  · exact fun awaits => ⟨objects ▸ awaits.stored, awaits.waits, awaits.size, awaits.checksum,
      view ▸ awaits.served⟩
  · exact fun awaits => ⟨objects ▸ awaits.stored, awaits.waits, awaits.size, awaits.checksum,
      view ▸ awaits.served⟩

/-- The bundle of a task that has been claimed is left alone. -/
theorem Treated.bundle (treated : Treated wrote line before after) {id : String}
    (started : before.metadata.ArchiveStarted id) :
    after.metadata.archiveBundles.get id = before.metadata.archiveBundles.get id := by
  cases treated with
  | cleaned _ _ _ cleaned => rw [cleaned.metadata]
  | skipped _ same => rw [same.metadata]
  | archived _ _ _ _ unclaimed _ archived =>
    obtain ⟨bundle, _, bundles⟩ := archived.bundles
    rw [bundles, HashMap.get_insert_ne]
    rintro rfl
    exact unclaimed started

/-- So it is by a whole pass. -/
theorem Pass.bundle (pass : Pass wrote s lines before after) {id : String}
    (started : before.metadata.ArchiveStarted id) :
    after.metadata.archiveBundles.get id = before.metadata.archiveBundles.get id := by
  refine (Pass.keeps (fun w => w.metadata.ArchiveStarted id ∧
    w.metadata.archiveBundles.get id = before.metadata.archiveBundles.get id)
    (fun _ _ idle kept => idle.metadata ▸ kept) (fun line mem _ _ treated kept => ?_) pass
    ⟨started, rfl⟩).2
  exact ⟨(treated.started_iff id).mpr (Or.inl kept.1), (treated.bundle kept.1).trans kept.2⟩

/-- Whether a line waits is not changed by work on another one. -/
theorem Treated.waits_iff (treated : Treated wrote line before after) {other : StagingKeyEntry}
    (ne : place other ≠ place line) : Waits after.metadata other ↔ Waits before.metadata other := by
  rw [Waits, Waits, treated.objects_get (by simpa using ne)]

/-- A pass claims the tasks of the objects that wait. -/
theorem Pass.started_iff (pass : Pass wrote s lines before after)
    (distinct : (lines.map place).Nodup)
    (free : phase1ArchiveItemKey bucket key none ∉ (before.schedulers s.number).activeArchiveKeys) :
    after.metadata.ArchiveStarted (phase1BundleId bucket key none) ↔
      before.metadata.ArchiveStarted (phase1BundleId bucket key none) ∨ ∃ line ∈ lines,
        Waits before.metadata line ∧ bundleOf line = phase1BundleId bucket key none := by
  induction pass with
  | nil w => simp
  | busy active idle pass ih =>
    rw [List.map_cons, List.nodup_cons] at distinct
    rw [ih distinct.2 (idle.schedulers ▸ free), idle.metadata]
    -- Another worker is at the first object, so it does not share its bundle.
    simp only [List.exists_mem_cons_iff]
    refine or_congr_right ⟨Or.inr, fun found => found.resolve_left fun shared => ?_⟩
    exact free (itemKey_of_bundleId shared.2 ▸ active)
  | treated done locks pass ih =>
    rw [List.map_cons, List.nodup_cons] at distinct
    rw [ih distinct.2 (locks ▸ free), done.started_iff, List.exists_mem_cons_iff, or_assoc]
    refine or_congr_right (or_congr_right (exists_congr fun line => ?_))
    refine and_congr_right fun mem => and_congr_left fun _ => done.waits_iff fun same => ?_
    exact distinct.1 (same ▸ List.mem_map_of_mem mem)

/-- An object that has just been archived is cold. -/
theorem Archived.coldWith {write : TapeArchiveWrite} {id : String}
    (archived : Archived bucket key id obj data write before after)
    (awaits : Awaits before bucket key obj data) :
    ∃ cold bundle, after.metadata.objects.get ⟨bucket, key, none⟩ = some cold ∧
      cold.storageClass = StorageClass.cold.number ∧ cold.checksum = obj.checksum ∧
      cold.archiveId = some id ∧ after.metadata.archiveBundles.get id = some bundle ∧
      bundle.checksum = some obj.checksum := by
  obtain ⟨now, objects⟩ := archived.objects
  obtain ⟨bundle, checksum, bundles⟩ := archived.bundles
  refine ⟨archivedObject id write now obj, bundle, ?_, rfl, rfl, rfl, ?_, ?_⟩
  · rw [objects, HashMap.get_update_of_some _ _ awaits.stored]
  · rw [bundles, HashMap.get_insert_self]
  · rw [checksum, awaits.checksum]

/-- What a pass over listed objects makes of one that waits. -/
theorem Pass.cold_iff {rest : List StagingKeyEntry}
    (pass : Pass wrote s (first ++ line :: rest) before after)
    (distinct : ((first ++ line :: rest).map place).Nodup)
    (free : ¬ Taken s before line) (sound : before.cache.Sound)
    (awaits : Awaits before line.bucket line.key obj data) :
    ColdWith after.metadata line.bucket line.key obj.checksum ↔
      ¬ before.metadata.ArchiveStarted (bundleOf line) ∧
        ∀ earlier ∈ first, Waits before.metadata earlier →
          bundleOf earlier ≠
            bundleOf line := by
  rw [List.map_append, List.map_cons, List.nodup_append, List.nodup_cons] at distinct
  obtain ⟨distinctFirst, ⟨notAfter, _⟩, apart⟩ := distinct
  have notBefore : place line ∉ first.map place :=
    fun mem => apart _ mem _ (List.mem_cons_self ..) rfl
  obtain ⟨middle, left, right⟩ := pass.split
  -- The first objects decide whether the task of the object is still free.
  have claimed := left.started_iff distinctFirst free
  have waiting := (left.awaits_iff notBefore sound).mpr awaits
  have decided : (¬ before.metadata.ArchiveStarted (bundleOf line) ∧
      ∀ earlier ∈ first, Waits before.metadata earlier → bundleOf earlier ≠ bundleOf line) ↔
      ¬ middle.metadata.ArchiveStarted (bundleOf line) := by
    rw [claimed, not_or]
    simp only [not_exists, not_and, ne_eq]
  rw [decided]
  cases right with
  | busy active idle pass => exact absurd active (by rw [Taken, left.locks]; exact free)
  | treated done locks pass =>
    cases done with
    | cleaned other stored cold cleaned =>
      rw [waiting.stored, Option.some.injEq] at stored
      exact absurd (stored ▸ waiting.waits) cold
    | skipped started same =>
      -- The record stays as it is.
      refine ⟨?_, fun unclaimed => absurd started unclaimed⟩
      rintro ⟨cold, id, bundle, stored, storageClass, _⟩
      rw [pass.objects_get notAfter, same.metadata, waiting.stored, Option.some.injEq] at stored
      rw [← stored, waiting.waits] at storageClass
      exact absurd storageClass (by decide)
    | archived obj' data' write awaits' unclaimed wrote archived =>
      refine ⟨fun _ => unclaimed, fun _ => ?_⟩
      have same : obj' = obj := by
        have := awaits'.stored.symm.trans waiting.stored
        rwa [Option.some.injEq] at this
      subst same
      obtain ⟨cold, bundle, stored, storageClass, checksum, id, kept, carries⟩ :=
        archived.coldWith awaits'
      obtain ⟨done, present, completed⟩ := archived.task
      have started := pass.bundle ⟨done, present, by rw [completed]; decide⟩
      exact ⟨cold, _, bundle, (pass.objects_get notAfter).trans stored, storageClass, checksum, id,
        started.trans kept, carries⟩

variable {svc : CacheService} {env later : Nat → Moment}

/--
An archive batch turns a staged object cold exactly if no one has claimed the task of its bucket and
key before, and no object listed before it has the same bundle.

The system has come from a world in order by any events, and the calls of the batch all succeed.
-/
theorem staged_object_turns_cold_iff (origin : World) (inOrder : InOrder origin)
    (events : List (Event Request)) {w : World}
    (there : (reached svc env origin events).world = w)
    (calm : ∀ tick, (later tick).fault = none) (s : SchedulerState) (client : TapeArchiveClient)
    (writer : TapeWriter (machine svc later) client) (ready : writer.ready w.tape)
    (limit : Nat) {first rest : List StagingKeyEntry} {line : StagingKeyEntry}
    (listed : (w.cache.listStagingKeys limit none).entries = first ++ line :: rest)
    (workable : ∀ other ∈ first ++ rest, Workable w other) {obj : ObjectMetadata} {data : Bytes}
    (awaits : Awaits w line.bucket line.key obj data)
    (free : phase1ArchiveItemKey line.bucket line.key none ∉
      (w.schedulers s.number).activeArchiveKeys) :
    ∃ result after, (attempt (archiveStagingBatch s client limit)).run (machine svc later)
        w = some (.ok result, after) ∧
      (ColdWith after.metadata line.bucket line.key obj.checksum ↔
        ¬ w.metadata.ArchiveStarted (phase1BundleId line.bucket line.key none) ∧
          ∀ earlier ∈ first, Waits w.metadata earlier →
            phase1BundleId earlier.bucket earlier.key none ≠
              phase1BundleId line.bucket line.key none) := by
  have order : InOrder w := there ▸ (reached_kept svc env inOrder events).1
  have all : ∀ other ∈ (w.cache.listStagingKeys limit none).entries, Workable w other := by
    rw [listed]
    intro other mem
    rcases List.mem_append.mp mem with before | here
    · exact workable other (List.mem_append_left _ before)
    · rcases List.mem_cons.mp here with rfl | after
      · exact ⟨obj, awaits.stored, fun _ => ⟨data, awaits⟩⟩
      · exact workable other (List.mem_append_right _ after)
  -- The pass treats the listed lines in order, each place once.
  obtain ⟨plain, distinct⟩ := listed_plain order limit
  obtain ⟨answer, after, ran, result, rfl, begun, idle, _, _, pass⟩ :=
    achieves_iff_run.mp (archiveStagingBatch_succeeds calm order s writer ready all)
  refine ⟨result, after, ran, ?_⟩
  rw [listed] at pass distinct
  have awaiting : Awaits begun line.bucket line.key obj data :=
    awaits.of_services (by rw [idle.metadata]) idle.cache
  have untaken : ¬ Taken s begun line := by
    rw [Taken, idle.schedulers]
    exact free
  have decided := pass.cold_iff distinct untaken (idle.cache ▸ order.sound) awaiting
  rw [idle.metadata] at decided
  exact decided

/-- What it takes to wait for being archived, in a form that can be evaluated. -/
abbrev Awaited (w : World) (bucket key : String) (data : Bytes) : Prop :=
  (∃ obj ∈ w.metadata.objects.get ⟨bucket, key, none⟩,
    obj.storageClass = StorageClass.coldPending.number ∧ obj.size = data.length ∧
      obj.checksum = sha256Hex data) ∧
    (w.cache.view .staging ⟨bucket, key, none⟩).map Prod.snd = some data

theorem Awaited.awaits {w : World} (awaited : Awaited w bucket key data) :
    ∃ obj, Awaits w bucket key obj data ∧ obj.checksum = sha256Hex data := by
  obtain ⟨⟨obj, stored, waits, size, checksum⟩, staged⟩ := awaited
  obtain ⟨⟨xattrs, served⟩, found, rfl⟩ := Option.map_eq_some_iff.mp staged
  exact ⟨obj, ⟨stored, waits, size, checksum, xattrs, found⟩, checksum⟩

omit [Sha256]

/-- One upload. -/
def firstUpload : List (Event Request) := [.spawn (.putObject "docs" "a" [97] none)] ++ steps 3 0

/-- The upload is archived, and then another one takes its place. -/
def replacedUpload : List (Event Request) :=
  firstUpload ++ [.spawn (.archiveStagingBatch oneTapeScheduler oneTapeClient 0)] ++ steps 20 1 ++
    [.spawn (.putObject "docs" "a" [98, 98] none)] ++ steps 3 2

theorem oneDrive_holdsFree : oneDrive.HoldsFree 0 { barcode := "TAPE-1" } 0 :=
  ⟨⟨by decide, ⟨_, rfl, rfl⟩, rfl⟩, rfl⟩

/-- The first upload of an object is archived. -/
theorem staged_object_turns_cold_once :
    ∃ result after, (@attempt _ _ (@archiveStagingBatch shortDigests oneTapeScheduler oneTapeClient
        0)).run quietMachine (oneTapeAfter (still 0) firstUpload).world = some (.ok result, after) ∧
      ColdWith after.metadata "docs" "a" (@sha256Hex shortDigests [97]) := by
  let := shortDigests
  have run : let w := (oneTapeAfter (still 0) firstUpload).world
      (w.cache.listStagingKeys 0 none).entries = [⟨"docs", "a", none, 1, some ⟨0, 0⟩⟩] ∧
      Awaited w "docs" "a" [97] ∧ w.tape = oneDrive ∧ (w.schedulers 0).activeArchiveKeys = [] ∧
      w.metadata.archiveTasks.get "phase1-bundle:docs/a" = none := by
    decide +kernel
  -- The rest follows from the state of the services alone.
  obtain ⟨listed, awaited, tape, idle, unclaimed⟩ := run
  obtain ⟨obj, waiting, checksum⟩ := awaited.awaits
  rw [← checksum]
  have drive : parseDriveId oneTapeClient.driveId = .ok ⟨.drive, 0⟩ := by decide
  have there : (reached (.even (2 ^ 30)) (still 0) oneTapeWorld firstUpload).world =
      (oneTapeAfter (still 0) firstUpload).world := by rw [oneTapeAfter]
  have calm : ∀ tick, (still 0 tick).fault = none := fun _ => rfl
  rw [← List.nil_append [_]] at listed
  obtain ⟨result, after, ran, decided⟩ := staged_object_turns_cold_iff oneTapeWorld
    (fresh_inOrder _ _ _) firstUpload there calm oneTapeScheduler oneTapeClient
    (loadedWriter calm oneTapeClient 0 drive) ⟨_, _, tape ▸ oneDrive_holdsFree, rfl⟩ 0 listed
    (by simp) waiting (by simp [oneTapeScheduler, idle])
  refine ⟨result, after, ran, decided.mpr ⟨?_, by simp⟩⟩
  rintro ⟨task, present, _⟩
  exact absurd (present.symm.trans unclaimed) (by simp)

/-- An object that takes the place of an archived one waits forever, though everything succeeds. -/
theorem overwritten_object_stays_pending :
    letI := shortDigests
    let w := (oneTapeAfter (still 0) replacedUpload).world
    (∃ obj, Awaits w "docs" "a" obj [98, 98]) ∧
    (w.schedulers oneTapeScheduler.number).activeArchiveKeys = [] ∧
    (w.cache.listStagingKeys 0 none).entries.map StagingKeyEntry.cacheKey = [⟨"docs", "a", none⟩] ∧
    ∃ result after, (attempt (archiveStagingBatch oneTapeScheduler oneTapeClient 0)).run
        quietMachine w = some (.ok result, after) ∧
      ∀ checksum, ¬ ColdWith after.metadata "docs" "a" checksum := by
  let := shortDigests
  have run : let w := (oneTapeAfter (still 0) replacedUpload).world
      Awaited w "docs" "a" [98, 98] ∧
      (w.schedulers oneTapeScheduler.number).activeArchiveKeys = [] ∧
      (w.cache.listStagingKeys 0 none).entries.map StagingKeyEntry.cacheKey =
        [⟨"docs", "a", none⟩] ∧
      ∃ ended ∈ (attempt (archiveStagingBatch oneTapeScheduler oneTapeClient 0)).run
          quietMachine w, ended.1.toOption.isSome = true ∧
        (ended.2.metadata.objects.get ⟨"docs", "a", none⟩).map ObjectMetadata.storageClass =
          some StorageClass.coldPending.number := by
    decide +kernel
  obtain ⟨awaited, idle, listed, ⟨answer, after⟩, ran, succeeded, pending⟩ := run
  obtain ⟨obj, waiting, _⟩ := awaited.awaits
  refine ⟨⟨obj, waiting⟩, idle, listed, ?_⟩
  -- A pending object is not cold, whatever checksum is asked for.
  cases answer with
  | error status => cases succeeded
  | ok result =>
    refine ⟨result, after, ran, ?_⟩
    rintro checksum ⟨cold, id, bundle, stored, storageClass, _⟩
    rw [stored, Option.map_some, storageClass] at pending
    exact absurd pending (by decide)

end ColdStore.Scheduler
