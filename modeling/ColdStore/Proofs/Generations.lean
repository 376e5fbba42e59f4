import ColdStore.Proofs.Restores

/-! Requests one after the other, and the restore status of a record that no one has restored yet. -/

namespace ColdStore.Scheduler

open Rust Process Program

/-- Recall tasks are named after their objects, and none of them has the name of one object's. -/
def elsewhere (bucket key : String) (id taskBucket taskKey : String) : Prop :=
  id = phase1RecallTaskId taskBucket taskKey none ∧ id ≠ phase1RecallTaskId bucket key none

/-- A call that leaves recall tasks alone, gives no object a restore status and never waits. -/
def Sparing : Call → Prop
  | .metadata (.apply (.putObject obj)) => obj.restoreStatus = none
  | .metadata (.apply (.completeArchiveObject _)) => True
  | .metadata (.apply (.putArchiveTask _)) | .metadata (.apply (.updateArchiveTask _)) => True
  | .metadata (.apply _) => False
  | .here .now | .here (.acquireArchiveItem _ _) | .here (.releaseArchiveItem _ _) => True
  | .here _ => False
  | _ => True

section

variable {svc : CacheService} {env : Nat → Moment} {w : World}

theorem ArchiveCall.sparing {tapeId : String} (call : Call) (admitted : ArchiveCall tapeId call) :
    Sparing call := by
  cases call with
  | cache | tape => trivial
  | here call => cases call <;> exact admitted
  | metadata call =>
    cases call with
    | apply cmd => cases cmd <;> trivial
    | _ => trivial

theorem sparing_enabled (call : Call) (w : World) (sparing : Sparing call) :
    (machine svc env).enabled call w = true := by
  cases call with
  | here call =>
    cases call with
    | acquireRecallTaskSlot | acquireTapeLease => exact sparing.elim
    | _ => rfl
  | _ => rfl

/-- What a sparing call keeps: there is no such recall task, and the record has no restore status. -/
theorem sparing_keeps {id : String} {place : ObjectKey} (call : Call) (w : World)
    (sparing : Sparing call)
    (held : w.metadata.recallTasks.get id = none ∧ restoreStatusAt w.metadata place = some none) :
    ((machine svc env).serve call w).2.metadata.recallTasks.get id = none ∧
      restoreStatusAt ((machine svc env).serve call w).2.metadata place =
        some none := by
  obtain ⟨untasked, status⟩ := held
  -- Uploads and archive workers send two commands that write objects, and none about recalls.
  rcases serve_metadata svc (env w.tick) call w with same | ⟨cmd, rfl, after⟩
  · rw [machine, same]
    exact ⟨untasked, status⟩
  · rw [machine, after]
    have framed := applyCommand_framed (env w.tick).seconds w.metadata cmd
    constructor
    · cases cmd with
      | putObject _ | completeArchiveObject _ | putArchiveTask _ | updateArchiveTask _ =>
        rw [framed.recallTasks rfl]
        exact untasked
      | _ => exact sparing.elim
    · rw [restoreStatusAt] at status ⊢
      cases applyCommand_objects (env w.tick).seconds w.metadata cmd with
      | kept _ same => rw [same, status]
      | put obj sent same =>
        subst sent
        rw [same, HashMap.get_insert]
        split
        · exact congrArg some sparing
        · exact status
      | deleted req sent =>
        subst sent
        exact sparing.elim
      | marked other old changed stored _ _ kept _ same =>
        rw [same, HashMap.get_update]
        split
        · rename_i here
          subst here
          rcases kept with unmarked | ⟨req, rfl, _⟩
          · rw [stored] at status ⊢
            exact (congrArg some unmarked).trans status
          · exact sparing.elim
        · exact status

/-- A record has no restore status, and nobody works on a recall task for it. -/
structure Undisturbed (bucket key : String) (past : History) (w : World) : Prop where
  about : CatalogueAbout (elsewhere bucket key) w.metadata
  status : restoreStatusAt w.metadata ⟨bucket, key, none⟩ = some none
  running : ∀ id, SeenRunning past id → w.metadata.RecallClosed id

theorem Undisturbed.step {bucket key : String} {past : History} {call : Call}
    (alone : Undisturbed bucket key past w)
    (allowed : RestoreCall (elsewhere bucket key) call) (moment : Moment) :
    Undisturbed bucket key (past ++ [⟨call, (serve svc moment call w).1⟩])
        (serve svc moment call w).2 ∧
      RestoreAnswer (elsewhere bucket key) past ⟨call, (serve svc moment call w).1⟩ := by
  have status : restoreStatusAt (serve svc moment call w).2.metadata ⟨bucket, key, none⟩ =
      some none := by
    rcases alone.about.status_cases svc moment allowed ⟨bucket, key, none⟩ with
      same | ⟨req, _, rfl, place, _⟩
    · exact same.trans alone.status
    · -- The object that is marked has a task elsewhere.
      obtain ⟨⟨id, named⟩, _⟩ := allowed
      obtain ⟨rfl, rfl, _⟩ := ObjectKey.mk.inj place
      exact absurd named.1 named.2
  exact ⟨⟨alone.about.served svc moment allowed, status,
    seenRunning_step svc moment alone.about.keys alone.running⟩,
    alone.about.answers svc moment allowed alone.running⟩

/-- Work on other recall tasks leaves a record without a restore status, whatever calls fail. -/
theorem undisturbed_run {α : Type} {program : Sched α} {post : α → History → Prop} {bucket key : String}
    (follows : program.Follows (restores (elsewhere bucket key)) post [])
    (alone : Undisturbed bucket key [] w) {value : α} {after : World}
    (ran : program.run (machine svc env) w = some (value, after)) :
    ∃ past, Undisturbed bucket key past after := by
  obtain ⟨past, alone, _⟩ := Follows.run
    (fun _ _ w alone allowed => alone.step allowed (env w.tick)) follows alone ran
  exact ⟨past, alone⟩

section

variable (calm : Calm env)

include calm

/-- A restore that begins anew is accepted, or refused before it has changed anything. -/
theorem beginRestore_idle {bucket key : String} {obj : ObjectMetadata}
    (plain : obj.versionId = none)
    (untasked : w.metadata.recallTasks.get (phase1RecallTaskId bucket key none) = none)
    (days : Nat) (tier : RestoreTier) :
    (beginRestore bucket key obj days tier).run.Achieves (machine svc env)
      (fun answer after => answer = .ok ⟨202⟩ ∨ after.metadata = w.metadata) w := by
  unfold beginRestore
  refine achieves_checked (fun place _ => ?_) fun _ => .inr rfl
  refine achieves_after succeeds_now fun now first idle => ?_
  rw [← idle.metadata] at untasked ⊢
  have marks : (updateObjectRestoreStatus bucket key .restorePending
      (some (daysFromNow now (max days 1)))).run.Achieves (machine svc env)
        (fun answer after => after.metadata.recallTasks = first.metadata.recallTasks ∧
          ∀ status, answer = .error status → after.metadata = first.metadata) first :=
    achieves_applied calm fun clock tick => ⟨(applyCommand_framed clock first.metadata _).recallTasks rfl,
      fun status refused => applyCommand_atomic clock first.metadata _ status refused⟩
  refine achieves_try marks (fun _ second met => ?_) fun status after met => .inr (met.2 status rfl)
  refine achieves_after succeeds_now fun time third idle => ?_
  -- There is no task under the name, so the new one is stored.
  have absent : third.metadata.recallTasks.get (restoreTask bucket key obj place days tier
      (daysFromNow now (max days 1)) time).id = none := by
    show third.metadata.recallTasks.get (phase1RecallTaskId bucket key obj.versionId) = none
    rw [idle.metadata, met.1, plain]
    exact untasked
  have put : ∀ clock, ∃ after, applyCommand clock third.metadata (.putRecallTask (restoreTask bucket
      key obj place days tier (daysFromNow now (max days 1)) time)) = (.ok (), after) ∧ True :=
    fun clock => ⟨_, putRecallTask_absent _ absent, trivial⟩
  refine achieves_after (succeeds_lift (applied_succeeds calm put)) fun answer last met => ?_
  obtain ⟨_, rfl, _⟩ := met
  exact .inl rfl

/-- Without a task under its name, a restore is accepted or changes nothing in the catalogue. -/
theorem restoreObject_idle (keys : w.metadata.KeysAgree) (unversioned : Unversioned w.metadata)
    {bucket key : String}
    (untasked : w.metadata.recallTasks.get (phase1RecallTaskId bucket key none) = none)
    (days : Nat) (tier : RestoreTier) :
    (restoreObject bucket key days tier).run.Achieves (machine svc env)
      (fun answer after => answer = .ok ⟨202⟩ ∨ after.metadata = w.metadata) w := by
  unfold restoreObject
  -- The object is read first, and what is read of it has no version.
  have read : (askMetadata (.getObject bucket key)).run.Achieves (machine svc env)
      (fun (answer : Except Status ObjectMetadata) after => after.metadata = w.metadata ∧
        ∀ obj, answer = .ok obj → obj.versionId = none) w := by
    refine achieves_askMetadata calm fun moment answer after served tick => ?_
    obtain ⟨found, rfl⟩ := Prod.mk.inj served
    refine ⟨rfl, fun obj same => ?_⟩
    obtain ⟨stored, _⟩ := findObject_keyed keys (found.trans same)
    exact unversioned _ obj stored
  refine achieves_try read (fun obj first met => ?_) fun _ _ met => .inr met.1
  obtain ⟨metadata, plain⟩ := met
  rw [← metadata] at untasked ⊢
  refine achieves_checked (fun _ _ => achieves_checked (fun _ _ => ?_) fun _ => .inr rfl)
    fun _ => .inr rfl
  -- A restore that has begun before is answered from the record alone.
  split
  · exact .inr rfl
  · exact .inr rfl
  · exact .inr rfl
  · exact .inr rfl
  · exact .inr rfl
  · exact .inr rfl
  -- Otherwise it begins now.
  · exact beginRestore_idle calm (plain obj rfl) untasked days tier
  · exact beginRestore_idle calm (plain obj rfl) untasked days tier

end

end

variable [Sha256] {svc : CacheService} {env : Nat → Moment} {w after : World} {bucket key : String}

theorem putObject_sparing (bucket key : String) (body : Bytes) (contentType : Option String) :
    (putObject bucket key body contentType).run.Only Sparing := by
  unfold putObject recordUpload
  refine only_try only_askCache fun _ => only_try (only_lift only_locally) fun now => ?_
  refine only_try (only_tried (only_askMetadata rfl)) fun answer => ?_
  split
  · exact only_pure _
  · exact only_try (only_lift (only_bind only_askCache fun _ => trivial)) fun _ => only_throw _

/-- A record has no restore status, and there is no recall task under its name. -/
structure Unrestored (bucket key : String) (w : World) : Prop where
  inOrder : InOrder w
  untasked : w.metadata.recallTasks.get (phase1RecallTaskId bucket key none) = none
  status : restoreStatusAt w.metadata ⟨bucket, key, none⟩ = some none

theorem Unrestored.undisturbed (unrestored : Unrestored bucket key w) :
    Undisturbed bucket key [] w where
  about :=
    { unrestored.inOrder.catalogueAbout with
      tasks := by
        -- A task under the name of the record would be the one that is not there.
        intro id task found
        have named := HashMap.keyed_iff.mp unrestored.inOrder.keys.recallTasks id task found
        refine ⟨unrestored.inOrder.orderly.named id task found, fun same => ?_⟩
        rw [named, same, unrestored.untasked] at found
        cases found }
  status := unrestored.status
  running := by
    rintro id ⟨_, mem, _⟩
    exact (List.not_mem_nil mem).elim

omit [Sha256] in
/-- Where nobody works on a recall task for a record, there is none under its name. -/
theorem Undisturbed.untasked {past : History} (alone : Undisturbed bucket key past w) :
    w.metadata.recallTasks.get (phase1RecallTaskId bucket key none) = none := by
  cases found : w.metadata.recallTasks.get (phase1RecallTaskId bucket key none) with
  | none => rfl
  | some task =>
    have named := HashMap.keyed_iff.mp alone.about.keys.recallTasks _ task found
    exact absurd named.symm (alone.about.tasks _ task found).2

/-- Uploads, archive and recall workers, and restores. -/
def Request.Handles : Request → Prop
  | .putObject _ _ _ _ | .archiveStagingBatch _ _ _ | .restoreObject _ _ _ _
  | .recallPendingBatch _ _ => True
  | _ => False

/-- A restore whose recall task has the given name. -/
def Request.RestoresAs (id : String) : Request → Prop
  | .restoreObject bucket key _ _ => phase1RecallTaskId bucket key none = id
  | _ => False

/-- A request that is served leaves a record unrestored, unless it is a restore that is accepted. -/
theorem Unrestored.served (unrestored : Unrestored bucket key w) {req : Request}
    (handles : req.Handles)
    (calm : req.RestoresAs (phase1RecallTaskId bucket key none) →
      ∀ tick, (env tick).fault = none) {outcome : Outcome}
    (ran : (start req).run (machine svc env) w = some (outcome, after))
    (refused : req.RestoresAs (phase1RecallTaskId bucket key none) →
      outcome ≠ .restored (.ok ⟨202⟩)) : Unrestored bucket key after := by
  have inOrder : InOrder after :=
    ((start_upholds req w : (contract svc env).Upholds _ _ _).run unrestored.inOrder ran).1
  -- Whoever does nothing about recall tasks spares the record.
  have spared : (start req).Only Sparing → Unrestored bucket key after := by
    intro only
    obtain ⟨untasked, status⟩ := (Only.achieves sparing_enabled sparing_keeps only
      ⟨unrestored.untasked, unrestored.status⟩).of_run ran
    exact ⟨inOrder, untasked, status⟩
  have followed : (start req).Follows (restores (elsewhere bucket key)) (fun _ _ => True) [] →
      Unrestored bucket key after := by
    intro follows
    obtain ⟨past, alone⟩ := undisturbed_run follows unrestored.undisturbed ran
    exact ⟨inOrder, alone.untasked, alone.status⟩
  cases req with
  | putObject bucket key body contentType =>
    exact spared (only_bind (putObject_sparing bucket key body contentType) fun _ => trivial)
  | archiveStagingBatch s client limit =>
    exact spared (only_bind ((archiveStagingBatch_only s client limit).mono ArchiveCall.sparing)
      fun _ => trivial)
  | recallPendingBatch s limit =>
    exact followed (follows_bind ((recallPendingBatch_asks s limit).mono fun _ _ _ => trivial))
  | restoreObject otherBucket otherKey days tier =>
    by_cases same : phase1RecallTaskId otherBucket otherKey none = phase1RecallTaskId bucket key none
    · have achieved : (start (.restoreObject otherBucket otherKey days tier)).Achieves
          (machine svc env) (fun outcome after =>
            outcome = .restored (.ok ⟨202⟩) ∨ after.metadata = w.metadata) w :=
        achieves_bind (restoreObject_idle (calm same) unrestored.inOrder.keys
          unrestored.inOrder.catalogueAbout.plain (same ▸ unrestored.untasked) days tier)
          fun _ _ met => met.imp_left (congrArg Outcome.restored)
      rcases achieved.of_run ran with accepted | unchanged
      · exact absurd accepted (refused same)
      · exact ⟨inOrder, unchanged ▸ unrestored.untasked, unchanged ▸ unrestored.status⟩
    · exact followed (follows_bind ((restoreObject_asks ⟨rfl, same⟩ days tier).mono
        fun _ _ _ => trivial))
  | _ => exact handles.elim

/-- So do requests one after the other, among which no restore under its name is accepted. -/
theorem Unrestored.servedAll {requests : List Request}
    (handles : ∀ req ∈ requests, req.Handles)
    (calm : ∀ req ∈ requests, req.RestoresAs (phase1RecallTaskId bucket key none) →
      ∀ tick, (env tick).fault = none) {outcomes : List Outcome}
    (unrestored : Unrestored bucket key w)
    (ran : (serveAll requests).run (machine svc env) w = some (outcomes, after))
    (refused : ∀ served ∈ requests.zip outcomes,
      served.1.RestoresAs (phase1RecallTaskId bucket key none) →
        served.2 ≠ .restored (.ok ⟨202⟩)) : Unrestored bucket key after := by
  -- By induction on the requests: each starts from a world in which the record is still unrestored.
  induction requests generalizing w outcomes with
  | nil =>
    cases ran
    exact unrestored
  | cons req rest ih =>
    obtain ⟨outcome, others, between, rfl, served, later⟩ := serveAll_cons_ran ran
    rw [List.forall_mem_cons] at handles calm
    rw [List.zip_cons_cons, List.forall_mem_cons] at refused
    exact ih handles.2 calm.2 (unrestored.served handles.1 calm.1 served refused.1) later refused.2

/--
A record without a restore status keeps none, in every sequence of uploads, restores and workers in
which no restore of its name is accepted.

There must not be a recall task under its name to begin with. Calls may fail, except those of
restores of that name.
-/
theorem fresh_record_unrestored (inOrder : InOrder w) {obj : ObjectMetadata}
    (stored : w.metadata.objects.get ⟨bucket, key, none⟩ = some obj)
    (fresh : obj.restoreStatus = none)
    (untasked : w.metadata.recallTasks.get (phase1RecallTaskId bucket key none) = none)
    {requests : List Request} (handles : ∀ req ∈ requests, req.Handles)
    (calm : ∀ req ∈ requests, req.RestoresAs (phase1RecallTaskId bucket key none) →
      ∀ tick, (env tick).fault = none) {outcomes : List Outcome}
    (ran : (serveAll requests).run (machine svc env) w = some (outcomes, after))
    (refused : ∀ served ∈ requests.zip outcomes,
      served.1.RestoresAs (phase1RecallTaskId bucket key none) → served.2 ≠ .restored (.ok ⟨202⟩)) :
    ∃ record, after.metadata.objects.get ⟨bucket, key, none⟩ = some record ∧
      record.restoreStatus = none := by
  -- A record without a restore status and without a task stays so until a restore is accepted.
  have unrestored : Unrestored bucket key w :=
    ⟨inOrder, untasked, by rw [restoreStatusAt, stored, Option.map_some, fresh]⟩
  exact Option.map_eq_some_iff.mp (unrestored.servedAll handles calm ran refused).status

omit [Sha256]

/-- An object is put again, and restored while it is not archived. -/
def replacement : List Request :=
  [.putObject "docs" "a" [98, 98] none, .restoreObject "docs" "a" 1 .standard,
    .recallPendingBatch oneTapeScheduler 8]

/-- A replacement that is not archived is not restored. -/
theorem fresh_record_unrestored_replaced :
    letI := shortDigests
    ∃ outcomes after, (serveAll replacement).run quietMachine stagedWorld =
        some (outcomes, after) ∧
      ∃ record, after.metadata.objects.get ⟨"docs", "a", none⟩ = some record ∧
        record.restoreStatus = none := by
  let := shortDigests
  have run : (∃ obj ∈ stagedWorld.metadata.objects.get ⟨"docs", "a", none⟩,
        obj.restoreStatus = none) ∧
      stagedWorld.metadata.recallTasks.get (phase1RecallTaskId "docs" "a" none) = none ∧
      ∃ ended ∈ (serveAll replacement).run quietMachine stagedWorld,
        ∀ outcome ∈ ended.1, outcome.acceptsRestore = false := by
    decide +kernel
  obtain ⟨⟨obj, stored, fresh⟩, untasked, ⟨outcomes, after⟩, ran, refused⟩ := run
  refine ⟨outcomes, after, ran, fresh_record_unrestored (oneTapeAfter_inOrder _ _) stored fresh untasked
    (by simp [replacement, Request.Handles]) (fun _ _ _ _ => rfl) ran ?_⟩
  -- The one restore comes too early: the replacement is not archived yet.
  intro served mem _ accepted
  have refused := refused served.2 (List.of_mem_zip mem).2
  rw [accepted] at refused
  exact absurd refused (by decide)

/-- The recall of an object that was put again since its restore marks the new record as failed. -/
theorem stale_recall_marks_replacement :
    letI := shortDigests
    ∃ outcomes replaced, (serveAll [.restoreObject "docs" "a" 1 .standard,
          .putObject "docs" "a" [98, 98] none]).run quietMachine
        archivedWorld = some (outcomes, replaced) ∧
      outcomes.map Outcome.acceptsRestore = [true, false] ∧
      (∃ record ∈ replaced.metadata.objects.get ⟨"docs", "a", none⟩,
        record.storageClass = StorageClass.coldPending.number ∧
          record.checksum = sha256Hex [98, 98] ∧ record.restoreStatus = none) ∧
      ∃ recalled after, (serveAll [.recallPendingBatch oneTapeScheduler 8]).run
          quietMachine replaced = some (recalled, after) ∧
        ∃ record ∈ after.metadata.objects.get ⟨"docs", "a", none⟩,
          record.checksum = sha256Hex [98, 98] ∧
            record.restoreStatus = some RestoreStatus.restoreFailed.number := by
  let := shortDigests
  have run : ∃ ended ∈ (serveAll [.restoreObject "docs" "a" 1 .standard,
          .putObject "docs" "a" [98, 98] none]).run quietMachine archivedWorld,
      ended.1.map Outcome.acceptsRestore = [true, false] ∧
      (∃ record ∈ ended.2.metadata.objects.get ⟨"docs", "a", none⟩,
        record.storageClass = StorageClass.coldPending.number ∧
          record.checksum = sha256Hex [98, 98] ∧ record.restoreStatus = none) ∧
      ∃ last ∈ (serveAll [.recallPendingBatch oneTapeScheduler 8]).run
          quietMachine ended.2, ∃ record ∈ last.2.metadata.objects.get ⟨"docs", "a", none⟩,
          record.checksum = sha256Hex [98, 98] ∧
            record.restoreStatus = some RestoreStatus.restoreFailed.number := by
    decide +kernel
  obtain ⟨⟨outcomes, replaced⟩, ran, accepted, fresh, ⟨recalled, after⟩, ranLater, failed⟩ := run
  exact ⟨outcomes, replaced, ran, accepted, fresh, recalled, after, ranLater, failed⟩

end ColdStore.Scheduler
