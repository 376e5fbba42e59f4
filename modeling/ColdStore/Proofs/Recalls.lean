import ColdStore.Scheduler.Upholding

/-! Recall tasks are claimed once: neither a failure nor a new restore makes them wait again. -/

namespace ColdStore.Scheduler

open Rust Process Contract MetadataState

section

variable [Sha256] (svc : CacheService) (env : Nat → Moment)

/--
A recall that failed for a reason worth another try never waits to be claimed again.

This is so after every run of schedulers, for every batch that has come to its end.
-/
theorem retriable_recall_never_waits_again (w : World) (inOrder : InOrder w)
    (events : List (Event Request)) (thread : Thread Call Reply Request Outcome)
    (started : thread ∈ (reached svc env w events).threads)
    (batch : RecallBatch) (ended : thread.program = .done (.recalled batch)) (task : RecallTask)
    (status : Status) (failed : (task, .error status) ∈ batch.processed)
    (_ : isRetriableRecallProcessingError status = true) :
    ∀ waiting ∈
      (reached svc env w events).world.metadata.listPendingRecallTasks, waiting.id ≠ task.id := by
  have kept := reached_kept svc env inOrder events
  have upheld := kept.2 thread started
  rw [ended] at upheld
  -- Other threads may have run since, and the task is closed in any case.
  have closed : ProcessedClosed batch.processed _ := upheld _ (.refl _) kept.1
  exact (closed _ failed).not_listed kept.1.keys

/--
Once an object has been restored, no recall task for it ever waits to be claimed again, whatever
the cache has lost and however often a restore is asked for.
-/
theorem restored_object_never_waits_again (w : World) (inOrder : InOrder w)
    (events later : List (Event Request)) (bucket key : String) (obj : ObjectMetadata)
    (stored : (reached svc env w events).world.metadata.objects.get ⟨bucket, key, none⟩ = some obj)
    (restored : obj.restoreStatus = some RestoreStatus.restoreCompleted.number) (days : Nat)
    (tier : RestoreTier) :
    ∀ task ∈ (reached svc env w (events ++
      .spawn (.restoreObject bucket key days tier) :: later)).world.metadata.listPendingRecallTasks,
        ¬ (task.bucket = bucket ∧ task.key = key) := by
  have kept := reached_kept svc env inOrder events
  have closed := (kept.1.orderly.objects _ obj stored).restored restored
  obtain ⟨⟨inOrder, _⟩, advances⟩ :=
    contract_kept kept (.spawn (.restoreObject bucket key days tier) :: later)
  rw [reached, Config.after_append]
  rintro task listed ⟨sameBucket, sameKey⟩
  -- A task for the object has the id of the task that is closed.
  refine (advances.recalls _ closed).not_listed inOrder.keys task listed ?_
  simp only [listPendingRecallTasks, List.mem_filter] at listed
  obtain ⟨id, found⟩ := (HashMap.mem_values _ _).mp listed.1
  rw [inOrder.orderly.named id task found, sameBucket, sameKey]

end

/-- One upload that is archived, and whose restore has been asked for. -/
def awaitedUpload : List (Event Request) :=
  [.spawn (.putObject "docs" "a" [97] none)] ++ steps 3 0 ++
    [.spawn (.archiveStagingBatch oneTapeScheduler oneTapeClient 0)] ++ steps 20 1 ++
    [.spawn (.restoreObject "docs" "a" 1 .standard)] ++ steps 5 2

/-- A batch that recalls the upload. -/
def recallBatch : List (Event Request) :=
  [.spawn (.recallPendingBatch oneTapeScheduler 1)] ++ steps 20 3

/-- The tape service is down when the upload is read from tape. -/
def tapeDown : Nat → Moment := lostAt 39 (.unavailable "tape service is down")

/-- The claimed tasks of a batch that has ended, with how their processing went. -/
def processedBy (thread : Thread Call Reply Request Outcome) : List Processed :=
  match thread.program with
  | .done (.recalled batch) => batch.processed
  | _ => []

theorem mem_processedBy {thread : Thread Call Reply Request Outcome} {step : Processed}
    (mem : step ∈ processedBy thread) :
    ∃ batch, thread.program = .done (.recalled batch) ∧ step ∈ batch.processed := by
  simp only [processedBy] at mem
  split at mem
  · exact ⟨_, ‹_›, mem⟩
  · cases mem

/-- Whether a batch has processed a task in vain that is left in a status. -/
def failedAndLeft (system : System) (id : String) (error : Status) (status : RestoreStatus) : Bool :=
  system.threads.any fun thread => (processedBy thread).any fun step =>
    step.1.id = id ∧ step.2 = .error error ∧
      (system.world.metadata.recallTasks.get id).map RecallTask.status = some status.number

theorem failedAndLeft_spec {system : System} {id : String} {error : Status}
    {status : RestoreStatus} (left : failedAndLeft system id error status = true) :
    ∃ thread ∈ system.threads, ∃ batch task, thread.program = .done (.recalled batch) ∧
      (task, .error error) ∈ batch.processed ∧ task.id = id ∧
        (system.world.metadata.recallTasks.get id).map RecallTask.status = some status.number := by
  obtain ⟨thread, started, inside⟩ := List.any_eq_true.mp left
  obtain ⟨step, mem, found⟩ := List.any_eq_true.mp inside
  obtain ⟨batch, ended, processed⟩ := mem_processedBy mem
  obtain ⟨sameId, failed, stored⟩ := of_decide_eq_true found
  exact ⟨thread, started, batch, step.1, ended, by rw [← failed]; exact processed, sameId, stored⟩

/-- The upload cannot be read from tape, and its recall is left in progress. -/
theorem tapeDown_run : failedAndLeft (oneTapeAfter tapeDown (awaitedUpload ++ recallBatch))
    "phase1-recall:docs/a" (.unavailable "tape service is down") .restoreInProgress = true := by
  decide +kernel

/-- The recall of the upload is not among those a later batch would find. -/
theorem retriable_recall_never_waits_again_oneTape :
    failedAndLeft (oneTapeAfter tapeDown (awaitedUpload ++ recallBatch)) "phase1-recall:docs/a"
        (.unavailable "tape service is down") .restoreInProgress = true ∧
      ∀ waiting ∈ (oneTapeAfter tapeDown
        (awaitedUpload ++ recallBatch)).world.metadata.listPendingRecallTasks,
          waiting.id ≠ "phase1-recall:docs/a" := by
  refine ⟨tapeDown_run, ?_⟩
  obtain ⟨thread, started, batch, task, ended, failed, same, _⟩ := failedAndLeft_spec tapeDown_run
  rw [oneTapeAfter] at started
  intro waiting listed waits
  rw [oneTapeAfter] at listed
  exact @retriable_recall_never_waits_again shortDigests (.even (2 ^ 30)) tapeDown oneTapeWorld
    (@fresh_inOrder shortDigests _ _ _) (awaitedUpload ++ recallBatch) thread started batch ended task
    _ failed (by decide) waiting listed (waits.trans same.symm)

/-- A claimed task fails because the tape service is down, and is not sent back to waiting. -/
theorem retriable_recall_is_stuck :
    ∃ thread ∈ (oneTapeAfter tapeDown (awaitedUpload ++ recallBatch)).threads, ∃ batch task status,
      thread.program = .done (.recalled batch) ∧ (task, .error status) ∈ batch.processed ∧
      isRetriableRecallProcessingError status = true ∧
      ((oneTapeAfter tapeDown (awaitedUpload ++ recallBatch)).world.metadata.recallTasks.get
        task.id).map RecallTask.status = some RestoreStatus.restoreInProgress.number := by
  obtain ⟨thread, started, batch, task, ended, failed, same, stored⟩ :=
    failedAndLeft_spec tapeDown_run
  exact ⟨thread, started, batch, task, _, ended, failed, by decide, by rw [same]; exact stored⟩

/-- Everything arrives, and two days pass once the upload has been recalled. -/
def twoDaysLater (tick : Nat) : Moment :=
  { seconds := if tick < 48 then 0 else 2 * 86400, nanos := 0 }

/-- Another restore of the upload, which ends with its first call. -/
def restoreAgain : List (Event Request) :=
  .spawn (.restoreObject "docs" "a" 1 .standard) :: steps 1 4

/-- Whether an object has been archived and restored. -/
def archivedAndRestored (obj : ObjectMetadata) : Bool :=
  obj.storageClass = StorageClass.cold.number ∧
    obj.restoreStatus = some RestoreStatus.restoreCompleted.number ∧
    obj.archiveId.isSome ∧ obj.tapeId.isSome ∧ obj.tapeBlockOffset.isSome

/-- How a restore has ended. -/
def restoreAnswer (thread : Thread Call Reply Request Outcome) :
    Option (Except Status RestoreObjectResponse) :=
  match thread.program with
  | .done (.restored answer) => some answer
  | _ => none

/-- No recall task for the upload waits after the second restore. -/
theorem restored_object_never_waits_again_oneTape :
    (∃ obj ∈ (oneTapeAfter twoDaysLater
      (awaitedUpload ++ recallBatch)).world.metadata.objects.get ⟨"docs", "a", none⟩,
        archivedAndRestored obj = true) ∧
      ∀ task ∈ (oneTapeAfter twoDaysLater
        (awaitedUpload ++ recallBatch ++ restoreAgain)).world.metadata.listPendingRecallTasks,
          ¬ (task.bucket = "docs" ∧ task.key = "a") := by
  have run : ∃ obj ∈ (oneTapeAfter twoDaysLater
      (awaitedUpload ++ recallBatch)).world.metadata.objects.get ⟨"docs", "a", none⟩,
        archivedAndRestored obj = true := by
    decide +kernel
  refine ⟨run, ?_⟩
  obtain ⟨obj, stored, restored⟩ := run
  rw [Option.mem_def, oneTapeAfter] at stored
  rw [oneTapeAfter, restoreAgain]
  exact @restored_object_never_waits_again shortDigests (.even (2 ^ 30)) twoDaysLater oneTapeWorld
    (@fresh_inOrder shortDigests _ _ _) (awaitedUpload ++ recallBatch) (steps 1 4) "docs" "a" obj
    stored (of_decide_eq_true restored).2.1 1 .standard

/--
The upload is archived and restored, and its copy in the cache has expired. A second restore is
answered as if it were readable, and leaves no task to recall it.
-/
theorem restored_object_is_lost :
    let before := oneTapeAfter twoDaysLater (awaitedUpload ++ recallBatch)
    let after := oneTapeAfter twoDaysLater (awaitedUpload ++ recallBatch ++ restoreAgain)
    (∃ obj ∈ before.world.metadata.objects.get ⟨"docs", "a", none⟩,
      archivedAndRestored obj = true) ∧
    (∀ entry ∈ before.world.cache.findEntry ⟨"docs", "a", none⟩ .restored,
      isExpiredAt entry.xattrs.expireAt (twoDaysLater before.world.tick).seconds = true) ∧
    after.threads[4]?.bind restoreAnswer = some (.ok ⟨200⟩) ∧
    after.world.metadata.listPendingRecallTasks = [] := by
  decide +kernel

end ColdStore.Scheduler
