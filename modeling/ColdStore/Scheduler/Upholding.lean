import ColdStore.Metadata.Tasks
import ColdStore.Scheduler.ArchiveCalls
import ColdStore.Scheduler.Contract

/-! Every request and every worker keeps to the contract of the schedulers. -/

namespace ColdStore.Scheduler

open Rust Process Contract MetadataState

variable [Sha256] {svc : CacheService} {env : Nat → Moment} {w : World}

/-- A command upholds the contract when it is permitted. -/
theorem secures_applied {cmd : MetadataCommand}
    (permitted : ∀ later, Advances w.metadata later.metadata → InOrder later →
      Permitted later.metadata cmd) : (contract svc env).Secured (applied cmd) w :=
  secures_askMetadata permitted fun _ _ _ _ _ _ _ => trivial

/-- Going on after a command, whether it failed or not. -/
theorem secures_tried {ε δ α : Type} {task : Task ε α} {post : α → World → Prop}
    (secured : (contract svc env).Secures task post w) :
    (contract svc env).Secures (tried task : Task δ (Except ε α))
      (fun result after => ∀ value, result = .ok value → post value after) w := secures_lift secured

/-- A step whose failure with one code is tolerated. -/
theorem secures_tolerated {task : Task Status Unit} {code : Code} {post : Unit → World → Prop}
    (secured : (contract svc env).Secures task post w) :
    (contract svc env).Secured
      (do
        match ← tried task with
        | .ok () => pure ()
        | .error status => if status.code ≠ code then throw status : Task Status Unit) w := by
  refine secures_bind (secures_tried secured) fun answer _ _ _ _ => ?_
  split
  · exact secured_pure
  · split
    · exact secures_throw
    · exact secured_pure

/-- What a scheduler does by itself is harmless. -/
theorem upholds_locally {call : LocalCall} :
    (contract svc env).Upholds (locally call) (fun _ _ => True) w := upholds_harmless only_locally

theorem secures_locally {ε : Type} {call : LocalCall} :
    (contract svc env).Secured (liftM (locally call) : Task ε call.Value) w :=
  secures_lift upholds_locally

theorem secures_checked {ε α : Type} {result : Except ε α} :
    (contract svc env).Secured (checked result) w := secures_harmless (only_checked _)

theorem secures_now {ε : Type} :
    (contract svc env).Secured (liftM nowTimestamp : Task ε Timestamp) w := secures_locally

/-- A task of the catalogue is what it was asked for by, and its status has a meaning. -/
theorem getArchiveTask_secures (id : String) :
    (contract svc env).Secures (getArchiveTask id) (fun task _ => task.id = id ∧ Known task) w := by
  refine secures_askMetadata (fun _ _ _ => trivial) fun later _ task _ inOrder served _ => ?_
  have found : later.metadata.archiveTasks.get id = some task := (okOr_eq_ok _ _ _).mp served
  exact ⟨(HashMap.keyed_iff.mp inOrder.keys.archiveTasks id task found).symm,
    inOrder.orderly.known id task found⟩

/-- A recall task of the catalogue is what it was asked for by, and named after its object. -/
theorem getRecallTask_secures (id : String) :
    (contract svc env).Secures (getRecallTask id) (fun task _ => task.id = id ∧ Named task) w := by
  refine secures_askMetadata (fun _ _ _ => trivial) fun later _ task _ inOrder served _ => ?_
  have found : later.metadata.recallTasks.get id = some task := (okOr_eq_ok _ _ _).mp served
  exact ⟨(HashMap.keyed_iff.mp inOrder.keys.recallTasks id task found).symm,
    inOrder.orderly.named id task found⟩

/-- Changing an archive task to a status that is not that of waiting keeps to the contract. -/
theorem updateArchiveTask_secures {task : ArchiveTask} (status : ArchiveTaskStatus)
    (number : task.status = status.number) (meaning : status ≠ .unspecified)
    (claimed : status ≠ .archiveTaskPending) :
    (contract svc env).Secures (updateArchiveTask task)
      (fun _ after => after.metadata.ArchiveStarted task.id) w := by
  have moved : task.status ≠ ArchiveTaskStatus.archiveTaskPending.number := by
    rw [number]
    exact fun same => claimed (ProtoEnum.injective _ _ same)
  refine secures_askMetadata (fun _ _ _ => ⟨⟨status, number, meaning⟩, moved⟩)
    fun later moment _ last _ ok advances => ?_
  exact advances.archives _ ⟨task, (archiveTaskKind.accepted moment.seconds ok).2, moved⟩

variable {task : RecallTask}

/-- A recall task that was closed by a change stays closed. -/
theorem updateRecallTask_secures (named : Named task) :
    (contract svc env).Secures (updateRecallTask task)
      (fun _ after => task.Closed → after.metadata.RecallClosed task.id) w := by
  refine secures_askMetadata (fun _ _ _ => named) fun later moment _ last _ ok advances closed => ?_
  exact advances.recalls _ ⟨task, (recallTaskKind.accepted moment.seconds ok).2, closed⟩

variable (s : SchedulerState) (client : TapeArchiveClient) (bucket key : String)

/-- A restore status other than that of a completed restore may always be recorded. -/
theorem updateObjectRestoreStatus_secures {status : RestoreStatus} (expireAt : Option Timestamp)
    (other : status ≠ .restoreCompleted) :
    (contract svc env).Secured (updateObjectRestoreStatus bucket key status expireAt) w :=
  secures_applied fun _ _ _ same => absurd (ProtoEnum.injective _ _ same) other

/-- An upload keeps to the contract. -/
theorem putObject_secures (body : Bytes) (contentType : Option String) :
    (contract svc env).Secured (putObject bucket key body contentType) w := by
  refine secures_bind
    (fun _ _ _ _ => ⟨⟨⟨bucket, key, body, contentType⟩, rfl⟩, fun _ _ _ _ _ => trivial⟩)
    fun _ _ _ _ _ => secures_bind secures_now fun now _ _ _ _ => ?_
  refine secures_bind (secures_tried (secures_applied fun _ _ _ => ⟨rfl, rfl⟩))
    fun answer _ _ _ _ => ?_
  split
  · exact secured_pure
  · refine secures_bind (secures_lift (upholds_harmless ?_)) fun _ _ _ _ _ => secures_throw
    exact Program.only_bind only_askCache fun _ => trivial

/-! Archive workers. -/

/-- A task that was taken over has been claimed. -/
theorem startArchiveTask_secures (current : ArchiveTask) :
    (contract svc env).Secures (startArchiveTask current)
      (fun claimed after => claimed.isSome → after.metadata.ArchiveStarted current.id) w := by
  refine secures_bind secures_now fun now _ _ _ _ => ?_
  refine secures_bind (secures_tried (updateArchiveTask_secures
    (.archiveTaskInProgress) rfl (by decide) (by decide))) fun answer _ _ _ started => ?_
  split
  · exact secures_pure fun _ change _ _ => change.archives _ (started () rfl)
  · split
    · exact secures_pure fun _ _ _ some => by simp at some
    · exact secures_throw

/-- Who gets a task has claimed it. -/
theorem claimArchiveTask_secures (task : ArchiveTask)
    (pending : task.status = ArchiveTaskStatus.archiveTaskPending.number) :
    (contract svc env).Secures (claimArchiveTask task)
      (fun claimed after => claimed.isSome → after.metadata.ArchiveStarted task.id) w := by
  have refused : ∀ {w : World}, (contract svc env).Secures
      (pure none : Task Status (Option ArchiveTask))
      (fun claimed after => claimed.isSome → after.metadata.ArchiveStarted task.id) w :=
    secures_pure fun _ _ _ some => by simp at some
  -- Putting the task again is tolerated, and otherwise a pending task is added.
  have once : (contract svc env).Secured (putArchiveTaskOnce task) w :=
    secures_tolerated (secures_applied fun _ _ _ => pending)
  refine secures_bind once fun _ _ _ _ _ => secures_bind (getArchiveTask_secures task.id)
    fun current _ _ _ same => ?_
  split
  · exact secures_throw
  · exact refused
  · exact refused
  · exact refused
  · rw [← same.1]
    exact startArchiveTask_secures current
  · exact secures_throw

/-- A task is completed under the contract. -/
theorem finalizeArchiveTaskSuccess_secures (task : ArchiveTask) (bytesWritten : Nat) :
    (contract svc env).Secured (finalizeArchiveTaskSuccess task bytesWritten) w := by
  refine secures_bind (getArchiveTask_secures task.id) fun current _ _ _ _ => ?_
  split
  · exact secures_throw
  · exact secured_pure
  · refine secures_bind secures_now fun now _ _ _ _ => ?_
    exact secures_tolerated (updateArchiveTask_secures .archiveTaskCompleted rfl (by decide)
      (by decide))

/-- A failed task is marked under the contract. -/
theorem markArchiveTaskFailed_secures (task : ArchiveTask) (error : String) :
    (contract svc env).Secured (markArchiveTaskFailed task error) w := by
  refine secures_bind (getArchiveTask_secures task.id) fun current _ _ _ _ => ?_
  split
  · exact secures_throw
  · exact secured_pure
  · exact secured_pure
  · refine secures_bind secures_now fun now _ _ _ _ => ?_
    exact (updateArchiveTask_secures .archiveTaskFailed rfl (by decide) (by decide)).mono
      fun _ _ _ => trivial

/-- An object is archived under the claim of its task. -/
theorem archiveClaimed_secures (entry : StagingKeyEntry) (bundleId : String)
    (obj : ObjectMetadata) (task : ArchiveTask) (started : w.metadata.ArchiveStarted bundleId) :
    (contract svc env).Secured (archiveClaimed client entry bundleId obj task) w := by
  refine secures_bind (secures_harmless (only_try only_askCache fun _ => only_checked _))
    fun staged _ first _ _ => ?_
  refine secures_bind secures_checked fun _ _ second _ _ => ?_
  refine secures_bind (secures_harmless (writeBundle_only (fun _ _ => trivial) _ _ _))
    fun write _ third _ _ => ?_
  refine secures_bind secures_checked fun _ _ fourth _ _ => ?_
  refine secures_bind (secures_harmless only_askMetadata) fun current _ fifth _ _ => ?_
  refine secures_bind secures_checked fun _ _ sixth _ _ => ?_
  refine secures_bind secures_checked fun _ _ seventh _ _ => ?_
  refine secures_bind secures_now fun now _ eighth _ _ => ?_
  -- The claim has been there ever since, because tasks only go forward.
  have change := ((((((first.trans second).trans third).trans fourth).trans fifth).trans
    sixth).trans seventh).trans eighth
  refine secures_bind (secures_applied fun later advances _ => ?_) fun _ _ _ _ _ => ?_
  · rintro bundle ⟨⟩
    exact (change.trans advances).archives _ started
  refine secures_bind (secures_harmless only_askCache) fun _ _ _ _ _ => ?_
  exact secures_bind (finalizeArchiveTaskSuccess_secures _ _) fun _ _ _ _ _ => secured_pure

/-- The task made for a bundle waits to be claimed, under the id of the bundle. -/
theorem phase1ArchiveTask_upholds (bundleId tapeId : String) (size : Nat) :
    (contract svc env).Upholds (phase1ArchiveTask bundleId tapeId size)
      (fun task _ => task.id = bundleId ∧
        task.status = ArchiveTaskStatus.archiveTaskPending.number) w :=
  upholds_bind (upholds_locally.mono fun _ _ _ _ _ _ => ⟨rfl, rfl⟩)

/-- One listed object is archived under the contract. -/
theorem archiveEntry_secures (entry : StagingKeyEntry) :
    (contract svc env).Secured (archiveEntry s client entry) w := by
  refine secures_bind (secures_harmless (only_mapErr only_askMetadata)) fun obj _ _ _ _ => ?_
  refine secures_bind (secures_lift (phase1ArchiveTask_upholds _ _ _)) fun task _ _ _ made => ?_
  -- An object that is not pending any more only has its staged copy removed.
  split
  · refine secures_bind (secures_lift (upholds_harmless ?_)) fun _ _ _ _ _ => secured_pure
    exact Program.only_bind only_askCache fun _ => trivial
  · refine secures_bind (secures_adapt (claimArchiveTask_secures task made.2))
      fun claimed _ _ _ started => ?_
    rw [made.1] at started
    split
    · exact secured_pure
    · exact secures_bind (secures_adapt (archiveClaimed_secures _ _ _ _ _ (started rfl)))
        fun _ _ _ _ _ => secured_pure

/-- So are all of them. -/
theorem archiveEntries_secures (entries : List StagingKeyEntry) :
    ∀ (result : ArchiveBatchResult) {w : World},
    (contract svc env).Secured (archiveEntries s client entries result) w := by
  -- One entry after the other, and none after an entry that fails.
  induction entries with
  | nil => exact fun _ _ => secured_pure
  | cons entry rest ih =>
    intro result w
    refine secures_bind secures_locally fun acquired _ _ _ _ => ?_
    split
    · refine secures_bind (secures_tried (archiveEntry_secures _ _ _)) fun archived _ _ _ _ => ?_
      split
      · exact secures_bind secures_locally fun _ _ _ _ _ => ih _
      · rename_i status task _
        cases task with
        | none =>
          exact secures_bind secures_locally fun _ _ _ _ _ => secures_throw
        | some task =>
          refine secures_bind (secures_tried (markArchiveTaskFailed_secures _ _))
            fun _ _ _ _ _ => ?_
          exact secures_bind secures_locally fun _ _ _ _ _ => secures_throw
    · exact ih _

/-- An archive batch keeps to the contract. -/
theorem archiveStagingBatch_secures (limit : Nat) :
    (contract svc env).Secured (archiveStagingBatch s client limit) w :=
  secures_bind (secures_harmless (only_try only_askCache fun _ => only_pure _))
    fun entries _ _ _ _ => archiveEntries_secures s client entries {}

/-! Recall workers. -/

/-- A recall task that was taken over is closed. -/
theorem startRecallTask_secures {current : RecallTask} (named : Named current) :
    (contract svc env).Secures (startRecallTask current)
      (fun claimed after => ∀ task ∈ claimed, Named task ∧ task.id = current.id ∧
        after.metadata.RecallClosed current.id) w := by
  refine secures_bind secures_now fun now _ _ _ _ => ?_
  refine secures_bind (secures_tried (updateRecallTask_secures named)) fun answer _ _ _ closed => ?_
  split
  · split
    · exact secures_pure fun _ _ _ task some => by cases some
    · exact secures_throw
  -- What the claim has closed stays closed while the object is marked.
  · refine secures_bind (updateObjectRestoreStatus_secures _ _ _ (by decide))
      fun _ _ first _ _ => secures_pure fun _ second _ => ?_
    rintro task ⟨⟩
    exact ⟨named, rfl, second.recalls _ (first.recalls _
      (closed () rfl ⟨.restoreInProgress, rfl, rfl⟩))⟩

/-- A recall task that someone gets is closed. -/
theorem claimRecallTask_secures (named : Named task) :
    (contract svc env).Secures (claimRecallTask task)
      (fun claimed after => ∀ found ∈ claimed, Named found ∧ found.id = task.id ∧
        after.metadata.RecallClosed task.id) w := by
  -- Putting the task again is tolerated, and otherwise a task under its own name is added.
  have once : (contract svc env).Secured (putRecallTaskOnce task) w :=
    secures_tolerated (secures_applied fun _ _ _ => named)
  have refused : ∀ {w : World}, (contract svc env).Secures
      (pure none : Task Status (Option RecallTask))
      (fun claimed after => ∀ found ∈ claimed, Named found ∧ found.id = task.id ∧
        after.metadata.RecallClosed task.id) w :=
    secures_pure fun _ _ _ _ some => by cases some
  refine secures_bind once fun _ _ _ _ _ => secures_bind (getRecallTask_secures task.id)
    fun current _ _ _ same => ?_
  split
  · exact secures_throw
  · rw [← same.1]
    exact startRecallTask_secures same.2
  · rw [← same.1]
    exact startRecallTask_secures same.2
  all_goals exact refused

/-- A failed recall is marked under the contract. -/
theorem markRecallFailed_secures (task : RecallTask) (error : String) :
    (contract svc env).Secured (markRecallFailed task error) w := by
  refine secures_bind (getRecallTask_secures task.id) fun current _ _ _ same => ?_
  split
  · exact secures_throw
  · exact secured_pure
  · exact secured_pure
  · refine secures_bind secures_now fun now _ _ _ _ => ?_
    refine secures_bind (secures_tried (updateRecallTask_secures same.2)) fun answer _ _ _ _ => ?_
    -- The object is marked whether or not the update of the task came too late.
    have recorded : ∀ {w : World}, (contract svc env).Secured
        (updateObjectRestoreStatus current.bucket current.key .restoreFailed none) w :=
      updateObjectRestoreStatus_secures _ _ _ (by decide)
    split
    · exact recorded
    · split
      · exact secures_bind (secures_harmless (only_throw _)) fun _ _ _ _ _ => recorded
      · exact recorded

/-- A recall is put off under the contract. -/
theorem retryRecallTaskLater_secures (task : RecallTask) (error : String) :
    (contract svc env).Secured (retryRecallTaskLater task error) w := by
  refine secures_bind (getRecallTask_secures task.id) fun current _ _ _ same => ?_
  split
  · exact secures_throw
  · exact secures_bind (updateRecallTask_secures same.2) fun _ _ _ _ _ =>
      updateObjectRestoreStatus_secures _ _ _ (by decide)
  · exact secured_pure

/-- A claimed task is processed under its claim. -/
theorem processRecallTask_secures (driveId : String) (named : Named task)
    (closed : w.metadata.RecallClosed task.id) :
    (contract svc env).Secured (processRecallTask driveId task) w := by
  refine secures_bind (secures_harmless only_askMetadata) fun obj _ first _ _ => ?_
  refine secures_bind secures_checked fun _ _ second _ _ => ?_
  refine secures_bind (secures_harmless (readBundle_only (fun _ _ => trivial) _ _ _))
    fun data _ third _ _ => ?_
  refine secures_bind secures_checked fun _ _ fourth _ _ => ?_
  refine secures_bind (secures_lift (upholds_harmless (recallExpiry_only trivial _)))
    fun expireAt _ fifth _ _ => ?_
  refine secures_bind (secures_harmless only_askCache) fun _ _ sixth _ _ => ?_
  refine secures_bind secures_now fun now _ seventh _ _ => ?_
  refine secures_bind (updateRecallTask_secures named) fun _ _ eighth _ _ => ?_
  -- The task has been closed ever since it was claimed.
  have change := ((((((first.trans second).trans third).trans fourth).trans fifth).trans
    sixth).trans seventh).trans eighth
  refine secures_bind (secures_applied fun later advances _ _ => ?_) fun _ _ _ _ _ => secured_pure
  rw [← named]
  exact (change.trans advances).recalls _ closed

/-- The tasks that were processed are closed. -/
def ProcessedClosed (processed : List Processed) (after : World) : Prop :=
  ∀ step ∈ processed, after.metadata.RecallClosed step.1.id

/-- A claimed task stays closed, whatever comes of it. -/
theorem recallClaimed_upholds (named : Named task) (closed : w.metadata.RecallClosed task.id) :
    (contract svc env).Upholds (recallClaimed s task)
      (fun step after => ProcessedClosed step.2.toList after) w := by
  refine upholds_seq (processRecallTask_secures _ named closed) fun outcome _ first _ _ => ?_
  -- The claim has closed the task, and nothing later opens it again.
  have ended : ∀ {w : World} (failure : Option Status) (outcome : Except Status Nat),
      w.metadata.RecallClosed task.id →
      (contract svc env).Upholds (pure (failure, some (task, outcome)))
        (fun step after => ProcessedClosed step.2.toList after) w := by
    intro w failure outcome closed later change _ step mem
    simp only [Option.toList_some, List.mem_singleton] at mem
    rw [mem]
    exact change.recalls _ closed
  split
  · exact ended _ _ (first.recalls _ closed)
  · rename_i status _
    have finalized : ∀ {w : World}, (contract svc env).Secured
        (if isRetriableRecallProcessingError status then retryRecallTaskLater task status.message
          else markRecallFailed task status.message) w := by
      split
      · exact retryRecallTaskLater_secures _ _
      · exact markRecallFailed_secures _ _
    refine upholds_seq finalized fun result _ second _ _ => ?_
    split <;> exact ended _ _ (second.recalls _ (first.recalls _ closed))

/-- A task that was processed is closed. -/
theorem recallTask_upholds (named : Named task) :
    (contract svc env).Upholds (recallTask s task)
      (fun step after => ProcessedClosed step.2.toList after) w := by
  have nothing : ∀ {w : World} (failure : Option Status),
      (contract svc env).Upholds (pure (failure, none))
        (fun step after => ProcessedClosed step.2.toList after) w := by
    intro w failure later _ _ step mem
    simp at mem
  refine upholds_seq upholds_locally fun acquired _ _ _ _ => ?_
  split
  · refine upholds_seq upholds_locally fun _ _ _ _ _ => ?_
    refine upholds_seq (claimRecallTask_secures named) fun claimed _ _ _ closed => ?_
    -- Giving back the locks changes nothing in the catalogue.
    have released : ∀ {w : World} (step : Option Status × Option Processed),
        ProcessedClosed step.2.toList w →
        (contract svc env).Upholds (do
          releaseRecallTask s (phase1RecallTaskKey task)
          releaseTapeLease s task.tapeId
          pure step) (fun step after => ProcessedClosed step.2.toList after) w := by
      intro w step closed
      refine upholds_seq upholds_locally fun _ _ first _ _ => ?_
      refine upholds_seq upholds_locally fun _ _ second _ _ => ?_
      intro later third _ processed mem
      exact ((first.trans second).trans third).recalls _ (closed processed mem)
    split
    iterate 2 exact upholds_seq (nothing _) fun step _ _ _ closed => released step closed
    · rename_i found
      obtain ⟨named, same, claimed⟩ := closed _ rfl found rfl
      exact upholds_seq (recallClaimed_upholds s named (same ▸ claimed))
        fun step _ _ _ closed => released step closed
  · exact nothing _

/-- So are all tasks that were processed. -/
theorem recallTasks_upholds (tasks : List RecallTask) :
    ∀ (result : RecallBatchResult) (processed : List Processed) {w : World},
      (∀ task ∈ tasks, Named task) → ProcessedClosed processed w →
      (contract svc env).Upholds (recallTasks s tasks result processed)
        (fun batch after => ProcessedClosed batch.processed after) w := by
  -- Induction on the tasks that are left: those already processed stay closed.
  induction tasks with
  | nil =>
    intro result processed w _ closed later change _ step mem
    exact change.recalls _ (closed step mem)
  | cons task rest ih =>
    intro result processed w named closed
    refine upholds_seq upholds_locally fun _ _ first _ _ => ?_
    refine upholds_seq (recallTask_upholds s (named task (by simp)))
      fun step _ second _ stepped => ?_
    refine upholds_seq upholds_locally fun _ after third _ _ => ?_
    have both : ProcessedClosed (processed ++ step.2.toList) after := by
      intro item mem
      rcases List.mem_append.mp mem with old | new
      · exact ((first.trans second).trans third).recalls _ (closed item old)
      · exact third.recalls _ (stepped item new)
    split
    · intro later change _ item mem
      exact change.recalls _ (both item mem)
    · exact ih _ _ (fun task mem => named task (List.mem_cons_of_mem _ mem)) both

/-- A recall batch closes what it processes. -/
theorem recallPendingBatch_upholds (limit : Nat) :
    (contract svc env).Upholds (recallPendingBatch s limit)
      (fun batch after => ProcessedClosed batch.processed after) w := by
  -- Tasks are stored under their own names, so the listed ones carry them.
  have listing : (contract svc env).Secures (askMetadata .listPendingRecallTasks)
      (fun (tasks : List RecallTask) _ => ∀ task ∈ tasks, Named task) w := by
    refine secures_askMetadata (fun _ _ _ => trivial) ?_
    rintro later _ _ _ inOrder ⟨⟩ _ task mem
    simp only [listPendingRecallTasks, List.mem_filter] at mem
    obtain ⟨id, stored⟩ := (HashMap.mem_values _ _).mp mem.1
    exact inOrder.orderly.named id task stored
  refine upholds_seq listing fun listed _ _ _ named => ?_
  cases listed with
  | error status =>
    intro later _ _ step mem
    cases mem
  | ok tasks =>
    refine recallTasks_upholds s _ {} [] (fun task mem => ?_) (by simp [ProcessedClosed])
    have sorted := (List.mem_insertionSort _).mp (List.mem_of_mem_take mem)
    exact named tasks rfl task (List.mem_filter.mp sorted).1

/-! The requests of clients. -/

/-- A restore keeps to the contract. -/
theorem restoreObject_secures (days : Nat) (tier : RestoreTier) :
    (contract svc env).Secured (restoreObject bucket key days tier) w := by
  have fetched : (contract svc env).Secures (askMetadata (.getObject bucket key))
      (fun (obj : ObjectMetadata) _ => obj.versionId = none) w := by
    refine secures_askMetadata (fun _ _ _ => trivial) fun later _ obj _ inOrder found _ => ?_
    have same := (findObject_plain inOrder.keys inOrder.orderly found).1
    exact congrArg ObjectKey.versionId same
  refine secures_bind fetched fun obj _ _ _ plain => ?_
  refine secures_bind secures_checked fun _ _ _ _ _ => ?_
  refine secures_bind secures_checked fun _ _ _ _ _ => ?_
  -- The task that is put names the object it was made for, which has no version.
  have begun : ∀ {w : World}, (contract svc env).Secured
      (beginRestore bucket key obj days tier) w := by
    intro w
    refine secures_bind secures_checked fun place _ _ _ _ => ?_
    refine secures_bind secures_now fun now _ _ _ _ => ?_
    refine secures_bind (updateObjectRestoreStatus_secures _ _ _ (by decide)) fun _ _ _ _ _ => ?_
    refine secures_bind secures_now fun now _ _ _ _ => ?_
    refine secures_bind (secures_tried (secures_applied fun _ _ _ => ?_)) fun answer _ _ _ _ => ?_
    · simp [Permitted, Named, restoreTask, plain]
    · split
      · exact secured_pure
      · exact secures_bind (secures_tried (updateObjectRestoreStatus_secures _ _ _ (by decide)))
          fun _ _ _ _ _ => secures_throw
  split
  · exact secured_pure
  · exact secured_pure
  · exact secured_pure
  · exact secured_pure
  · exact secures_throw
  · exact secures_throw
  · exact begun
  · exact begun

/-- What is known when a request has ended. -/
def Ended (outcome : Outcome) (after : World) : Prop :=
  match outcome with
  | .recalled batch => ProcessedClosed batch.processed after
  | _ => True

/-- Every request keeps to the contract. -/
theorem start_upholds (req : Request) (w : World) :
    (contract svc env).Upholds (start req) Ended w := by
  -- Most requests only have to leave the contract standing, whatever they answer.
  have plain : ∀ {α : Type} {task : Task Status α} (report : Except Status α → Outcome),
      (∀ answer after, Ended (report answer) after) →
      (contract svc env).Secures task (fun _ _ => True) w →
        (contract svc env).Upholds (report <$> attempt task) Ended w :=
    fun report ended secured => upholds_map (Upholds.mono (fun _ _ _ => ended _ _) secured)
  cases req with
  | createBucket bucket =>
    exact plain _ (fun _ _ => trivial) (secures_harmless (only_try (only_lift only_locally)
      fun _ => only_askMetadata))
  | deleteBucket bucket =>
    exact plain _ (fun _ _ => trivial) (secures_harmless only_askMetadata)
  | headBucket bucket =>
    exact plain _ (fun _ _ => trivial)
      (secures_harmless (only_try only_askMetadata fun _ => only_pure _))
  | putObject bucket key body contentType =>
    exact plain _ (fun _ _ => trivial) (putObject_secures bucket key body contentType)
  | getObject bucket key =>
    refine plain _ (fun _ _ => trivial) (secures_harmless (only_try only_askMetadata
      fun obj => only_try ?_ fun _ => only_pure _))
    exact only_try (only_checked _) fun _ => only_try (only_mapErr only_askCache)
      fun _ => only_checked _
  | deleteObject bucket key =>
    refine plain _ (fun _ _ => trivial) (secures_harmless (only_try only_askMetadata
      fun _ => only_lift ?_))
    exact Program.only_bind only_askCache fun _ =>
      Program.only_bind only_askCache fun _ => trivial
  | restoreObject bucket key days tier =>
    exact plain _ (fun _ _ => trivial) (restoreObject_secures bucket key days tier)
  | archiveStagingBatch s client limit =>
    exact plain _ (fun _ _ => trivial) (archiveStagingBatch_secures s client limit)
  | recallPendingBatch s limit => exact upholds_map (recallPendingBatch_upholds s limit)

/-- The contract is kept in every interleaving, whatever is lost on the way to the services. -/
theorem contract_kept {system : System} (kept : (contract svc env).Kept (fun _ => Ended) system)
    (events : List (Event Request)) :
    (contract svc env).Kept (fun _ => Ended)
        (system.after (machine svc env) start events) ∧ Advances system.world.metadata
        (system.after (machine svc env) start events).world.metadata :=
  kept_after (fun _ => True) (fun req w _ _ => start_upholds req w) events system kept (by simp)

/-- The contract is kept in every system that is reached from a world in order. -/
theorem reached_kept (svc : CacheService) (env : Nat → Moment) (inOrder : InOrder w)
    (events : List (Event Request)) : (contract svc env).Kept (fun _ => Ended)
      (reached svc env w events) := by
  have first : (contract svc env).Kept (fun _ => Ended) (⟨w, []⟩ : System) :=
    ⟨inOrder, by simp⟩
  exact (contract_kept first events).1

/--
A deployment stays in order, and its tasks go forward, in every interleaving of requests.

Whatever calls fail or are lost on the way to the services, from the first event on.
-/
theorem deployment_stays_in_order (svc : CacheService) (env : Nat → Moment) (buckets : List String)
    (cacheBytes : Nat) (tape : SimulatorState) (events later : List (Event Request)) :
    let w := World.fresh buckets cacheBytes tape
    InOrder (reached svc env w events).world ∧
      Advances (reached svc env w events).world.metadata
        (reached svc env w (events ++ later)).world.metadata := by
  intro w
  have kept := reached_kept svc env (fresh_inOrder buckets cacheBytes tape) events
  refine ⟨kept.1, ?_⟩
  rw [reached, reached, Config.after_append]
  exact (contract_kept kept later).2

omit [Sha256] in
/-- The deployment with one tape stays in order. -/
theorem oneTapeAfter_inOrder (env : Nat → Moment) (events : List (Event Request)) :
    @InOrder shortDigests (oneTapeAfter env events).world := by
  let := shortDigests
  rw [oneTapeAfter]
  exact (reached_kept (.even (2 ^ 30)) env (fresh_inOrder _ _ _) events).1

end ColdStore.Scheduler
