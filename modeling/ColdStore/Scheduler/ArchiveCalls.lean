import ColdStore.Scheduler.System

/-! The calls an archive worker can make, whatever answers it gets. -/

namespace ColdStore.Scheduler

open Rust Process

/-- The calls of an archive worker. -/
def WorkerCall : Call → Prop
  | .metadata (.headObject _ _) | .metadata (.getArchiveTask _) => True
  | .metadata (.apply (.putArchiveTask _)) | .metadata (.apply (.updateArchiveTask _)) => True
  -- Objects change only by being archived.
  | .metadata (.apply (.completeArchiveObject req)) =>
    req.storageClass = StorageClass.cold.number
  | .cache (.listStagingKeys _ _) | .cache (.getStaging _) | .cache (.deleteStaging _) => True
  | .tape _ | .here _ => True
  | _ => False

/-- A tape call that loads no other tape than the named one. -/
def TapeRequest.LoadsOnly (tapeId : String) : TapeRequest → Prop
  | .loadTape named _ _ => named = tapeId
  | _ => True

/-- The calls of an archive worker that writes to the named tape. -/
def ArchiveCall (tapeId : String) : Call → Prop
  | .tape call => call.LoadsOnly tapeId
  | .here .now | .here (.acquireArchiveItem _ _) | .here (.releaseArchiveItem _ _) => True
  | .here _ => False
  | call => WorkerCall call

theorem ArchiveCall.worker {tapeId : String} (call : Call) (admitted : ArchiveCall tapeId call) :
    WorkerCall call := by
  cases call with
  | metadata | cache => exact admitted
  | tape | here => trivial

/-- Only what is named, and seen to wait for it, is recorded as archived. -/
def CompletesWaiting (named : String → String → Prop) : Call → Prop
  | .metadata (.apply (.completeArchiveObject req)) =>
    req.expectedStorageClass = some StorageClass.coldPending.number ∧ named req.bucket req.key
  | _ => True

/-- The calls of an archive worker, which archives what waits for it among named objects. -/
structure CarefulCall (tapeId : String) (named : String → String → Prop) (call : Call) : Prop where
  archive : ArchiveCall tapeId call
  waiting : CompletesWaiting named call

section

variable {allowed : Call → Prop} {ε δ α : Type}

theorem only_askMetadata {call : MetadataCall}
    (admitted : allowed (.metadata call) := by
      first | trivial | exact ⟨trivial, trivial⟩ | rintro _ ⟨⟩) :
    (askMetadata call).run.Only allowed := Program.only_perform admitted

theorem only_askCache {call : CacheCall}
    (admitted : allowed (.cache call) := by
      first | trivial | exact ⟨trivial, trivial⟩ | rintro _ ⟨⟩) :
    (askCache call).run.Only allowed := Program.only_perform admitted

theorem only_askTape {call : TapeRequest} (admitted : allowed (.tape call)) :
    (askTape call).run.Only allowed := Program.only_perform admitted

theorem only_locally {call : LocalCall}
    (admitted : allowed (.here call) := by
      first | trivial | exact ⟨trivial, trivial⟩ | rintro _ ⟨⟩) :
    (locally call).Only allowed := Program.only_perform admitted

theorem only_checked (result : Except ε α) : (checked result).run.Only allowed := trivial

theorem only_throw (failure : ε) : (throw failure : Task ε α).run.Only allowed := trivial

/-- What comes after a check is reached only if the check passes. -/
theorem only_passing {β : Type} {result : Except ε α} {rest : α → Task ε β}
    (passes : ∀ value, result = .ok value → (rest value).run.Only allowed) :
    (checked result >>= rest).run.Only allowed := by
  cases result with
  | ok value => exact passes value rfl
  | error failure => exact only_throw failure

theorem only_pure (value : α) : (pure value : Task ε α).run.Only allowed := trivial

theorem only_tried {task : Task ε α} (only : task.run.Only allowed) :
    (tried task : Task δ (Except ε α)).run.Only allowed := only_lift only

theorem only_mapErr {task : Task ε α} {change : ε → δ} (only : task.run.Only allowed) :
    (mapErr change task).run.Only allowed := Program.only_bind only fun _ => trivial

theorem acquireAndLoadTape_only {tapeId : String}
    (tape : ∀ call : TapeRequest, call.LoadsOnly tapeId → allowed (.tape call)) (driveId : String) :
    (acquireAndLoadTape driveId tapeId).run.Only allowed := by
  refine only_try (only_askTape (tape _ trivial)) fun acquired => only_try ?_ fun _ => only_pure _
  rw [loadUnlessLoaded]
  split
  · exact only_askTape (tape _ rfl)
  · exact only_pure ()

theorem writeBundle_only {client : TapeArchiveClient}
    (tape : ∀ call : TapeRequest, call.LoadsOnly client.tapeId → allowed (.tape call))
    (bundleId : String) (count : Nat) (data : Bytes) :
    (client.writeBundle bundleId count data).run.Only allowed := by
  refine only_try (acquireAndLoadTape_only tape _) fun driveId => ?_
  refine only_try (only_tried (only_askTape (tape _ trivial))) fun response => ?_
  refine only_try (only_lift (Program.only_bind (only_askTape (tape _ trivial)) fun _ => trivial))
    fun _ => ?_
  split
  · exact only_throw _
  · exact only_checked _

theorem recallExpiry_only (now : allowed (.here .now)) (task : RecallTask) :
    (recallExpiry task).Only allowed := by
  unfold recallExpiry
  split
  · trivial
  · exact Program.only_bind (only_locally now) fun _ => trivial

theorem readBundle_only {tapeId : String}
    (tape : ∀ call : TapeRequest, call.LoadsOnly tapeId → allowed (.tape call)) (driveId : String)
    (filemark length : Nat) : (readBundle driveId tapeId filemark length).run.Only allowed := by
  refine only_try (acquireAndLoadTape_only tape _) fun driveId => ?_
  refine only_try (only_tried (only_askTape (tape _ trivial))) fun answer => ?_
  refine only_try (only_lift (Program.only_bind (only_askTape (tape _ trivial)) fun _ => trivial))
    fun _ => ?_
  split
  · exact only_throw _
  · exact only_checked _

end

section

variable {tapeId : String} {named : String → String → Prop}

variable (task : ArchiveTask)

/-- A task that is updated unless someone else has moved it. -/
private theorem updateArchiveTask_calls :
    (tried (δ := Status) (updateArchiveTask task)).run.Only (CarefulCall tapeId named) :=
  only_tried only_askMetadata

theorem claimArchiveTask_calls : (claimArchiveTask task).run.Only (CarefulCall tapeId named) := by
  refine only_try ?_ fun _ => only_try only_askMetadata fun current => ?_
  · refine only_try (only_tried only_askMetadata) fun answer => ?_
    split
    · exact only_pure _
    · split
      · exact only_throw _
      · exact only_pure _
  · split
    · exact only_throw _
    · exact only_pure _
    · exact only_pure _
    · exact only_pure _
    · refine only_try (only_lift only_locally) fun now => ?_
      refine only_try (updateArchiveTask_calls _) fun answer => ?_
      split
      · exact only_pure _
      · split
        · exact only_pure _
        · exact only_throw _
    · exact only_throw _

theorem finalizeArchiveTaskSuccess_calls (bytesWritten : Nat) :
    (finalizeArchiveTaskSuccess task bytesWritten).run.Only (CarefulCall tapeId named) := by
  refine only_try only_askMetadata fun current => ?_
  split
  · exact only_throw _
  · exact only_pure _
  · refine only_try (only_lift only_locally) fun now => ?_
    refine only_try (updateArchiveTask_calls _) fun answer => ?_
    split
    · exact only_pure _
    · split
      · exact only_throw _
      · exact only_pure _

theorem markArchiveTaskFailed_calls (error : String) :
    (markArchiveTaskFailed task error).run.Only (CarefulCall tapeId named) := by
  refine only_try only_askMetadata fun current => ?_
  split
  · exact only_throw _
  · exact only_pure _
  · exact only_pure _
  · exact only_try (only_lift only_locally) fun now => only_askMetadata

end

variable [Sha256] (s : SchedulerState) (client : TapeArchiveClient) {named : String → String → Prop}

/-- An object whose task is claimed is all that is archived under it. -/
theorem archiveClaimed_calls {entry : StagingKeyEntry} (listed : named entry.bucket entry.key)
    (bundleId : String) (obj : ObjectMetadata) (task : ArchiveTask) :
    (archiveClaimed client entry bundleId obj task).run.Only (CarefulCall client.tapeId named) := by
  refine only_try (only_try only_askCache fun _ => only_checked _) fun staged => ?_
  refine only_try (only_checked _) fun _ => ?_
  refine only_try (writeBundle_only (fun _ loads => ⟨loads, trivial⟩) _ _ _) fun write => ?_
  refine only_try (only_checked _) fun _ => ?_
  refine only_try only_askMetadata fun current => ?_
  refine only_passing fun _ waits => only_try (only_checked _) fun _ => ?_
  refine only_try (only_lift only_locally) fun now => ?_
  -- The completion asks for the storage class of archived objects, and expects the one just seen.
  have waiting : (completionRequest entry current (archivedBundle entry bundleId staged.data write now)
      write).expectedStorageClass = some StorageClass.coldPending.number :=
    congrArg some (by simpa using waits)
  refine only_try (only_askMetadata ⟨rfl, waiting, listed⟩) fun _ => ?_
  refine only_try only_askCache fun _ => ?_
  exact only_try (finalizeArchiveTaskSuccess_calls _ _) fun _ => only_pure _

theorem archiveEntry_calls {entry : StagingKeyEntry} (listed : named entry.bucket entry.key) :
    (archiveEntry s client entry).run.Only (CarefulCall client.tapeId named) := by
  refine only_try (only_mapErr only_askMetadata) fun obj => ?_
  refine only_try (only_lift (Program.only_bind only_locally fun _ => trivial)) fun task => ?_
  split
  · exact only_try (only_lift (Program.only_bind only_askCache fun _ => trivial))
      fun _ => only_pure _
  · refine only_try (only_mapErr (claimArchiveTask_calls _)) fun claimed => ?_
    split
    · exact only_pure _
    · exact only_try (only_mapErr (archiveClaimed_calls _ listed _ _ _)) fun _ => only_pure _

/-- A batch archives listed objects only. -/
theorem archiveEntries_calls {entries : List StagingKeyEntry}
    (listed : ∀ entry ∈ entries, named entry.bucket entry.key) (result : ArchiveBatchResult) :
    (archiveEntries s client entries result).run.Only (CarefulCall client.tapeId named) := by
  induction entries generalizing result with
  | nil => exact only_pure _
  | cons entry rest ih =>
    have ih := ih fun other mem => listed other (List.mem_cons_of_mem _ mem)
    refine only_try (only_lift only_locally) fun acquired => ?_
    split
    · refine only_try (only_tried (archiveEntry_calls _ _ (listed entry List.mem_cons_self)))
        fun archived => ?_
      split
      · exact only_try (only_lift only_locally) fun _ => ih _
      · rename_i status task
        cases task with
        | none => exact only_try (only_lift only_locally) fun _ => only_throw _
        | some task =>
          refine only_try (only_tried (markArchiveTaskFailed_calls _ _)) fun _ => ?_
          exact only_try (only_lift only_locally) fun _ => only_throw _
    · exact ih _

/-- An archive worker makes the calls of archive workers only, and uses one tape. -/
theorem archiveStagingBatch_only (limit : Nat) :
    (archiveStagingBatch s client limit).run.Only (ArchiveCall client.tapeId) := by
  refine only_try (only_try only_askCache fun _ => only_pure _) fun entries => ?_
  have calls : (archiveEntries s client entries {}).run.Only
      (CarefulCall client.tapeId fun _ _ => True) :=
    archiveEntries_calls s client (fun _ _ => trivial) {}
  exact calls.mono fun _ careful => careful.archive

end ColdStore.Scheduler
