import ColdStore.Metadata.Tasks
import ColdStore.Scheduler.RecallPass

/-! Claims of recall tasks that are not granted, and what they leave of the task. -/

namespace ColdStore.Scheduler

open Rust Process Program

/-- The task a claim is about: the stored one, or the one it brings along. -/
def claimable (s : MetadataState) (task : RecallTask) : RecallTask :=
  (s.recallTasks.get task.id).getD task

/-- The status a recall task is stored with. -/
def recallStatus (s : MetadataState) (id : String) : Option Int :=
  (s.recallTasks.get id).map RecallTask.status

/-- The latest version of an object may be marked as being restored. -/
def MayBegin (s : MetadataState) (bucket key : String) : Prop :=
  ∃ place obj, findObjectMut s bucket key none = .ok (place, obj) ∧
    validateRestoreTransition obj.restoreStatus RestoreStatus.restoreInProgress.number = .ok ()

/--
A claim takes a task over and cannot mark its object afterwards.

A task is taken over under its own id.
-/
def Strands (s : MetadataState) (task : RecallTask) : Prop :=
  (claimable s task).id = task.id ∧
    isPendingRestoreStatus (claimable s task).status = true ∧
    ¬ MayBegin s (claimable s task).bucket (claimable s task).key

/-- A status that waits to be claimed can be followed by work in progress, and is another one. -/
theorem pending_may_begin {status : Int} (pending : isPendingRestoreStatus status = true) :
    (∃ current : RestoreStatus, status = current.number ∧
      restoreMayFollow current .restoreInProgress = true) ∧
      status ≠ RestoreStatus.restoreInProgress.number := by
  simp only [isPendingRestoreStatus] at pending
  -- Two statuses count as pending, and both may be followed by progress.
  split at pending
  · rename_i known
    rw [tryFrom_eq_some] at known
    subst known
    exact ⟨⟨.restorePending, rfl, rfl⟩, by decide⟩
  · rename_i known
    rw [tryFrom_eq_some] at known
    subst known
    exact ⟨⟨.restoreWaitingForMedia, rfl, rfl⟩, by decide⟩
  · cases pending

/-- A task is in the catalogue as it was, or as the claim brought it along. -/
structure Brought (task : RecallTask) (before after : MetadataState) (stored : RecallTask) :
    Prop where
  objects : after.objects = before.objects
  found : after.recallTasks.get task.id = some stored
  id : stored.id = (claimable before task).id
  bucket : stored.bucket = (claimable before task).bucket
  key : stored.key = (claimable before task).key
  status : stored.status = (claimable before task).status

section

variable {svc : CacheService} {env : Nat → Moment} (calm : Calm env) {w : World}

include calm

/-- Putting a task once leaves it in the catalogue. -/
theorem putRecallTaskOnce_brings (task : RecallTask) :
    Succeeds (machine svc env) (putRecallTaskOnce task)
      (fun _ after => ∃ stored, Brought task w.metadata after.metadata stored) w := by
  -- A task that is there is left as it is; one that is missing is stored with its creation time.
  cases present : w.metadata.recallTasks.get task.id with
  | some stored =>
    refine (putRecallTaskOnce_present calm present).mono fun _ after idle => ⟨stored, ?_⟩
    have current : claimable w.metadata task = stored := by simp [claimable, present]
    rw [idle.metadata]
    exact ⟨rfl, present, by rw [current], by rw [current], by rw [current], by rw [current]⟩
  | none =>
    have current : claimable w.metadata task = task := by simp [claimable, present]
    have put : (applied (.putRecallTask task)).run.Achieves (machine svc env)
        (fun result after => result = .ok () ∧
          ∃ stored, Brought task w.metadata after.metadata stored) w := by
      refine achieves_applied calm fun clock tick => ?_
      rw [applyCommand, putRecallTask_absent _ present]
      refine ⟨rfl, { task with createdAt := task.createdAt.or (some (ColdStore.nowTimestamp clock)) },
        rfl, HashMap.get_insert_self _ _ _, ?_, ?_, ?_, ?_⟩ <;> rw [current]
    refine succeeds_bind (succeeds_lift put) fun answer after met => ?_
    obtain ⟨rfl, brought⟩ := met
    exact succeeds_pure brought

/-- Marking an object leaves the tasks alone, and fails only for an object that may not be marked. -/
theorem updateObjectRestoreStatus_begins (bucket key : String) (expireAt : Option Timestamp) :
    (updateObjectRestoreStatus bucket key .restoreInProgress expireAt).run.Achieves
      (machine svc env)
      (fun result after => after.metadata.recallTasks = w.metadata.recallTasks ∧
        (result = .ok () ∨ ¬ MayBegin w.metadata bucket key)) w := by
  refine achieves_applied calm fun clock tick => ?_
  refine ⟨(applyCommand_tasksKept clock w.metadata _ rfl).recallTasks, ?_⟩
  by_cases may : MayBegin w.metadata bucket key
  · obtain ⟨place, obj, found, valid⟩ := may
    rw [applyCommand, updateRestoreStatus_accepted expireAt found valid]
    exact .inl rfl
  · exact .inr may

variable {current : RecallTask}

/-- A task that is taken over is in progress, though its object may refuse to be. -/
theorem startRecallTask_takes (present : w.metadata.recallTasks.get current.id = some current)
    (pending : isPendingRestoreStatus current.status = true) :
    (startRecallTask current).run.Achieves (machine svc env)
      (fun result after => (∀ claimed, result ≠ .ok (some claimed)) →
        ¬ MayBegin w.metadata current.bucket current.key ∧
          recallStatus after.metadata current.id = some RestoreStatus.restoreInProgress.number)
      w := by
  refine achieves_after succeeds_now fun now first idle => ?_
  rw [← idle.metadata] at present ⊢
  obtain ⟨⟨status, known, follows⟩, _⟩ := pending_may_begin pending
  have claims : Succeeds (machine svc env)
      (updateRecallTask (claimedRecall current now))
      (fun _ after => CatalogueOnly first after ∧ after.metadata = { first.metadata with
        recallTasks := first.metadata.recallTasks.insert current.id
          (claimedRecall current now) }) first :=
    updateRecallTask_succeeds calm status .restoreInProgress present known rfl follows
  refine achieves_after (succeeds_lift claims) fun answer second met => ?_
  obtain ⟨_, rfl, _, metadata⟩ := met
  -- The task is taken over by now, whatever comes of its object.
  refine achieves_try (updateObjectRestoreStatus_begins calm _ _ _) (fun _ third _ => ?_)
    fun status third met => ?_
  · exact fun refused => absurd rfl (refused _)
  · obtain ⟨tasks, refused⟩ := met
    intro _
    have same : MayBegin second.metadata current.bucket current.key ↔
        MayBegin first.metadata current.bucket current.key := by
      simp only [MayBegin, findObjectMut_of_objects
        (show second.metadata.objects = first.metadata.objects by rw [metadata])]
    constructor
    · rw [← same]
      simpa using refused
    · rw [recallStatus, tasks, metadata, HashMap.get_insert_self]
      rfl

/-- A task that is stored under another name than its own is left alone. -/
theorem startRecallTask_misses {id : String}
    (present : w.metadata.recallTasks.get id = some current) (other : current.id ≠ id) :
    (startRecallTask current).run.Achieves (machine svc env)
      (fun result after => (∀ claimed, result ≠ .ok (some claimed)) →
        after.metadata.recallTasks.get id = some current) w := by
  refine achieves_after succeeds_now fun now first idle => ?_
  rw [← idle.metadata] at present
  -- The claim is written under the name in the record, which is another one.
  have spared : (updateRecallTask (claimedRecall current now)).run.Achieves
      (machine svc env)
      (fun _ after => after.metadata.recallTasks.get id = some current) first := by
    refine achieves_applied calm fun clock tick => ?_
    obtain kept | ⟨task, sent, named, _⟩ :=
      (applyCommand_recallTasks clock first.metadata _).at_id present
    · exact kept
    · obtain rfl := MetadataCommand.updateRecallTask.inj sent
      exact absurd named other
  refine achieves_after (succeeds_lift spared) fun answer second found => ?_
  cases answer with
  | error status =>
    dsimp only
    split
    · exact fun _ => found
    · exact fun _ => found
  | ok _ =>
    refine achieves_try (updateObjectRestoreStatus_begins calm _ _ _) (fun _ third _ => ?_)
      fun status third met => ?_
    · exact fun refused => absurd rfl (refused _)
    · exact fun _ => met.1 ▸ found

/-- A task that is taken over and not granted keeps its status, unless its object is in the way. -/
theorem startRecallTask_strands {id : String}
    (present : w.metadata.recallTasks.get id = some current)
    (pending : isPendingRestoreStatus current.status = true) :
    (startRecallTask current).run.Achieves (machine svc env)
      (fun result after => (∀ claimed, result ≠ .ok (some claimed)) →
        (recallStatus after.metadata id = some current.status ↔
          ¬ (current.id = id ∧ ¬ MayBegin w.metadata current.bucket current.key))) w := by
  -- A claim moves the task it is named after, before the object is asked for.
  by_cases own : current.id = id
  · subst own
    refine (startRecallTask_takes calm present pending).mono fun result after met refused => ?_
    obtain ⟨stuck, moved⟩ := met refused
    have ne := (pending_may_begin pending).2
    rw [moved]
    refine ⟨fun same => ?_, fun unstuck => absurd ⟨rfl, stuck⟩ unstuck⟩
    exact absurd (Option.some.inj same).symm ne
  · refine (startRecallTask_misses calm present own).mono fun result after met refused => ?_
    have stays : recallStatus after.metadata id = some current.status := by
      rw [recallStatus, met refused]
      rfl
    exact iff_of_true stays fun both => own both.1

/--
A claim that is not granted leaves the status of its task, unless its object is in the way.

The task is taken over first. An object that was deleted or has come too far to be restored fails
the claim afterwards, and nothing puts the task back.
-/
theorem recall_claim_undone_iff (task : RecallTask) :
    (claimRecallTask task).run.Achieves (machine svc env)
      (fun result after => (∀ claimed, result ≠ .ok (some claimed)) →
        (recallStatus after.metadata task.id = some (claimable w.metadata task).status ↔
          ¬ Strands w.metadata task)) w := by
  refine achieves_after (putRecallTaskOnce_brings calm task) fun _ first met => ?_
  obtain ⟨stored, brought⟩ := met
  refine achieves_after (getRecallTask_succeeds calm brought.found) fun current second met => ?_
  obtain ⟨rfl, idle⟩ := met
  have kept : recallStatus second.metadata task.id =
      some (claimable w.metadata task).status := by
    rw [recallStatus, idle.metadata, brought.found, ← brought.status]
    rfl
  have may : MayBegin second.metadata current.bucket current.key ↔
      MayBegin w.metadata (claimable w.metadata task).bucket (claimable w.metadata task).key := by
    simp only [MayBegin, brought.bucket, brought.key, findObjectMut_of_objects
      (show second.metadata.objects = w.metadata.objects by
        rw [idle.metadata, brought.objects])]
  -- A task that does not wait to be claimed is left as it is.
  have settled : isPendingRestoreStatus current.status = false →
      (recallStatus second.metadata task.id = some (claimable w.metadata task).status ↔
        ¬ Strands w.metadata task) := by
    intro settled
    refine iff_of_true kept fun strands => ?_
    rw [Strands, ← brought.status, settled] at strands
    exact absurd strands.2.1 (by simp)
  have started : isPendingRestoreStatus current.status = true →
      (startRecallTask current).run.Achieves (machine svc env)
        (fun result after => (∀ claimed, result ≠ .ok (some claimed)) →
          (recallStatus after.metadata task.id = some (claimable w.metadata task).status ↔
            ¬ Strands w.metadata task)) second := by
    intro pending
    have present : second.metadata.recallTasks.get task.id = some current := by
      rw [idle.metadata, brought.found]
    refine (startRecallTask_strands calm present pending).mono fun result after met refused => ?_
    rw [Strands, ← brought.id, ← brought.status, pending, ← may]
    simpa using met refused
  cases known : tryFrom RestoreStatus current.status with
  | none => exact fun _ => settled (by simp [isPendingRestoreStatus, known])
  | some status =>
    cases status with
    | restorePending | restoreWaitingForMedia =>
      exact started (by simp [isPendingRestoreStatus, known])
    | restoreCompleted | restoreExpired | restoreInProgress | restoreFailed | unspecified =>
      exact fun _ => settled (by simp [isPendingRestoreStatus, known])

end

/-- A recall task with a status. -/
def recallOf (status : RestoreStatus) : RecallTask :=
  { id := "phase1-recall:docs/a", bucket := "docs", key := "a", status := status.number }

/-- The one tape deployment with a recall task, and without the object it is about. -/
def orphanedWorld (status : RestoreStatus) : World :=
  { oneTapeWorld with metadata := { oneTapeWorld.metadata with
      recallTasks := HashMap.empty.insert "phase1-recall:docs/a" (recallOf status) } }

/-- A task that has failed is not claimed, and stays failed. -/
theorem recall_claim_undone_failed :
    ∃ after, (claimRecallTask (recallOf .restoreFailed)).run.run quietMachine
        (orphanedWorld .restoreFailed) = some (.ok none, after) ∧
      recallStatus after.metadata "phase1-recall:docs/a" =
        some RestoreStatus.restoreFailed.number := by
  obtain ⟨result, after, ran, met⟩ := achieves_iff_run.mp
    (@recall_claim_undone_iff (.even (2 ^ 30)) (still 0) (fun _ => rfl)
      (orphanedWorld .restoreFailed) (recallOf .restoreFailed))
  -- The claim is refused, and nothing strands a task that has failed already.
  have refused : ((claimRecallTask (recallOf .restoreFailed)).run.run
      quietMachine (orphanedWorld .restoreFailed)).map Prod.fst =
        some (.ok none) := by decide +kernel
  rw [ran, Option.map_some, Option.some.injEq] at refused
  obtain rfl : result = .ok none := refused
  refine ⟨after, ran, (met fun claimed => by simp).mpr fun strands => ?_⟩
  exact absurd strands.2.1 (by decide)

/-- A task whose object was deleted is taken over by a claim that fails. -/
theorem recall_claim_strands_task :
    recallStatus (orphanedWorld .restorePending).metadata "phase1-recall:docs/a" =
        some RestoreStatus.restorePending.number ∧
      ∃ after, (claimRecallTask (recallOf .restorePending)).run.run
          quietMachine (orphanedWorld .restorePending) =
            some (.error (.notFound "object not found"), after) ∧
        recallStatus after.metadata "phase1-recall:docs/a" =
          some RestoreStatus.restoreInProgress.number := by
  refine ⟨by decide +kernel, ?_⟩
  have run : ((claimRecallTask (recallOf .restorePending)).run.run
      quietMachine (orphanedWorld .restorePending)).map (fun ended =>
        (ended.1, recallStatus ended.2.metadata "phase1-recall:docs/a")) =
          some (.error (.notFound "object not found"),
            some RestoreStatus.restoreInProgress.number) := by decide +kernel
  obtain ⟨⟨result, after⟩, ran, ended⟩ := Option.map_eq_some_iff.mp run
  obtain ⟨rfl, moved⟩ := Prod.mk.inj ended
  exact ⟨after, ran, moved⟩

end ColdStore.Scheduler
