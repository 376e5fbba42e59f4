import ColdStore.Metadata.ApplyLaws
import ColdStore.Metadata.Queries

/-! Tasks that have left the queue for good: no status change leads back to waiting. -/

namespace ColdStore

open Rust

/-- The restore statuses from which nothing leads back to waiting. -/
def RestoreStatus.closed : RestoreStatus → Bool
  | .restoreInProgress | .restoreCompleted | .restoreExpired | .restoreFailed => true
  | _ => false

variable {current next : RestoreStatus}

/-- What may follow a closed status is closed. -/
theorem RestoreStatus.closed_of_follows (closed : current.closed = true)
    (follows : restoreMayFollow current next = true) : next.closed = true := by
  revert closed follows
  cases current <;> cases next <;> decide

/-- The stages of a restore, in the order in which they are gone through. -/
def RestoreStatus.stage : RestoreStatus → Nat
  | .unspecified => 0
  | .restorePending => 1
  | .restoreWaitingForMedia => 2
  | .restoreInProgress => 3
  | .restoreCompleted | .restoreFailed => 4
  | .restoreExpired => 5

/-- The stage of a recorded restore status, where none at all is the first. -/
def restoreStage (status : Option Int) : Nat :=
  ((status.bind (tryFrom RestoreStatus)).map RestoreStatus.stage).getD 0

@[simp] theorem restoreStage_number (status : RestoreStatus) :
    restoreStage (some status.number) = status.stage := by
  have known : tryFrom RestoreStatus status.number = some status := tryFrom_number status
  simp [restoreStage, known]

/-- A change that is accepted between two statuses is one that may follow. -/
theorem mayFollow_of_valid
    (valid : validateRestoreTransition (some current.number) next.number = .ok ()) :
    restoreMayFollow current next = true := by
  have known : ∀ mem : RestoreStatus, tryFrom RestoreStatus mem.number = some mem :=
    fun mem => tryFrom_number mem
  simp only [validateRestoreTransition, bind_eq_ok, okOr_eq_ok, ensure_eq_ok, Option.bind_some,
    known, Option.some.injEq] at valid
  obtain ⟨_, rfl, follows⟩ := valid
  exact follows

/-- Without a wait for a tape, what may follow a status is a later stage. -/
theorem RestoreStatus.stage_lt (follows : restoreMayFollow current next = true)
    (waits : current ≠ .restoreWaitingForMedia) (told : next ≠ .unspecified)
    (known : current ≠ .unspecified) : current.stage < next.stage := by
  revert follows waits told known
  cases current <;> cases next <;> decide

/-- A recall task that cannot wait to be claimed again. -/
def RecallTask.Closed (task : RecallTask) : Prop :=
  ∃ status : RestoreStatus, task.status = ProtoEnum.number status ∧ status.closed = true

theorem RecallTask.Closed.not_pending {task : RecallTask} (closed : task.Closed) :
    isPendingRestoreStatus task.status = false := by
  obtain ⟨status, number, closed⟩ := closed
  rw [number, isPendingRestoreStatus, tryFrom_number]
  revert closed
  cases status <;> decide

/-- An accepted change of a closed recall task leaves it closed. -/
theorem RecallTask.Closed.of_transition {current next : RecallTask} (closed : current.Closed)
    (accepted : validateRestoreTransition (some current.status) next.status = .ok ()) :
    next.Closed := by
  obtain ⟨status, number, closed⟩ := closed
  simp only [validateRestoreTransition, bind_eq_ok, okOr_eq_ok, ensure_eq_ok, Option.bind_some,
    number, tryFrom_number] at accepted
  obtain ⟨following, same, follows⟩ := accepted
  exact ⟨following, tryFrom_eq_some.mp same, status.closed_of_follows closed follows⟩

namespace MetadataState

/-- The recall task with an id is there and cannot wait to be claimed again. -/
def RecallClosed (s : MetadataState) (id : String) : Prop :=
  ∃ task, s.recallTasks.get id = some task ∧ task.Closed

/-- The archive task with an id is there and has been claimed. -/
def ArchiveStarted (s : MetadataState) (id : String) : Prop :=
  ∃ task, s.archiveTasks.get id = some task ∧
    task.status ≠ ArchiveTaskStatus.archiveTaskPending.number

/-- A closed task is none of those that wait to be claimed. -/
theorem RecallClosed.not_listed {s : MetadataState} {id : String} (closed : s.RecallClosed id)
    (keys : s.KeysAgree) : ∀ task ∈ s.listPendingRecallTasks, task.id ≠ id := by
  rintro task listed rfl
  obtain ⟨stored, found, closed⟩ := closed
  simp only [listPendingRecallTasks, List.mem_filter] at listed
  obtain ⟨key, present⟩ := (HashMap.mem_values _ _).mp listed.1
  have same : key = task.id := HashMap.keyed_iff.mp keys.recallTasks key task present
  rw [← same, present, Option.some.injEq] at found
  rw [found, closed.not_pending] at listed
  exact absurd listed.2 (by simp)

/-- Tasks go forward: what is closed stays closed, and what has been claimed stays claimed. -/
structure Advances (before after : MetadataState) : Prop where
  recalls : ∀ id, before.RecallClosed id → after.RecallClosed id
  archives : ∀ id, before.ArchiveStarted id → after.ArchiveStarted id

theorem Advances.refl (s : MetadataState) : Advances s s := ⟨fun _ => id, fun _ => id⟩

theorem Advances.trans {first second third : MetadataState} (left : Advances first second)
    (right : Advances second third) : Advances first third :=
  ⟨fun id closed => right.recalls id (left.recalls id closed),
    fun id started => right.archives id (left.archives id started)⟩

end MetadataState

end ColdStore
