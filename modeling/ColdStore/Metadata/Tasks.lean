import ColdStore.Metadata.Progress

/-! What a command does to the tasks: only an update changes a stored one, and only where it may go. -/

namespace ColdStore

open Rust

/-- What a command and its answer mean for a map of tasks. -/
inductive TaskEffect {τ : Type} (id : τ → String) (update : τ → MetadataCommand)
    (follows : τ → τ → Prop) (cmd : MetadataCommand) (answer : Except Status Unit)
    (before after : HashMap String τ) : Prop where
  /-- Nothing has changed, and no update was accepted. -/
  | kept (same : after = before)
      (refused : ∀ task, cmd = update task → answer ≠ .ok () := by rintro _ ⟨⟩ <;> rintro ⟨⟩)
  /-- A new task was stored. -/
  | stored (task : τ) (absent : before.get (id task) = none)
      (same : after = before.insert (id task) task)
      (other : ∀ updated, cmd ≠ update updated := by rintro _ ⟨⟩)
  /-- A stored task was replaced by one that may follow it. -/
  | updated (task current : τ) (sent : cmd = update task)
      (present : before.get (id task) = some current) (may : follows current task)
      (same : after = before.insert (id task) task)

section

variable {τ : Type} {id : τ → String} {update : τ → MetadataCommand} {follows : τ → τ → Prop}
  {cmd : MetadataCommand} {answer : Except Status Unit} {before after : HashMap String τ}

/-- What is stored under an id stays, or is replaced by an update that may follow it. -/
theorem TaskEffect.at_id (effect : TaskEffect id update follows cmd answer before after)
    {slot : String} {current : τ} (present : before.get slot = some current) :
    after.get slot = some current ∨ ∃ task, cmd = update task ∧ id task = slot ∧
      follows current task ∧ after.get slot = some task := by
  cases effect with
  | kept same => exact .inl (by rw [same, present])
  | stored task absent same =>
    -- A task is only created under an identifier that is free.
    have ne : id task ≠ slot := by
      rintro rfl
      simp [present] at absent
    exact .inl (by rw [same, HashMap.get_insert_ne _ _ ne.symm, present])
  | updated task found sent there may same =>
    by_cases named : id task = slot
    · subst named
      rw [present, Option.some.injEq] at there
      exact .inr ⟨task, sent, rfl, there ▸ may, by rw [same, HashMap.get_insert_self]⟩
    · exact .inl (by rw [same, HashMap.get_insert_ne _ _ (Ne.symm named), present])

/-- An update that was accepted replaced a task that it may follow. -/
theorem TaskEffect.accepted {task : τ} (injective : Function.Injective update)
    (effect : TaskEffect id update follows (update task) (.ok ()) before after) :
    (∃ current, before.get (id task) = some current ∧ follows current task) ∧
      after.get (id task) = some task := by
  cases effect with
  | kept _ refused => exact absurd rfl (refused task rfl)
  | stored _ _ _ other => exact absurd rfl (other task)
  | updated sentTask current sent present may same =>
    obtain rfl := injective sent
    exact ⟨⟨current, present, may⟩, by rw [same, HashMap.get_insert_self]⟩

end

/-- The commands about tasks. -/
def MetadataCommand.isTask : MetadataCommand → Bool
  | .putArchiveTask _ | .updateArchiveTask _ | .putRecallTask _ | .updateRecallTask _ => true
  | _ => false

/-- Neither map of tasks has changed. -/
structure TasksKept (before after : MetadataState) : Prop where
  archiveTasks : after.archiveTasks = before.archiveTasks
  recallTasks : after.recallTasks = before.recallTasks

variable (clock : Nat) (s : MetadataState) (cmd : MetadataCommand)

/-- Commands about anything else leave the tasks alone. -/
theorem applyCommand_tasksKept (other : cmd.isTask = false) :
    TasksKept s (applyCommand clock s cmd).2 := by
  have framed := applyCommand_framed clock s cmd
  cases cmd with
  | putArchiveTask _ | updateArchiveTask _ | putRecallTask _ | updateRecallTask _ => cases other
  | _ => exact ⟨framed.archiveTasks rfl, framed.recallTasks rfl⟩

/-- Archive tasks change by being put and updated only. -/
theorem applyCommand_archiveTasks :
    TaskEffect ArchiveTask.id .updateArchiveTask
      (fun current task => validateArchiveTaskTransition current.status task.status = .ok ())
      cmd (applyCommand clock s cmd).1 s.archiveTasks
      (applyCommand clock s cmd).2.archiveTasks := by
  have framed := applyCommand_framed clock s cmd
  cases cmd with
  | putArchiveTask task =>
    simp only [applyCommand, putArchiveTask]
    split
    · split <;> exact .kept rfl
    · rename_i absent
      exact .stored { task with createdAt := task.createdAt.or (some (nowTimestamp clock)) } absent rfl
  | updateArchiveTask task =>
    simp only [applyCommand, updateArchiveTask]
    -- An update is refused when the task is missing or its state may not follow.
    cases found : s.archiveTasks.get task.id with
    | none => exact .kept rfl
    | some current =>
      cases valid : validateArchiveTaskTransition current.status task.status with
      | error status =>
        simp only [okOr, Applied.given, valid]
        exact .kept rfl
      | ok _ =>
        simp only [okOr, Applied.given, valid]
        exact .updated task current rfl found valid rfl
  -- No other command writes archive tasks.
  | _ => exact .kept (framed.archiveTasks rfl)

/-- Recall tasks change by being put and updated only. -/
theorem applyCommand_recallTasks :
    TaskEffect RecallTask.id .updateRecallTask
      (fun current task => validateRestoreTransition (some current.status) task.status = .ok ())
      cmd (applyCommand clock s cmd).1 s.recallTasks
      (applyCommand clock s cmd).2.recallTasks := by
  have framed := applyCommand_framed clock s cmd
  cases cmd with
  | putRecallTask task =>
    simp only [applyCommand, putRecallTask]
    split
    · split <;> exact .kept rfl
    · rename_i absent
      exact .stored { task with createdAt := task.createdAt.or (some (nowTimestamp clock)) } absent rfl
  | updateRecallTask task =>
    simp only [applyCommand, updateRecallTask]
    -- An update is refused when the task is missing or its state may not follow.
    cases found : s.recallTasks.get task.id with
    | none => exact .kept rfl
    | some current =>
      cases valid : validateRestoreTransition (some current.status) task.status with
      | error status =>
        simp only [okOr, Applied.given, valid]
        exact .kept rfl
      | ok _ =>
        simp only [okOr, Applied.given, valid]
        exact .updated task current rfl found valid rfl
  -- No other command writes recall tasks.
  | _ => exact .kept (framed.recallTasks rfl)

/-- Tasks go forward under every command that sends no archive task back to waiting. -/
theorem applyCommand_advances
    (claimed : ∀ task, cmd = .updateArchiveTask task →
      task.status ≠ ArchiveTaskStatus.archiveTaskPending.number) :
    MetadataState.Advances s (applyCommand clock s cmd).2 := by
  constructor
  · rintro id ⟨task, found, closed⟩
    rcases (applyCommand_recallTasks clock s cmd).at_id found with
      stays | ⟨next, _, _, follows, present⟩
    · exact ⟨task, stays, closed⟩
    · exact ⟨next, present, closed.of_transition follows⟩
  · rintro id ⟨task, found, started⟩
    rcases (applyCommand_archiveTasks clock s cmd).at_id found with
      stays | ⟨next, sent, _, _, present⟩
    · exact ⟨task, stays, started⟩
    · exact ⟨next, present, claimed next sent⟩

/-- A value of a map with one value inserted is an old one or the inserted one. -/
private theorem get_insert_cases {κ ν : Type} [DecidableEq κ] {map : HashMap κ ν} {key other : κ}
    {value found : ν} (present : (map.insert key value).get other = some found) :
    map.get other = some found ∨ found = value := by
  rw [HashMap.get_insert] at present
  split at present
  · exact Or.inr (Option.some.inj present).symm
  · exact Or.inl present

section

variable {clock : Nat} {s : MetadataState} {cmd : MetadataCommand} {id : String}

/-- An archive task that is stored was so before, or it has the status of the one that was sent. -/
theorem archiveTasks_cases {stored : ArchiveTask} :
    (applyCommand clock s cmd).2.archiveTasks.get id = some stored →
      s.archiveTasks.get id = some stored ∨ ∃ task,
        (cmd = .putArchiveTask task ∨ cmd = .updateArchiveTask task) ∧
          stored.status = task.status := by
  have framed := applyCommand_framed clock s cmd
  cases cmd with
  | putArchiveTask task =>
    simp only [applyCommand, putArchiveTask]
    split
    · split <;> exact .inl
    · exact fun found => (get_insert_cases found).imp_right fun same =>
        ⟨task, .inl rfl, by rw [same]⟩
  | updateArchiveTask task =>
    simp only [applyCommand, updateArchiveTask, Applied.given]
    split
    · split
      · exact fun found => (get_insert_cases found).imp_right fun same =>
          ⟨task, .inr rfl, by rw [same]⟩
      · exact .inl
    · exact .inl
  | _ => rw [framed.archiveTasks rfl]; exact .inl

/-- A recall task that is stored was so before, or it has the identity of the one that was sent. -/
theorem recallTasks_cases {stored : RecallTask} :
    (applyCommand clock s cmd).2.recallTasks.get id = some stored →
      s.recallTasks.get id = some stored ∨ ∃ task,
        (cmd = .putRecallTask task ∨ cmd = .updateRecallTask task) ∧
          stored.id = task.id ∧ stored.bucket = task.bucket ∧ stored.key = task.key := by
  have framed := applyCommand_framed clock s cmd
  cases cmd with
  | putRecallTask task =>
    simp only [applyCommand, putRecallTask]
    split
    · split <;> exact .inl
    · exact fun found => (get_insert_cases found).imp_right fun same =>
        ⟨task, .inl rfl, by simp [same]⟩
  | updateRecallTask task =>
    simp only [applyCommand, updateRecallTask, Applied.given]
    split
    · split
      · exact fun found => (get_insert_cases found).imp_right fun same =>
          ⟨task, .inr rfl, by simp [same]⟩
      · exact .inl
    · exact .inl
  | _ => rw [framed.recallTasks rfl]; exact .inl

end

variable {current task : ArchiveTask}

/-- A kind of task: where it is stored, how it is updated, and when it is being worked on. -/
structure TaskKind (τ : Type) where
  id : τ → String
  tasks : MetadataState → HashMap String τ
  update : τ → MetadataCommand
  follows : τ → τ → Prop
  running : τ → Prop
  injective : Function.Injective update
  effect : ∀ clock s cmd, TaskEffect id update follows cmd
    (applyCommand clock s cmd).1 (tasks s) (tasks (applyCommand clock s cmd).2)
  /-- What is being worked on is not started again. -/
  exclusive : ∀ {current task}, running current → running task → ¬ follows current task

def archiveTaskKind : TaskKind ArchiveTask where
  id := ArchiveTask.id
  tasks := MetadataState.archiveTasks
  update := .updateArchiveTask
  follows current task := validateArchiveTaskTransition current.status task.status = .ok ()
  running task := task.status = ArchiveTaskStatus.archiveTaskInProgress.number
  injective _ _ same := MetadataCommand.updateArchiveTask.inj same
  effect := applyCommand_archiveTasks
  exclusive running starts := by rw [running, starts]; decide

def recallTaskKind : TaskKind RecallTask where
  id := RecallTask.id
  tasks := MetadataState.recallTasks
  update := .updateRecallTask
  follows current task := validateRestoreTransition (some current.status) task.status = .ok ()
  running task := task.status = RestoreStatus.restoreInProgress.number
  injective _ _ same := MetadataCommand.updateRecallTask.inj same
  effect := applyCommand_recallTasks
  exclusive running starts := by rw [running, starts]; decide

/-- An update that is accepted finds a task that it may follow, and is stored as it was sent. -/
theorem TaskKind.accepted {τ : Type} (kind : TaskKind τ) (clock : Nat) {s : MetadataState}
    {task : τ} (ok : (applyCommand clock s (kind.update task)).1 = .ok ()) :
    (∃ current, (kind.tasks s).get (kind.id task) = some current ∧ kind.follows current task) ∧
      (kind.tasks (applyCommand clock s (kind.update task)).2).get (kind.id task) = some task := by
  have effect := kind.effect clock s (kind.update task)
  rw [ok] at effect
  exact effect.accepted kind.injective

/-- The status of a task, if its number is one. -/
def ArchiveTask.phase (task : ArchiveTask) : Option ArchiveTaskStatus :=
  tryFrom ArchiveTaskStatus task.status

/-- A change is accepted between known statuses that may follow each other. -/
theorem validateArchiveTaskTransition_iff :
    validateArchiveTaskTransition current.status task.status = .ok () ↔
      ∃ old new, current.phase = some old ∧ task.phase = some new ∧
        archiveTaskMayFollow old new = true := by
  unfold validateArchiveTaskTransition validateTransition ArchiveTask.phase
  simp only [bind_eq_ok, okOr_eq_ok, ensure_eq_ok]
  constructor
  · rintro ⟨old, oldPhase, new, newPhase, may⟩
    exact ⟨old, new, oldPhase, newPhase, may⟩
  · rintro ⟨old, new, oldPhase, newPhase, may⟩
    exact ⟨old, oldPhase, new, newPhase, may⟩

variable {status : Status}

/-- Between known statuses, a change is refused only because of what is stored. -/
theorem validateArchiveTaskTransition_refused (currentKnown : current.phase ≠ none)
    (taskKnown : task.phase ≠ none)
    (refused : validateArchiveTaskTransition current.status task.status = .error status) :
    status.code = .failedPrecondition := by
  unfold validateArchiveTaskTransition validateTransition at refused
  unfold ArchiveTask.phase at currentKnown taskKnown
  obtain ⟨old, oldPhase⟩ := Option.ne_none_iff_exists'.mp currentKnown
  obtain ⟨new, newPhase⟩ := Option.ne_none_iff_exists'.mp taskKnown
  rw [oldPhase, newPhase] at refused
  -- Both states are known, so the refusal is the one of the transition table.
  have ensured : ensure (archiveTaskMayFollow old new)
      (.failedPrecondition "invalid archive task state transition") = .error status := refused
  unfold ensure at ensured
  split at ensured
  · cases ensured
  · cases ensured
    rfl

/-- A task that was put is there, whether it was accepted or not. -/
theorem putArchiveTask_there (now : Timestamp) (task : ArchiveTask) (s : MetadataState) :
    ∃ stored, (putArchiveTask now task s).2.archiveTasks.get task.id = some stored := by
  simp only [putArchiveTask]
  cases found : s.archiveTasks.get task.id with
  | some existing =>
    simp only
    split <;> exact ⟨existing, found⟩
  | none => exact ⟨_, HashMap.get_insert_self _ _ _⟩

/-- A task is refused only because another one is there. -/
theorem putArchiveTask_refused {now : Timestamp} {s : MetadataState}
    (refused : (putArchiveTask now task s).1 = .error status) : status.code = .alreadyExists := by
  unfold putArchiveTask at refused
  dsimp only at refused
  split at refused
  · split at refused
    · cases refused
    · cases refused
      rfl
  · cases refused

/-- An update between known statuses is refused only because of what is stored. -/
theorem updateArchiveTask_refused {s : MetadataState}
    (present : s.archiveTasks.get task.id = some current) (currentKnown : current.phase ≠ none)
    (taskKnown : task.phase ≠ none) (refused : (updateArchiveTask task s).1 = .error status) :
    status.code = .failedPrecondition := by
  unfold updateArchiveTask at refused
  rw [present] at refused
  simp only [okOr, Applied.given] at refused
  split at refused
  · cases refused
  · rename_i failure invalid
    cases refused
    exact validateArchiveTaskTransition_refused currentKnown taskKnown invalid

end ColdStore
