import ColdStore.Metadata.Tasks
import ColdStore.Process.Trace
import ColdStore.Scheduler.Contract

/-! Claims of tasks, seen in what was called and answered: a task is started once. -/

namespace ColdStore.Scheduler

open Rust Process Program

/-- What one worker has called, with the answers it got. -/
abbrev History := List (Exchange Call Reply)

/-- An update that was accepted. -/
def accepted {τ : Type} (kind : TaskKind τ) (task : τ) : Exchange Call Reply :=
  ⟨.metadata (.apply (kind.update task)), (.ok () : Except Status Unit)⟩

/-- A task was started at most once so far, and is stored as it was started. -/
structure StartedOnce {τ ι : Type} (kind : TaskKind τ) (slot : String) (trace : Trace Call Reply ι)
    (s : MetadataState) : Prop where
  single : ∀ first second task other, accepted kind task ∈ ownPart first trace →
    accepted kind other ∈ ownPart second trace → kind.id task = slot → kind.id other = slot →
      first = second
  stored : ∀ spot task, accepted kind task ∈ ownPart spot trace → kind.id task = slot →
    (kind.tasks s).get slot = some task ∧ kind.running task

section

variable {τ ι : Type} {kind : TaskKind τ} {slot : String} (svc : CacheService) (moment : Moment)

/-- At first nothing is started. -/
theorem StartedOnce.nil (s : MetadataState) : StartedOnce kind slot ([] : Trace Call Reply ι) s :=
  ⟨fun _ _ _ _ absurdity => (List.not_mem_nil absurdity).elim,
    fun _ _ absurdity => (List.not_mem_nil absurdity).elim⟩

/-- A call changes the catalogue by a command, or not at all. -/
theorem serve_metadata (call : Call) (w : World) :
    (serve svc moment call w).2.metadata = w.metadata ∨
      ∃ cmd, call = .metadata (.apply cmd) ∧
        (serve svc moment call w).2.metadata = (applyCommand moment.seconds w.metadata cmd).2 := by
  cases call with
  | metadata call =>
    cases call with
    | apply cmd =>
      simp only [serve, delivered]
      split
      · exact .inr ⟨cmd, rfl, rfl⟩
      · exact .inl rfl
      · exact .inr ⟨cmd, rfl, rfl⟩
    | _ =>
      simp only [serve, delivered]
      split <;> exact .inl rfl
  | cache call => exact .inl rfl
  | tape call => exact .inl rfl
  | here call => exact .inl rfl

/-- A call that arrives and is answered is served as it stands. -/
theorem serve_arrives {moment : Moment} {call : MetadataCall} {w : World}
    (arrives : moment.fault = none) :
    serve svc moment (.metadata call) w = ((call.serve moment w.metadata).1,
      { w with metadata := (call.serve moment w.metadata).2, tick := w.tick + 1 }) := by
  simp only [serve, delivered, arrives]
  rfl

/-- A call that was answered with success was served with success. -/
theorem serve_metadata_ok {call : MetadataCall} {w : World} {value : call.Value}
    (ok : (serve svc moment (.metadata call) w).1 = (.ok value : Except Status call.Value)) :
    (call.serve moment w.metadata).1 = .ok value ∧
      (serve svc moment (.metadata call) w).2.metadata = (call.serve moment w.metadata).2 :=
  delivered_ok ok

variable {call : Call} {w : World}

/-- A stored task stays as it is under a call, or the call is an update that may follow it. -/
theorem task_cases (kind : TaskKind τ) (call : Call) {current : τ}
    (present : (kind.tasks w.metadata).get slot = some current) :
    (kind.tasks (serve svc moment call w).2.metadata).get slot = some current ∨
      ∃ task, call = .metadata (.apply (kind.update task)) ∧ kind.id task = slot ∧
        kind.follows current task ∧
          (kind.tasks (serve svc moment call w).2.metadata).get slot = some task := by
  rcases serve_metadata svc moment call w with same | ⟨cmd, rfl, after⟩
  · exact .inl (by rw [same, present])
  · rw [after]
    rcases (kind.effect moment.seconds w.metadata cmd).at_id present with
      stays | ⟨task, rfl, named, may, stored⟩
    · exact .inl stays
    · exact .inr ⟨task, rfl, named, may, stored⟩

/-- A task that is being worked on stays as it is, if it is only ever started. -/
theorem running_stays {task : τ} (stored : (kind.tasks w.metadata).get slot = some task)
    (running : kind.running task)
    (starts : ∀ task, call = .metadata (.apply (kind.update task)) → kind.id task = slot →
      kind.running task) :
    (kind.tasks (serve svc moment call w).2.metadata).get slot = some task := by
  rcases task_cases svc moment kind call stored with stays | ⟨other, sent, named, may, _⟩
  · exact stays
  · exact absurd may (kind.exclusive running (starts other sent named))

/-- An update that is accepted finds a task that it may follow, and leaves it as it was sent. -/
theorem accepted_effect {task : τ} (same : (⟨call, (serve svc moment call w).1⟩ :
    Exchange Call Reply) = accepted kind task) :
    (∃ current, (kind.tasks w.metadata).get (kind.id task) = some current ∧
      kind.follows current task) ∧
      (kind.tasks (serve svc moment call w).2.metadata).get (kind.id task) = some task := by
  obtain ⟨rfl, answer⟩ := Sigma.mk.inj same
  obtain ⟨ok, after⟩ := serve_metadata_ok svc moment (eq_of_heq answer)
  simp only [MetadataCall.serve] at ok after
  rw [after]
  exact kind.accepted _ ok

/-- A call that is answered keeps to one start of a task, if the task is only ever started. -/
theorem StartedOnce.step {trace : Trace Call Reply ι}
    (once : StartedOnce kind slot trace w.metadata) (spot : Nat) (req : ι)
    (starts : ∀ task, call = .metadata (.apply (kind.update task)) → kind.id task = slot →
      kind.running task) :
    StartedOnce kind slot (trace ++ [⟨spot, req, ⟨call, (serve svc moment call w).1⟩⟩])
      (serve svc moment call w).2.metadata := by
  -- A new start finds the task not running, and leaves it as it was sent.
  have new : ∀ task, (⟨call, (serve svc moment call w).1⟩ : Exchange Call Reply)
      = accepted kind task → kind.id task = slot →
      (∀ stored, (kind.tasks w.metadata).get slot = some stored → ¬ kind.running stored) ∧
        (kind.tasks (serve svc moment call w).2.metadata).get slot = some task ∧
          kind.running task := by
    rintro task same rfl
    obtain ⟨⟨current, present, may⟩, stored⟩ := accepted_effect svc moment same
    have running := starts task (Sigma.mk.inj same).1 rfl
    refine ⟨fun other found was => ?_, stored, running⟩
    rw [present, Option.some.injEq] at found
    exact kind.exclusive was running (found ▸ may)
  constructor
  · intro first second task other firstMember secondMember named otherNamed
    rcases mem_ownPart_concat.mp firstMember with firstOld | ⟨rfl, firstNew⟩
    · rcases mem_ownPart_concat.mp secondMember with secondOld | ⟨rfl, secondNew⟩
      · exact once.single first second task other firstOld secondOld named otherNamed
      · obtain ⟨stored, running⟩ := once.stored first task firstOld named
        exact absurd running ((new other secondNew otherNamed).1 task stored)
    · rcases mem_ownPart_concat.mp secondMember with secondOld | ⟨rfl, _⟩
      · obtain ⟨stored, running⟩ := once.stored second other secondOld otherNamed
        exact absurd running ((new task firstNew named).1 other stored)
      · rfl
  · intro other task mem named
    rcases mem_ownPart_concat.mp mem with old | ⟨_, fresh⟩
    · obtain ⟨stored, running⟩ := once.stored other task old named
      exact ⟨running_stays svc moment stored running starts, running⟩
    · exact (new task fresh named).2

/-- Tasks are stored under their ids, whatever is called. -/
theorem serve_keysAgree (keys : w.metadata.KeysAgree) (call : Call) :
    (serve svc moment call w).2.metadata.KeysAgree := by
  rcases serve_metadata svc moment call w with same | ⟨cmd, _, after⟩
  · rw [same]
    exact keys
  · rw [after]
    exact applyCommand_keysAgree keys moment.seconds cmd

end

/-- A call that changes a task only to start it. -/
def StartsOnly {τ : Type} (kind : TaskKind τ) (slot : String) (call : Call) : Prop :=
  ∀ task, call = .metadata (.apply (kind.update task)) → kind.id task = slot → kind.running task

/-- A task that was asked for comes with the id it was asked under. -/
structure NamedAnswer (exchange : Exchange Call Reply) : Prop where
  archives : ∀ id task, exchange = ⟨.metadata (.getArchiveTask id), (.ok task : Except Status _)⟩ →
    task.id = id
  recalls : ∀ id task, exchange = ⟨.metadata (.getRecallTask id), (.ok task : Except Status _)⟩ →
    task.id = id

/-- What is stored under its id is answered under its id. -/
theorem serve_named (svc : CacheService) (moment : Moment) {w : World}
    (keys : w.metadata.KeysAgree) (call : Call) :
    NamedAnswer ⟨call, (serve svc moment call w).1⟩ := by
  constructor
  · intro id task same
    obtain ⟨rfl, answer⟩ := Sigma.mk.inj same
    have found := (okOr_eq_ok _ _ _).mp (serve_metadata_ok svc moment (eq_of_heq answer)).1
    exact (HashMap.keyed_iff.mp keys.archiveTasks id task found).symm
  · intro id task same
    obtain ⟨rfl, answer⟩ := Sigma.mk.inj same
    have found := (okOr_eq_ok _ _ _).mp (serve_metadata_ok svc moment (eq_of_heq answer)).1
    exact (HashMap.keyed_iff.mp keys.recallTasks id task found).symm

section

variable {discipline : Discipline Call Reply} {past : List (Exchange Call Reply)} {ε δ α : Type}

theorem follows_askMetadata {call : MetadataCall}
    {post : Except Status call.Value → List (Exchange Call Reply) → Prop}
    (makes : discipline.makes past (.metadata call))
    (met : ∀ answer : Except Status call.Value, discipline.comes past ⟨.metadata call, answer⟩ →
      post answer (past ++ [⟨.metadata call, answer⟩])) :
    (askMetadata call).run.Follows discipline post past := follows_perform makes met

/-- A call to the catalogue goes on with its value, or ends with its failure. -/
theorem follows_metadata {call : MetadataCall} {rest : call.Value → Task Status α}
    {post : Except Status α → List (Exchange Call Reply) → Prop}
    (makes : discipline.makes past (.metadata call))
    (onward : ∀ value, discipline.comes past ⟨.metadata call, Except.ok value⟩ →
      (rest value).run.Follows discipline post (past ++ [⟨.metadata call, Except.ok value⟩]))
    (failed : ∀ status, discipline.comes past ⟨.metadata call, Except.error status⟩ →
      post (.error status) (past ++ [⟨.metadata call, Except.error status⟩])) :
    (askMetadata call >>= rest).run.Follows discipline post past := by
  apply follows_try
  apply follows_askMetadata makes
  intro answer comes
  cases answer with
  | ok value => exact onward value comes
  | error status => exact failed status comes

theorem follows_tried {task : Task ε α}
    {post : Except δ (Except ε α) → List (Exchange Call Reply) → Prop}
    (follows : task.run.Follows discipline (fun result later => post (.ok result) later) past) :
    (tried task : Task δ (Except ε α)).run.Follows discipline post past := follows_lift follows

/-- What is put once is there, whether it was there before or not. -/
theorem putOnce_follows {cmd : MetadataCommand}
    {post : Except Status Unit → List (Exchange Call Reply) → Prop}
    (makes : discipline.makes past (.metadata (.apply cmd)))
    (there : ∀ answer : Except Status Unit,
      discipline.comes past ⟨.metadata (.apply cmd), answer⟩ →
      (∀ status, answer = .error status → status.code = .alreadyExists) →
      post (.ok ()) (past ++ [⟨.metadata (.apply cmd), answer⟩]))
    (failed : ∀ status, status.code ≠ .alreadyExists →
      discipline.comes past ⟨.metadata (.apply cmd), (.error status : Except Status Unit)⟩ →
      post (.error status)
        (past ++ [⟨.metadata (.apply cmd), (.error status : Except Status Unit)⟩])) :
    (do match ← tried (applied cmd) with
        | .ok () => pure ()
        | .error status => if status.code ≠ .alreadyExists then throw status :
      Task Status Unit).run.Follows discipline post past := by
  apply follows_try
  apply follows_tried
  apply follows_askMetadata makes
  intro answer comes
  cases answer with
  | ok _ => exact there (.ok ()) comes (by rintro _ ⟨⟩)
  | error status =>
    by_cases present : status.code = .alreadyExists
    · simp only [present, ne_eq, not_true, if_false]
      exact there (.error status) comes (by rintro _ ⟨⟩; exact present)
    · simp only [present, ne_eq, not_false_eq_true, if_true]
      exact failed status present comes

end

/-- Claims and whatever runs beside them start one task and do nothing else to it. -/
def claiming (slot : String) : Discipline Call Reply where
  comes _ exchange := NamedAnswer exchange
  makes _ call := StartsOnly archiveTaskKind slot call ∧ StartsOnly recallTaskKind slot call

/-- A claim that was granted is in the history, under the id that was asked for. -/
def Granted {τ : Type} (kind : TaskKind τ) (id : String) (result : Except Status (Option τ))
    (past : List (Exchange Call Reply)) : Prop :=
  ∀ claimed, result = .ok (some claimed) → accepted kind claimed ∈ past ∧ kind.id claimed = id

section

variable {slot : String} {past : List (Exchange Call Reply)}

theorem not_granted {τ : Type} {kind : TaskKind τ} {id : String} :
    Granted kind id (.ok none) past := by
  rintro claimed ⟨⟩

theorem failed_not_granted {τ : Type} {kind : TaskKind τ} {id : String} {status : Status} :
    Granted kind id (.error status) past := by
  rintro claimed ⟨⟩

/-- Any call but an update of a task may be made at any time. -/
theorem claiming_makes {call : Call}
    (archives : ∀ task, call ≠ .metadata (.apply (.updateArchiveTask task)))
    (recalls : ∀ task, call ≠ .metadata (.apply (.updateRecallTask task))) :
    (claiming slot).makes past call :=
  ⟨fun task same => absurd same (archives task), fun task same => absurd same (recalls task)⟩

/-- A claim may start an archive task. -/
theorem claiming_startsArchive {task : ArchiveTask}
    (running : task.status = ArchiveTaskStatus.archiveTaskInProgress.number) :
    (claiming slot).makes past (.metadata (.apply (.updateArchiveTask task))) := by
  constructor
  · rintro other same _
    cases same
    exact running
  · rintro other ⟨⟩

/-- A claim may start a recall task. -/
theorem claiming_startsRecall {task : RecallTask}
    (running : task.status = RestoreStatus.restoreInProgress.number) :
    (claiming slot).makes past (.metadata (.apply (.updateRecallTask task))) := by
  constructor
  · rintro other ⟨⟩
  · rintro other same _
    cases same
    exact running

/-- Who starts an archive task has it granted. -/
theorem startArchiveTask_claims (current : ArchiveTask) :
    (startArchiveTask current).run.Follows (claiming slot) (Granted archiveTaskKind current.id)
      past := by
  unfold startArchiveTask
  apply follows_try
  apply follows_lift
  apply follows_perform
  · apply claiming_makes <;> rintro _ ⟨⟩
  intro now _
  apply follows_try
  apply follows_tried
  apply follows_askMetadata
  · exact claiming_startsArchive rfl
  intro answer _
  cases answer with
  | ok _ =>
    rintro claimed ⟨⟩
    exact ⟨List.mem_concat_self, rfl⟩
  | error status =>
    -- A task that someone else has moved is not granted, and neither is any other failure.
    dsimp only
    split
    · exact not_granted
    · exact failed_not_granted

/-- Who claims an archive task has started it. -/
theorem claimArchiveTask_claims (task : ArchiveTask) :
    (claimArchiveTask task).run.Follows (claiming slot) (Granted archiveTaskKind task.id)
      past := by
  unfold claimArchiveTask
  apply follows_try
  apply putOnce_follows
  · apply claiming_makes <;> rintro _ ⟨⟩
  · intro answer _ _
    refine follows_metadata (by apply claiming_makes <;> rintro _ ⟨⟩)
      (fun (current : ArchiveTask) named => ?_) fun _ _ => failed_not_granted
    have same : current.id = task.id := named.archives task.id current rfl
    rw [← same]
    -- Only a task that waits is started.
    split
    · exact failed_not_granted
    · exact not_granted
    · exact not_granted
    · exact not_granted
    · exact startArchiveTask_claims current
    · exact failed_not_granted
  · exact fun status _ _ => failed_not_granted

/-- Who starts a recall task has it granted. -/
theorem startRecallTask_claims (current : RecallTask) :
    (startRecallTask current).run.Follows (claiming slot) (Granted recallTaskKind current.id)
      past := by
  unfold startRecallTask
  apply follows_try
  apply follows_lift
  apply follows_perform
  · apply claiming_makes <;> rintro _ ⟨⟩
  intro now _
  apply follows_try
  apply follows_tried
  apply follows_askMetadata
  · exact claiming_startsRecall rfl
  intro answer _
  cases answer with
  | ok _ =>
    -- The object is marked as well before the claim is granted.
    refine follows_metadata (by apply claiming_makes <;> rintro _ ⟨⟩) (fun _ _ => ?_) fun _ _ =>
      failed_not_granted
    rintro claimed ⟨⟩
    exact ⟨List.mem_append_left _ List.mem_concat_self, rfl⟩
  | error status =>
    dsimp only
    split
    · exact not_granted
    · exact failed_not_granted

/-- Who claims a recall task has started it. -/
theorem claimRecallTask_claims (task : RecallTask) :
    (claimRecallTask task).run.Follows (claiming slot) (Granted recallTaskKind task.id)
      past := by
  unfold claimRecallTask
  apply follows_try
  apply putOnce_follows
  · apply claiming_makes <;> rintro _ ⟨⟩
  · intro answer _ _
    refine follows_metadata (by apply claiming_makes <;> rintro _ ⟨⟩)
      (fun (current : RecallTask) named => ?_) fun _ _ => failed_not_granted
    have same : current.id = task.id := named.recalls task.id current rfl
    rw [← same]
    split
    · exact failed_not_granted
    · exact startRecallTask_claims current
    · exact startRecallTask_claims current
    · exact not_granted
    · exact not_granted
    · exact not_granted
    · exact not_granted
    · exact not_granted
  · exact fun status _ _ => failed_not_granted

end

end ColdStore.Scheduler
