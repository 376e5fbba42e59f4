import ColdStore.Scheduler.ArchiveCalls
import ColdStore.Scheduler.Claims

/-! What an archive worker has seen of a task before it starts or ends it. -/

namespace ColdStore.Scheduler

open Rust Process Program

/-- An exchange that has started a task. -/
def startsTask (id : String) : Exchange Call Reply → Bool
  | ⟨.metadata (.apply (.updateArchiveTask task)), answer⟩ =>
    task.id = id && task.phase = some .archiveTaskInProgress && Except.isOk (ε := Status) answer
  | _ => false

/-- The worker has started the task itself. -/
def Won (past : History) (id : String) : Prop := ∃ exchange ∈ past, startsTask id exchange

instance (past : History) (id : String) : Decidable (Won past id) :=
  inferInstanceAs (Decidable (∃ exchange ∈ past, startsTask id exchange = true))

/-- The worker has read the task in a phase. -/
def Read (past : History) (id : String) (shows : Option ArchiveTaskStatus → Prop) : Prop :=
  ∃ task, (⟨.metadata (.getArchiveTask id), (.ok task : Except Status ArchiveTask)⟩ :
    Exchange Call Reply) ∈ past ∧ shows task.phase

/-- The worker has put the task, and knows how that went. -/
def HasPut (past : History) (id : String) : Prop :=
  ∃ task, ∃ answer : Except Status Unit, task.id = id ∧
    (⟨.metadata (.apply (.putArchiveTask task)), answer⟩ : Exchange Call Reply) ∈ past

/-- A task that waits to be started. -/
def Waiting (phase : Option ArchiveTaskStatus) : Prop := phase = some .archiveTaskPending

/-- A status that no worker ever gives to a task. -/
def Odd (phase : Option ArchiveTaskStatus) : Prop := phase = none ∨ phase = some .unspecified

/-- A task that has come to its end. -/
def TaskEnded (phase : Option ArchiveTaskStatus) : Prop :=
  phase = some .archiveTaskCompleted ∨ phase = some .archiveTaskFailed

/-- The worker may end the task: it has started it, or nobody could. -/
def MayEnd (past : History) (id : String) : Prop := Won past id ∨ Read past id Odd

theorem startsTask_iff {id : String} {exchange : Exchange Call Reply} :
    startsTask id exchange = true ↔ ∃ task, exchange = accepted archiveTaskKind task ∧
      task.id = id ∧ task.phase = some .archiveTaskInProgress := by
  constructor
  · intro starts
    unfold startsTask at starts
    split at starts
    · rename_i task answer
      simp only [Bool.and_eq_true, decide_eq_true_eq] at starts
      obtain ⟨⟨named, phase⟩, ok⟩ := starts
      refine ⟨task, ?_, named, phase⟩
      cases answer with
      | ok _ => rfl
      | error status => cases ok
    · cases starts
  · rintro ⟨task, rfl, named, phase⟩
    simp [startsTask, accepted, archiveTaskKind, named, phase, Except.isOk, Except.toBool]

section

variable {past later : History} {id : String}

/-- A task that was won stays won. -/
theorem Won.mono (won : Won past id) (longer : past ⊆ later) : Won later id := by
  obtain ⟨exchange, mem, starts⟩ := won
  exact ⟨exchange, longer mem, starts⟩

/-- What was read stays read. -/
theorem Read.mono {shows : Option ArchiveTaskStatus → Prop} (read : Read past id shows)
    (longer : past ⊆ later) : Read later id shows := by
  obtain ⟨task, mem, shown⟩ := read
  exact ⟨task, longer mem, shown⟩

/-- Who may end a task may end it later. -/
theorem MayEnd.mono (may : MayEnd past id) (longer : past ⊆ later) : MayEnd later id := by
  rcases may with won | read
  · exact .inl (won.mono longer)
  · exact .inr (read.mono longer)

end

/-- The answers a worker gets about a task when its calls arrive. -/
structure Answered (past : History) (id : String) (exchange : Exchange Call Reply) : Prop where
  put : ∀ task status, exchange = ⟨.metadata (.apply (.putArchiveTask task)),
    (.error status : Except Status Unit)⟩ → task.id = id → status.code = .alreadyExists
  get : ∀ status, exchange = ⟨.metadata (.getArchiveTask id),
    (.error status : Except Status ArchiveTask)⟩ → ¬ HasPut past id
  started : ∀ task status, exchange = ⟨.metadata (.apply (.updateArchiveTask task)),
    (.error status : Except Status Unit)⟩ → task.id = id →
      task.phase = some .archiveTaskInProgress → Read past id Waiting →
        status.code = .failedPrecondition

/-- How archive workers go about tasks. A careful one gets its claims through to the catalogue. -/
def owning (careful : Prop) : Discipline Call Reply where
  comes past exchange := NamedAnswer exchange ∧
    (careful → ∀ id, ¬ Won past id → Answered past id exchange)
  makes past call := ∀ task, call = .metadata (.apply (.updateArchiveTask task)) →
    (task.phase = some .archiveTaskInProgress ∧ Read past task.id Waiting) ∨
      TaskEnded task.phase ∧ (careful → MayEnd past task.id)

/-- Calls that update no archive task. -/
def Untasked (call : Call) : Prop := ∀ task, call ≠ .metadata (.apply (.updateArchiveTask task))

/-- A claim is granted to the worker that starts the task, and a failed one gives a reason to end it. -/
structure Claimed (careful : Prop) (id : String) (result : Except Status (Option ArchiveTask))
    (past : History) : Prop where
  granted : ∀ claimed, result = .ok (some claimed) → claimed.id = id ∧ Won past id
  failed : ∀ status, result = .error status → careful → MayEnd past id

section

variable {careful : Prop} {past : History} {ε α β : Type}

/-- Calls about no archive task are free. -/
theorem owning_makes {call : Call} (untasked : Untasked call) : (owning careful).makes past call :=
  fun task sent => absurd sent (untasked task)

/-- A program without such calls keeps to the discipline. -/
theorem follows_of_untasked {program : Sched α} (only : program.Only Untasked) :
    program.Follows (owning careful) (fun _ later => past ⊆ later) past := by
  have free : program.Follows (owning careful) (fun _ _ => True) past :=
    follows_of_only (fun _ _ => owning_makes) only
  exact free.longer.mono fun _ _ => And.left

variable {rest : α → Task ε β} {post : Except ε β → History → Prop}

/-- Whatever updates no task can be done at any time. -/
theorem follows_untasked {task : Task ε α} (only : task.run.Only Untasked)
    (onward : ∀ value later, past ⊆ later → (rest value).run.Follows (owning careful) post later)
    (failed : ∀ failure later, past ⊆ later → post (.error failure) later) :
    (task >>= rest).run.Follows (owning careful) post past := by
  apply follows_try
  apply (follows_of_untasked only).mono
  intro result later longer
  cases result with
  | ok value => exact onward value later longer
  | error failure => exact failed failure later longer

theorem follows_lifted {program : Sched α} (only : program.Only Untasked)
    (onward : ∀ value later, past ⊆ later → (rest value).run.Follows (owning careful) post later) :
    ((ExceptT.lift program : Task ε α) >>= rest).run.Follows (owning careful) post past := by
  apply follows_try
  apply follows_lift
  exact (follows_of_untasked only).mono onward

theorem now_untasked : nowTimestamp.Only Untasked := only_locally

variable {id : String}

/-- Who gets no task owes nothing. -/
theorem claimed_none : Claimed careful id (.ok none) past := by
  constructor
  · rintro claimed ⟨⟩
  · rintro status ⟨⟩

/-- A claim that fails leaves the right to end the task. -/
theorem claimed_failed {status : Status} (may : careful → MayEnd past id) :
    Claimed careful id (.error status) past := by
  constructor
  · rintro claimed ⟨⟩
  · rintro _ ⟨⟩
    exact may

/-- A call that should have been answered otherwise was made about a task of the worker's own. -/
theorem mayEnd_of_unanswered {exchange : Exchange Call Reply}
    (comes : (owning careful).comes past exchange) (unanswered : ¬ Answered past id exchange)
    (be : careful) : MayEnd (past ++ [exchange]) id := by
  by_cases won : Won past id
  · exact .inl (won.mono (List.subset_append_left _ _))
  · exact absurd (comes.2 be id won) unanswered

/-- Only a task that was read as waiting is started. -/
theorem startArchiveTask_owns {current : ArchiveTask} (read : Read past current.id Waiting) :
    (startArchiveTask current).run.Follows (owning careful) (Claimed careful current.id)
      past := by
  unfold startArchiveTask
  apply follows_lifted now_untasked
  intro now later longer
  have seen := read.mono longer
  apply follows_try
  apply follows_tried
  apply follows_askMetadata
  · rintro task sent
    cases sent
    exact .inl ⟨rfl, seen⟩
  intro answer comes
  cases answer with
  | ok _ =>
    constructor
    · rintro claimed ⟨⟩
      exact ⟨rfl, _, List.mem_concat_self, startsTask_iff.mpr ⟨_, rfl, rfl, rfl⟩⟩
    · rintro status ⟨⟩
  | error status =>
    dsimp only
    split
    · exact claimed_none
    · rename_i moved
      apply claimed_failed
      apply mayEnd_of_unanswered comes
      exact fun answered => moved (answered.started _ status rfl rfl rfl seen)

/-- A claim reads a task before it starts it. -/
theorem claimArchiveTask_owns (task : ArchiveTask) :
    (claimArchiveTask task).run.Follows (owning careful) (Claimed careful task.id) past := by
  unfold claimArchiveTask
  apply follows_try
  apply putOnce_follows
  · exact owning_makes (by rintro _ ⟨⟩)
  · intro put _ _
    have there : HasPut (past ++ [⟨.metadata (.apply (.putArchiveTask task)), put⟩]) task.id :=
      ⟨task, put, rfl, List.mem_concat_self⟩
    apply follows_try
    apply follows_askMetadata
    · exact owning_makes (by rintro _ ⟨⟩)
    intro found comes
    cases found with
    | error status =>
      apply claimed_failed
      apply mayEnd_of_unanswered comes
      exact fun answered => answered.get status rfl there
    | ok current =>
      have same : current.id = task.id := comes.1.archives task.id current rfl
      have read : ∀ shows : Option ArchiveTaskStatus → Prop, shows current.phase →
          Read (past ++ [⟨.metadata (.apply (.putArchiveTask task)), put⟩]
            ++ [⟨.metadata (.getArchiveTask task.id), (.ok current : Except Status ArchiveTask)⟩])
            task.id shows :=
        fun shows shown => ⟨current, List.mem_concat_self, shown⟩
      dsimp only
      split
      · rename_i phase
        exact claimed_failed fun _ => .inr (read _ (.inl phase))
      · exact claimed_none
      · exact claimed_none
      · exact claimed_none
      · rename_i phase
        have waiting := read Waiting phase
        rw [← same] at waiting ⊢
        exact startArchiveTask_owns waiting
      · rename_i phase
        exact claimed_failed fun _ => .inr (read _ (.inr phase))
  · intro status other comes
    apply claimed_failed
    apply mayEnd_of_unanswered comes
    exact fun answered => other (answered.put task status rfl rfl)

variable {task : ArchiveTask}

/-- A task is ended by a worker that may end it. -/
theorem updateArchiveTask_ends (ended : TaskEnded task.phase)
    (may : careful → MayEnd past task.id) :
    (updateArchiveTask task).run.Follows (owning careful) (fun _ later => past ⊆ later)
      past := by
  apply follows_askMetadata
  · rintro _ ⟨⟩
    exact .inr ⟨ended, may⟩
  · exact fun _ _ => List.subset_append_left _ _

/-- Only who may end a task marks it as failed. -/
theorem markArchiveTaskFailed_owns (may : careful → MayEnd past task.id) (error : String) :
    (markArchiveTaskFailed task error).run.Follows (owning careful) (fun _ _ => True) past := by
  unfold markArchiveTaskFailed
  refine follows_metadata (owning_makes (by rintro _ ⟨⟩))
    (fun (current : ArchiveTask) comes => ?_) fun _ _ => trivial
  have same : current.id = task.id := comes.1.archives task.id current rfl
  split
  · trivial
  · trivial
  · trivial
  · apply follows_lifted now_untasked
    intro now later longer
    refine (updateArchiveTask_ends (.inr rfl) fun be => ?_).mono fun _ _ _ => trivial
    have still := (may be).mono (List.Subset.trans (List.subset_append_left _ _) longer)
    rw [← same] at still
    exact still

/-- Only who has won a task completes it. -/
theorem finalizeArchiveTaskSuccess_owns (won : Won past task.id) (bytesWritten : Nat) :
    (finalizeArchiveTaskSuccess task bytesWritten).run.Follows (owning careful)
      (fun _ _ => True) past := by
  unfold finalizeArchiveTaskSuccess
  refine follows_metadata (owning_makes (by rintro _ ⟨⟩))
    (fun (current : ArchiveTask) comes => ?_) fun _ _ => trivial
  have same : current.id = task.id := comes.1.archives task.id current rfl
  split
  · trivial
  · trivial
  · apply follows_lifted now_untasked
    intro now later longer
    apply follows_try
    apply follows_tried
    have still := won.mono (List.Subset.trans (List.subset_append_left _ _) longer)
    rw [← same] at still
    apply Follows.mono
    · apply updateArchiveTask_ends (.inl rfl)
      exact fun _ => .inl still
    intro result after _
    cases result with
    | ok _ => trivial
    | error status =>
      dsimp only
      split <;> trivial

variable [Sha256]

omit [Sha256] in
/-- A task that was started stays the worker's own. -/
theorem follows_keeping {task : Task ε α} (won : Won past id) (only : task.run.Only Untasked)
    (onward : ∀ value later, Won later id →
      (rest value).run.Follows (owning careful) (fun _ last => Won last id) later) :
    (task >>= rest).run.Follows (owning careful) (fun _ last => Won last id) past :=
  follows_untasked only (fun value later longer => onward value later (won.mono longer))
    fun _ _ longer => won.mono longer

variable (s : SchedulerState) (client : TapeArchiveClient)

/-- A worker that archives what it has claimed stays the one that has claimed it. -/
theorem archiveClaimed_owns (entry : StagingKeyEntry) (bundleId : String) (obj : ObjectMetadata)
    (won : Won past task.id) :
    (archiveClaimed client entry bundleId obj task).run.Follows (owning careful)
      (fun _ later => Won later task.id) past := by
  have staged : (getStaging entry.bucket entry.key entry.versionId).run.Only Untasked :=
    only_try only_askCache fun _ => only_checked _
  unfold archiveClaimed
  refine follows_keeping won staged fun staged _ won => ?_
  refine follows_keeping won (only_checked _) fun _ _ won => ?_
  refine follows_keeping won (writeBundle_only (by rintro _ _ _ ⟨⟩) _ _ _) fun write _ won => ?_
  refine follows_keeping won (only_checked _) fun _ _ won => ?_
  refine follows_keeping won only_askMetadata fun current _ won => ?_
  refine follows_keeping won (only_checked _) fun _ _ won => ?_
  refine follows_keeping won (only_checked _) fun _ _ won => ?_
  refine follows_keeping won (only_lift now_untasked) fun now _ won => ?_
  refine follows_keeping won only_askMetadata fun _ _ won => ?_
  refine follows_keeping won only_askCache fun _ later won => ?_
  -- Only now the task is ended.
  apply follows_try
  apply (finalizeArchiveTaskSuccess_owns won write.bytesWritten).longer.mono
  rintro result last ⟨longer, _⟩
  cases result with
  | ok _ => exact won.mono longer
  | error status => exact won.mono longer

/-- A failure names a task that the worker may end, if it names one. -/
def BlamesOwn (careful : Prop) (result : Except (Status × Option ArchiveTask) (Option Nat))
    (past : History) : Prop :=
  ∀ status task, result = .error (status, some task) → careful → MayEnd past task.id

/-- A listed object is archived by the winner of its task. -/
theorem archiveEntry_owns (entry : StagingKeyEntry) :
    (archiveEntry s client entry).run.Follows (owning careful) (BlamesOwn careful) past := by
  unfold archiveEntry
  apply follows_try
  apply follows_adapt
  apply follows_askMetadata
  · exact owning_makes (by rintro _ ⟨⟩)
  intro found _
  cases found with
  | error status => rintro _ _ ⟨⟩
  | ok obj =>
    refine follows_lifted (only_bind now_untasked fun _ => trivial) ?_
    intro task later _
    split
    · refine follows_lifted (only_bind only_askCache fun _ => trivial) ?_
      rintro _ _ _ _ _ ⟨⟩
    · apply follows_try
      apply follows_adapt
      apply (claimArchiveTask_owns task).mono
      intro result middle claimed
      cases result with
      | error status =>
        rintro _ _ ⟨⟩
        exact claimed.failed status rfl
      | ok claim =>
        cases claim with
        | none => rintro _ _ ⟨⟩
        | some task =>
          obtain ⟨same, won⟩ := claimed.granted task rfl
          rw [← same] at won
          apply follows_try
          apply follows_adapt
          apply (archiveClaimed_owns client entry _ obj won).mono
          intro result last won
          cases result with
          | ok bytes => rintro _ _ ⟨⟩
          | error status =>
            rintro _ _ ⟨⟩
            exact fun _ => .inl won

/-- So are all of them. -/
theorem archiveEntries_owns (entries : List StagingKeyEntry) :
    ∀ (result : ArchiveBatchResult) (past : History),
      (archiveEntries s client entries result).run.Follows (owning careful)
        (fun _ _ => True) past := by
  -- Induction on the listed objects, each of which may end the batch.
  induction entries with
  | nil => exact fun _ _ => trivial
  | cons entry rest ih =>
    intro result past
    unfold archiveEntries
    apply follows_lifted only_locally
    intro acquired later _
    split
    · apply follows_try
      apply follows_tried
      apply (archiveEntry_owns s client entry).mono
      intro outcome middle blames
      cases outcome with
      | ok archived =>
        apply follows_lifted only_locally
        exact fun _ last _ => ih _ last
      | error failure =>
        obtain ⟨status, task⟩ := failure
        cases task with
        | none =>
          apply follows_lifted only_locally
          exact fun _ _ _ => trivial
        | some task =>
          apply follows_try
          apply follows_tried
          apply (markArchiveTaskFailed_owns (blames status task rfl) status.message).mono
          intro _ last _
          apply follows_lifted only_locally
          exact fun _ _ _ => trivial
    · exact ih result later

/-- Archive workers start tasks that wait, and end those they have started. -/
theorem archiveStagingBatch_owns (limit : Nat) :
    (start (.archiveStagingBatch s client limit)).Follows (owning careful)
      (fun _ _ => True) past := by
  apply follows_bind
  apply Follows.mono
  · refine follows_untasked (only_try only_askCache fun _ => only_pure _)
      (fun entries later _ => archiveEntries_owns s client entries {} later)
      fun _ _ _ => trivial
  · exact fun _ _ _ => trivial

end

end ColdStore.Scheduler
