import ColdStore.Scheduler.RecallPass
import ColdStore.Scheduler.TapeRuns

/-! What restores and recall workers ask of the catalogue: about tasks they have seen, and objects. -/

namespace ColdStore.Scheduler

open Rust Process Program

/-- A recall task is one of those that are told apart by id, bucket and key. -/
def About (of : String → String → String → Prop) (task : RecallTask) : Prop :=
  of task.id task.bucket task.key

/-- A restore status that objects are given, which is never that of waiting for a tape. -/
def Markable (number : Int) : Prop :=
  ∃ status : RestoreStatus, number = status.number ∧ status ≠ .restoreWaitingForMedia ∧
    status ≠ .unspecified

/-- A recall task was seen while someone worked on it. -/
def SeenRunning (past : History) (id : String) : Prop :=
  ∃ exchange ∈ past, ∃ task ∈ shown exchange, task.id = id ∧
    task.status = RestoreStatus.restoreInProgress.number

/-- The calls of restores and recall workers: they write such tasks, and mark their objects. -/
def RestoreCall (of : String → String → String → Prop) : Call → Prop
  | .metadata (.apply (.putRecallTask task)) | .metadata (.apply (.updateRecallTask task)) =>
    About of task
  | .metadata (.apply (.updateRestoreStatus req)) =>
    (∃ id, of id req.bucket req.key) ∧ Markable req.status
  | .metadata (.apply _) => False
  | _ => True

/-- What restores and recall workers can rely on in an answer. -/
structure RestoreAnswer (of : String → String → String → Prop) (past : History)
    (exchange : Exchange Call Reply) : Prop where
  tasks : ∀ task ∈ shown exchange, About of task
  objects : ∀ bucket key obj,
    exchange = ⟨.metadata (.getObject bucket key), (.ok obj : Except Status ObjectMetadata)⟩ →
      obj.versionId = none
  /-- What is being worked on never goes back to waiting. -/
  refused : ∀ task, exchange = accepted recallTaskKind task →
    task.status = RestoreStatus.restoreWaitingForMedia.number → ¬ SeenRunning past task.id

/-- How restores and recall workers go about such tasks and their objects. -/
def restores (of : String → String → String → Prop) : Discipline Call Reply where
  comes := RestoreAnswer of
  makes _ := RestoreCall of

/-! What the programs call. -/

section

variable {of : String → String → String → Prop} {past : History} {task : RecallTask}

theorem follows_restoreCalls {α : Type} {program : Sched α} (only : program.Only (RestoreCall of)) :
    program.Follows (restores of) (fun _ _ => True) past :=
  follows_of_only (fun _ _ allowed => allowed) only

/-- The object of such a task may be marked. -/
theorem updateObjectRestoreStatus_asks (about : About of task) {status : RestoreStatus}
    (tells : status ≠ .restoreWaitingForMedia ∧ status ≠ .unspecified)
    (expireAt : Option Timestamp) :
    (updateObjectRestoreStatus task.bucket task.key status expireAt).run.Only (RestoreCall of) :=
  only_askMetadata ⟨⟨task.id, about⟩, status, rfl, tells⟩

/-- What a claim gives is the task that was claimed. -/
def ClaimsAbout (of : String → String → String → Prop) (result : Except Status (Option RecallTask)) :
    Prop := ∀ claimed, result = .ok (some claimed) → About of claimed

theorem claimsAbout_none : ClaimsAbout of (.ok none) := by
  intro claimed same
  cases same

theorem claimsAbout_failed (status : Status) : ClaimsAbout of (.error status) := by
  intro claimed same
  cases same

/-- Who starts a task asks about its object. -/
theorem startRecallTask_asks (about : About of task) :
    (startRecallTask task).run.Follows (restores of) (fun result _ => ClaimsAbout of result)
      past := by
  unfold startRecallTask
  apply follows_try
  apply follows_lift
  apply follows_perform trivial
  intro now _
  apply follows_try
  apply follows_tried
  apply follows_askMetadata about
  intro answer _
  cases answer with
  | error status =>
    -- A task another worker has moved meanwhile is nobody's claim here.
    dsimp only
    split
    · exact claimsAbout_none
    · exact claimsAbout_failed status
  | ok _ =>
    apply follows_try
    apply (follows_restoreCalls (updateObjectRestoreStatus_asks about (by decide) _)).mono
    intro marked _ _
    cases marked with
    | error status => exact claimsAbout_failed status
    | ok _ =>
      intro claimed same
      cases same
      exact about

/-- Who claims a task asks about its object. -/
theorem claimRecallTask_asks (about : About of task) :
    (claimRecallTask task).run.Follows (restores of) (fun result _ => ClaimsAbout of result)
      past := by
  unfold claimRecallTask
  apply follows_try
  apply putOnce_follows about
  · intro put _ _
    refine follows_metadata trivial (fun (current : RecallTask) comes => ?_) fun status _ =>
      claimsAbout_failed status
    -- What is read may be another task than the one that was put, but it is such a task.
    have read : About of current := comes.tasks current (List.mem_singleton_self _)
    split
    · exact claimsAbout_failed _
    · exact startRecallTask_asks read
    · exact startRecallTask_asks read
    · exact claimsAbout_none
    · exact claimsAbout_none
    · exact claimsAbout_none
    · exact claimsAbout_none
    · exact claimsAbout_none
  · exact fun status _ _ => claimsAbout_failed status

theorem markRecallFailed_asks (error : String) :
    (markRecallFailed task error).run.Follows (restores of) (fun _ _ => True) past := by
  unfold markRecallFailed
  refine follows_metadata trivial (fun (current : RecallTask) comes => ?_) fun _ _ => trivial
  have read : About of current := comes.tasks current (List.mem_singleton_self _)
  -- Everything after the read is about the task that was read.
  have marks : (updateObjectRestoreStatus current.bucket current.key .restoreFailed none).run.Only
      (RestoreCall of) := updateObjectRestoreStatus_asks read (by decide) none
  split
  · trivial
  · trivial
  · trivial
  · apply follows_restoreCalls
    refine only_try (only_lift only_locally) fun now => ?_
    refine only_try (only_tried (only_askMetadata read)) fun answer => ?_
    split
    · exact marks
    · split
      · exact only_try (only_throw _) fun _ => marks
      · exact marks

/-- A task that is being worked on is not sent back, so its object is not either. -/
theorem retryRecallTaskLater_asks (error : String) :
    (retryRecallTaskLater task error).run.Follows (restores of) (fun _ _ => True) past := by
  unfold retryRecallTaskLater
  refine follows_metadata trivial (fun (current : RecallTask) comes => ?_) fun _ _ => trivial
  have read : About of current := comes.tasks current (List.mem_singleton_self _)
  split
  · trivial
  · rename_i running
    refine follows_metadata read (fun _ comes => ?_) fun _ _ => trivial
    -- The task was seen running, so its return to waiting is refused.
    refine absurd ?_ (comes.refused _ rfl rfl)
    exact ⟨_, List.mem_concat_self, current,
      List.mem_singleton_self _, rfl, tryFrom_eq_some.mp running⟩
  · trivial

variable [Sha256]

/-- Who processes a task asks about its object. -/
theorem processRecallTask_asks (about : About of task) (driveId : String) :
    (processRecallTask driveId task).run.Only (RestoreCall of) := by
  unfold processRecallTask
  -- The object is read, then the tape; both are only looked at.
  refine only_try only_askMetadata fun obj => only_try (only_checked _) fun _ => ?_
  refine only_try (readBundle_only (fun _ _ => trivial) _ _ _) fun data => ?_
  refine only_try (only_checked _) fun _ => ?_
  refine only_try (only_lift (recallExpiry_only trivial _)) fun expireAt => ?_
  refine only_try only_askCache fun _ => only_try (only_lift only_locally) fun now => ?_
  refine only_try (only_askMetadata about) fun _ => ?_
  exact only_try (updateObjectRestoreStatus_asks about (by decide) _) fun _ => only_pure _

variable (s : SchedulerState)

theorem recallClaimed_asks (about : About of task) :
    (recallClaimed s task).Follows (restores of) (fun _ _ => True) past := by
  unfold recallClaimed
  apply follows_bind
  apply (follows_restoreCalls (processRecallTask_asks about _)).mono
  intro outcome later _
  cases outcome with
  | ok bytes => trivial
  | error status =>
    dsimp only
    apply follows_bind
    -- Either way of recording the failure keeps to the discipline.
    have recorded : (if isRetriableRecallProcessingError status then
        retryRecallTaskLater task status.message
      else markRecallFailed task status.message).run.Follows (restores of) (fun _ _ => True)
        later := by
      split
      · exact retryRecallTaskLater_asks _
      · exact markRecallFailed_asks _
    apply recorded.mono
    intro finalized _ _
    cases finalized <;> trivial

/-- A worker asks about the object of its task. -/
theorem recallTask_asks (about : About of task) :
    (recallTask s task).Follows (restores of) (fun _ _ => True) past := by
  unfold recallTask
  apply follows_bind
  apply follows_perform trivial
  intro acquired _
  split
  · apply follows_bind
    apply follows_perform trivial
    intro _ _
    apply follows_bind
    apply (claimRecallTask_asks about).mono
    intro claimed later claims
    -- However it ends, what the task held is given back.
    have released : ∀ step : Option Status × Option Processed, (do
        releaseRecallTask s (phase1RecallTaskKey task)
        releaseTapeLease s task.tapeId
        pure step : Sched (Option Status × Option Processed)).Only (RestoreCall of) :=
      fun step => only_bind only_locally fun _ =>
        only_bind only_locally fun _ => trivial
    dsimp only
    split
    · exact follows_bind (follows_restoreCalls (released _))
    · exact follows_bind (follows_restoreCalls (released _))
    · rename_i found
      apply follows_bind
      apply (recallClaimed_asks s (claims found rfl)).mono
      exact fun step _ _ => follows_restoreCalls (released step)
  · trivial

/-- So it does for one task after the other. -/
theorem recallTasks_asks (tasks : List RecallTask) :
    ∀ (result : RecallBatchResult) (processed : List Processed) {past : History},
      (∀ task ∈ tasks, About of task) →
      (recallTasks s tasks result processed).Follows (restores of) (fun _ _ => True) past := by
  -- By induction on the tasks, each of which was listed as being about its own object.
  induction tasks with
  | nil => exact fun _ _ _ _ => trivial
  | cons task rest ih =>
    intro result processed past about
    unfold recallTasks
    apply follows_bind
    apply follows_perform trivial
    intro _ _
    apply follows_bind
    apply (recallTask_asks s (about task (List.mem_cons_self ..))).mono
    rintro ⟨failure, step⟩ later _
    apply follows_bind
    apply follows_perform trivial
    intro _ _
    cases failure with
    | some status => trivial
    | none => exact ih _ _ fun other mem => about other (List.mem_cons_of_mem _ mem)

/-- A recall worker recalls what it has listed. -/
theorem recallPendingBatch_asks (limit : Nat) :
    (recallPendingBatch s limit).Follows (restores of) (fun _ _ => True) past := by
  unfold recallPendingBatch
  apply follows_bind
  apply follows_askMetadata trivial
  intro listed comes
  cases listed with
  | error status => trivial
  | ok tasks =>
    apply recallTasks_asks
    intro task mem
    have kept := (List.mem_insertionSort _).mp (List.mem_of_mem_take mem)
    exact comes.tasks task (List.mem_filter.mp kept).1

omit [Sha256]

/-- An object was marked as waiting to be recalled, and that was accepted. -/
def marked (bucket key : String) (expireAt : Option Timestamp) : Exchange Call Reply :=
  ⟨.metadata (.apply (.updateRestoreStatus
    ⟨bucket, key, RestoreStatus.restorePending.number, expireAt⟩)), (.ok () : Except Status Unit)⟩

/-- A restore that is accepted has marked its object. -/
def Accepts (bucket key : String) (result : Except Status RestoreObjectResponse)
    (past : History) : Prop := result = .ok ⟨202⟩ → ∃ expireAt, marked bucket key expireAt ∈ past

variable {bucket key : String}

theorem accepts_failed (status : Status) : Accepts bucket key (.error status) past := by
  intro same
  cases same

theorem beginRestore_asks (named : of (phase1RecallTaskId bucket key none) bucket key)
    {obj : ObjectMetadata} (plain : obj.versionId = none) (days : Nat) (tier : RestoreTier) :
    (beginRestore bucket key obj days tier).run.Follows (restores of) (Accepts bucket key)
      past := by
  have marks : ∀ status : RestoreStatus, status ≠ .restoreWaitingForMedia ∧ status ≠ .unspecified →
      ∀ expireAt, RestoreCall of (.metadata (.apply (.updateRestoreStatus
        ⟨bucket, key, status.number, expireAt⟩))) :=
    fun status tells expireAt => ⟨⟨_, named⟩, status, rfl, tells⟩
  unfold beginRestore
  apply follows_try
  cases archivePlace obj with
  | error status => exact accepts_failed status
  | ok place =>
    apply follows_try
    apply follows_lift
    apply follows_perform trivial
    intro now _
    refine follows_metadata (marks .restorePending (by decide) _) (fun _ _ => ?_) fun status _ =>
      accepts_failed status
    apply follows_try
    apply follows_lift
    apply follows_perform trivial
    intro time _
    apply follows_try
    apply follows_tried
    apply follows_askMetadata
    · show of (phase1RecallTaskId bucket key obj.versionId) bucket key
      rw [plain]
      exact named
    intro put _
    -- The object is marked by now; a task that cannot be stored marks it as failed instead.
    cases put with
    | ok _ =>
      intro _
      refine ⟨some (daysFromNow now (max days 1)), ?_⟩
      exact List.mem_append_left _ (List.mem_append_left _ List.mem_concat_self)
    | error status =>
      apply follows_try
      apply follows_tried
      apply follows_askMetadata (marks .restoreFailed (by decide) none)
      exact fun _ _ => accepts_failed status

/-- A restore asks about its object. -/
theorem restoreObject_asks (named : of (phase1RecallTaskId bucket key none) bucket key) (days : Nat)
    (tier : RestoreTier) :
    (restoreObject bucket key days tier).run.Follows (restores of) (Accepts bucket key) past := by
  unfold restoreObject
  refine follows_metadata trivial (fun obj comes => ?_) fun status _ => accepts_failed status
  have plain : obj.versionId = none := comes.objects bucket key obj rfl
  apply follows_try
  cases ensure (obj.storageClass = StorageClass.cold.number) _ with
  | error status => exact accepts_failed status
  | ok _ =>
    apply follows_try
    cases ensure (tier ≠ .expedited) _ with
    | error status => exact accepts_failed status
    | ok _ =>
      -- Only a restore that begins anew is accepted.
      split
      · intro same; cases same
      · intro same; cases same
      · intro same; cases same
      · intro same; cases same
      · exact accepts_failed _
      · exact accepts_failed _
      · exact beginRestore_asks named plain days tier
      · exact beginRestore_asks named plain days tier

end

/-! What the services make of it. -/

/-- The catalogue holds only such recall tasks, and objects without versions. -/
structure CatalogueAbout (of : String → String → String → Prop) (s : MetadataState) : Prop where
  keys : s.KeysAgree
  plain : Unversioned s
  tasks : ∀ id task, s.recallTasks.get id = some task → About of task

/-- The restore status that is recorded at a place. -/
def restoreStatusAt (s : MetadataState) (place : ObjectKey) : Option (Option Int) :=
  (s.objects.get place).map ObjectMetadata.restoreStatus

/-- Where a change of restore status has found its object, and what it has changed. -/
theorem updateRestoreStatus_statusAt {s : MetadataState} (plain : Unversioned s) {now : Timestamp}
    {req : UpdateRestoreStatusRequest} (ok : (updateRestoreStatus now req s).1 = .ok ()) :
    ∃ current, restoreStatusAt s ⟨req.bucket, req.key, none⟩ = some current ∧
      validateRestoreTransition current req.status = .ok () ∧
      ∀ place, restoreStatusAt (updateRestoreStatus now req s).2 place =
        if place = ⟨req.bucket, req.key, none⟩ then some (some req.status)
        else restoreStatusAt s place := by
  obtain ⟨found, obj, searched, valid, after⟩ := updateRestoreStatus_ok ok
  obtain ⟨stored, bucket, key⟩ := findObjectMut_stored searched
  -- Without versions there is one record under a name.
  have place : found = ⟨req.bucket, req.key, none⟩ := by
    rw [← bucket, ← key, ← plain found obj stored]
  subst place
  refine ⟨obj.restoreStatus, by rw [restoreStatusAt, stored]; rfl, valid, fun place => ?_⟩
  rw [after, restoreStatusAt, MetadataState.writeObject, HashMap.get_update]
  split
  · rw [stored]
    rfl
  · rfl

section

variable {of : String → String → String → Prop} (svc : CacheService) (moment : Moment)
  {w : World} {past : History} {call : Call}

/-- What is closed stays closed, whatever is called. -/
theorem serve_recallClosed (call : Call) {id : String} (closed : w.metadata.RecallClosed id) :
    (serve svc moment call w).2.metadata.RecallClosed id := by
  obtain ⟨task, stored, closed⟩ := closed
  rcases task_cases svc moment recallTaskKind call stored with
    stays | ⟨next, _, _, follows, present⟩
  · exact ⟨task, stays, closed⟩
  · exact ⟨next, present, closed.of_transition follows⟩

/-- What was seen being worked on is closed, and so is what a call has just shown. -/
theorem seenRunning_step (keys : w.metadata.KeysAgree)
    (running : ∀ id, SeenRunning past id → w.metadata.RecallClosed id) :
    ∀ id, SeenRunning (past ++ [⟨call, (serve svc moment call w).1⟩]) id →
      (serve svc moment call w).2.metadata.RecallClosed id := by
  rintro id ⟨exchange, mem, task, shows, named, status⟩
  rcases List.mem_append.mp mem with old | new
  · exact serve_recallClosed svc moment call (running id ⟨exchange, old, task, shows, named, status⟩)
  · rw [List.mem_singleton.mp new] at shows
    exact ⟨task, named ▸ shown_stored keys shows, .restoreInProgress, status, rfl⟩

section

variable (about : CatalogueAbout of w.metadata)

include about

theorem CatalogueAbout.served (allowed : RestoreCall of call) :
    CatalogueAbout of (serve svc moment call w).2.metadata := by
  have keys := serve_keysAgree svc moment about.keys call
  rcases serve_metadata svc moment call w with same | ⟨cmd, rfl, after⟩
  · rw [same]
    exact about
  · rw [after] at keys ⊢
    have framed := applyCommand_framed moment.seconds w.metadata cmd
    refine ⟨keys, ?_, fun id stored found => ?_⟩
    · cases cmd with
      | putRecallTask _ | updateRecallTask _ => rw [Unversioned, framed.objects rfl]; exact about.plain
      | updateRestoreStatus req =>
        exact Applied.given_keeps about.plain fun found _ => Applied.given_keeps about.plain
          fun _ _ => about.plain.update found.1 _
      | _ => exact allowed.elim
    · rcases recallTasks_cases found with old | ⟨task, sent, sameId, bucket, key⟩
      · exact about.tasks id stored old
      · have such : About of task := by rcases sent with rfl | rfl <;> exact allowed
        rw [About, sameId, bucket, key]
        exact such

theorem CatalogueAbout.answers (allowed : RestoreCall of call)
    (running : ∀ id, SeenRunning past id → w.metadata.RecallClosed id) :
    RestoreAnswer of past ⟨call, (serve svc moment call w).1⟩ where
  tasks task shows := about.served svc moment allowed |>.tasks _ task (shown_stored about.keys shows)
  objects bucket key obj same := by
    obtain ⟨rfl, answer⟩ := Sigma.mk.inj same
    have found : findObject w.metadata bucket key none = .ok obj :=
      (serve_metadata_ok svc moment (eq_of_heq answer)).1
    obtain ⟨stored, _⟩ := findObject_keyed about.keys found
    exact about.plain _ obj stored
  refused task same waits seen := by
    obtain ⟨⟨current, stored, follows⟩, _⟩ := accepted_effect svc moment same
    obtain ⟨known, present, closed⟩ := running _ seen
    obtain rfl := Option.some.inj (stored.symm.trans present)
    have ended := (closed.of_transition follows).not_pending
    rw [waits] at ended
    exact absurd ended (by decide)

/-- The restore status at a place stays, or is changed to one that may follow it. -/
theorem CatalogueAbout.status_cases (allowed : RestoreCall of call) (place : ObjectKey) :
    restoreStatusAt (serve svc moment call w).2.metadata place =
        restoreStatusAt w.metadata place ∨
      ∃ req current, call = .metadata (.apply (.updateRestoreStatus req)) ∧
        place = ⟨req.bucket, req.key, none⟩ ∧ restoreStatusAt w.metadata place = some current ∧
        validateRestoreTransition current req.status = .ok () ∧
        restoreStatusAt (serve svc moment call w).2.metadata place =
          some (some req.status) := by
  rcases serve_metadata svc moment call w with same | ⟨cmd, rfl, after⟩
  · exact .inl (by rw [same])
  · rw [after]
    have framed := applyCommand_framed moment.seconds w.metadata cmd
    -- Of the three commands, only the mark writes objects, and a refused one writes nothing.
    cases cmd with
    | putRecallTask task => exact .inl (by rw [restoreStatusAt, framed.objects rfl, restoreStatusAt])
    | updateRecallTask task =>
      exact .inl (by rw [restoreStatusAt, framed.objects rfl, restoreStatusAt])
    | updateRestoreStatus req =>
      cases answer : (applyCommand moment.seconds w.metadata (.updateRestoreStatus req)).1 with
      | error status => exact .inl (by rw [applyCommand_atomic _ _ _ status answer])
      | ok _ =>
        obtain ⟨current, before, valid, changed⟩ := updateRestoreStatus_statusAt about.plain answer
        by_cases same : place = ⟨req.bucket, req.key, none⟩
        · subst same
          exact .inr ⟨req, current, rfl, rfl, before, valid, (changed _).trans (if_pos rfl)⟩
        · exact .inl ((changed place).trans (if_neg same))
    | _ => exact allowed.elim

end

/-- A mark that was accepted may follow the status that was recorded. -/
theorem marked_effect (plain : Unversioned w.metadata) {bucket key : String}
    {expireAt : Option Timestamp}
    (same : (⟨call, (serve svc moment call w).1⟩ : Exchange Call Reply) =
      marked bucket key expireAt) :
    ∃ current, restoreStatusAt w.metadata ⟨bucket, key, none⟩ = some current ∧
      validateRestoreTransition current RestoreStatus.restorePending.number = .ok () ∧
      restoreStatusAt (serve svc moment call w).2.metadata ⟨bucket, key, none⟩ =
        some (some RestoreStatus.restorePending.number) := by
  obtain ⟨rfl, answer⟩ := Sigma.mk.inj same
  -- A mark that was answered well has been applied.
  obtain ⟨ok, after⟩ := serve_metadata_ok svc moment (eq_of_heq answer)
  obtain ⟨current, before, valid, changed⟩ := updateRestoreStatus_statusAt plain ok
  refine ⟨current, before, valid, ?_⟩
  rw [after]
  exact (changed _).trans (if_pos rfl)

end

/-- Of the statuses that objects are given, what may follow is a later stage. -/
theorem restoreStage_lt {current : Option Int} {next : Int}
    (known : ∀ number ∈ current, Markable number) (markable : Markable next)
    (valid : validateRestoreTransition current next = .ok ()) :
    restoreStage current < restoreStage (some next) := by
  obtain ⟨status, rfl, _, told⟩ := markable
  rw [restoreStage_number]
  -- An object without a status is before every stage.
  cases current with
  | none =>
    show 0 < status.stage
    revert told
    cases status <;> decide
  | some number =>
    obtain ⟨old, rfl, waits, meant⟩ := known number rfl
    rw [restoreStage_number]
    exact RestoreStatus.stage_lt (mayFollow_of_valid valid) waits told meant

end ColdStore.Scheduler
