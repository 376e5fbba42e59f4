import ColdStore.Scheduler.ArchiveCalls
import ColdStore.Scheduler.Claims

/-! Passes of the workers that use tapes, and the leases they hold while they do. -/

namespace ColdStore.Scheduler

open Rust Process Program

/-- A pass of a worker that uses tapes, or something else beside it. -/
inductive TapeRun where
  | archive (s : SchedulerState)
  | recalls (s : SchedulerState) (limit : Nat)
  | other (program : Sched Unit)

/-- The scheduler that a pass belongs to. -/
def TapeRun.scheduler? : TapeRun → Option Nat
  | .archive s | .recalls s _ => some s.number
  | .other _ => none

/-- Whether an exchange takes or gives back the lease of a tape. -/
def leaseMark (scheduler : Nat) (tapeId : String) : Exchange Call Reply → Option Bool
  | ⟨.here (.acquireTapeLease owner named), _⟩ =>
    if owner = scheduler ∧ named = tapeId then some true else none
  | ⟨.here (.releaseTapeLease owner named), _⟩ =>
    if owner = scheduler ∧ named = tapeId then some false else none
  | _ => none

/-- The lease of a tape was taken and has not been given back since. -/
def HoldsLease (past : History) (scheduler : Nat) (tapeId : String) : Prop :=
  latest (leaseMark scheduler tapeId) false past = true

/-- The tape of a recall task that an exchange has claimed. -/
def claimMark : Exchange Call Reply → Option (Option String)
  | ⟨.metadata (.apply (.updateRecallTask task)), answer⟩ =>
    if task.status = RestoreStatus.restoreInProgress.number ∧ Except.isOk (ε := Status) answer then
      some (some task.tapeId)
    else none
  | _ => none

/-- The tape that a pass writes to or reads from: the configured one, or that of the claimed task. -/
def TapeRun.addressed : TapeRun → History → Option String
  | .archive s, _ => some s.config.archiveTapeId
  | .recalls _ _, past => latest claimMark none past
  | .other _, _ => none

/-- The recall tasks that an answer shows. -/
def shown : Exchange Call Reply → List RecallTask
  | ⟨.metadata .listPendingRecallTasks, answer⟩ =>
    match (answer : Except Status (List RecallTask)) with
    | .ok tasks => tasks
    | .error _ => []
  | ⟨.metadata (.getRecallTask _), answer⟩ =>
    match (answer : Except Status RecallTask) with
    | .ok task => [task]
    | .error _ => []
  | _ => []

/-- A recall task was seen, and it was on this tape. -/
def SeenOn (past : History) (id tapeId : String) : Prop :=
  ∃ exchange ∈ past, ∃ task ∈ shown exchange, task.id = id ∧ task.tapeId = tapeId

/-- The calls a pass may make after what it has called before. -/
def TapeRun.mayCall (run : TapeRun) (past : History) : Call → Prop
  -- The tape in use is leased, and it is the tape that is loaded.
  | .tape req => ∀ scheduler, run.scheduler? = some scheduler →
    ∃ tapeId, run.addressed past = some tapeId ∧ HoldsLease past scheduler tapeId ∧
      req.LoadsOnly tapeId
  | .here (.releaseTapeLease scheduler tapeId) => HoldsLease past scheduler tapeId
  -- Tasks stay on their tapes.
  | .metadata (.apply (.updateRecallTask task)) => SeenOn past task.id task.tapeId
  | _ => True

/-- How passes go about tapes. -/
def leasing (run : TapeRun) : Discipline Call Reply where
  comes past exchange := NamedAnswer exchange ∧
    ∀ task ∈ shown exchange, ∀ tapeId, SeenOn past task.id tapeId → task.tapeId = tapeId
  makes := run.mayCall

section

variable {past later : History} {scheduler : Nat} {id tapeId : String}

theorem HoldsLease.concat (held : HoldsLease past scheduler tapeId)
    {exchange : Exchange Call Reply} (other : leaseMark scheduler tapeId exchange = none) :
    HoldsLease (past ++ [exchange]) scheduler tapeId := by
  rw [HoldsLease, latest_concat, other]
  exact held

theorem holdsLease_taken (answer : Unit) : HoldsLease
    (past ++ [⟨.here (.acquireTapeLease scheduler tapeId), answer⟩]) scheduler tapeId := by
  rw [HoldsLease, latest_concat]
  simp [leaseMark]

theorem SeenOn.mono (seen : SeenOn past id tapeId) (longer : past ⊆ later) :
    SeenOn later id tapeId := by
  obtain ⟨exchange, mem, shows⟩ := seen
  exact ⟨exchange, longer mem, shows⟩

end

/-! What the services make of it. -/

/-- Whoever holds a lease is the only one, and the tape is leased. -/
structure LeasesHeld (trace : Trace Call Reply TapeRun) (locks : Nat → SchedulerLocks) : Prop where
  leased : ∀ spot scheduler tapeId, HoldsLease (ownPart spot trace) scheduler tapeId →
    tapeId ∈ (locks scheduler).leasedTapes
  single : ∀ first second scheduler tapeId, HoldsLease (ownPart first trace) scheduler tapeId →
    HoldsLease (ownPart second trace) scheduler tapeId → first = second

/-- Leases are held by one pass each, and recall tasks stay on the tapes they were seen on. -/
structure LeasesAgree (trace : Trace Call Reply TapeRun) (w : World) : Prop
    extends LeasesHeld trace w.schedulers where
  keys : w.metadata.KeysAgree
  seen : ∀ entry ∈ trace, ∀ task ∈ shown entry.exchange, ∃ stored,
    w.metadata.recallTasks.get task.id = some stored ∧ stored.tapeId = task.tapeId

theorem LeasesAgree.nil {w : World} (keys : w.metadata.KeysAgree) : LeasesAgree [] w where
  keys := keys
  seen entry mem := (List.not_mem_nil mem).elim
  leased spot scheduler tapeId held := by cases held
  single first second scheduler tapeId held := by cases held

section

variable {svc : CacheService} {moment : Moment} {w : World}

/-- A task that an answer shows is stored as it is shown. -/
theorem shown_stored (keys : w.metadata.KeysAgree) {call : Call} {task : RecallTask}
    (shows : task ∈ shown ⟨call, (serve svc moment call w).1⟩) :
    (serve svc moment call w).2.metadata.recallTasks.get task.id = some task := by
  have named := HashMap.keyed_iff.mp keys.recallTasks
  unfold shown at shows
  split at shows
  · rename_i answer same
    obtain ⟨rfl, reply⟩ := Sigma.mk.inj same
    split at shows
    · rename_i tasks
      obtain ⟨listed, after⟩ := serve_metadata_ok svc moment (eq_of_heq reply)
      obtain rfl := Except.ok.inj listed
      -- What is listed is one of the values, and each is stored under its id.
      obtain ⟨key, stored⟩ := (HashMap.mem_values _ _).mp (List.mem_filter.mp shows).1
      rw [after, ← named key task stored]
      exact stored
    · cases shows
  · rename_i id answer same
    obtain ⟨rfl, reply⟩ := Sigma.mk.inj same
    split at shows
    · rename_i found
      obtain ⟨read, after⟩ := serve_metadata_ok svc moment (eq_of_heq reply)
      have stored := (okOr_eq_ok _ _ _).mp read
      obtain rfl := List.mem_singleton.mp shows
      rw [after, ← named id task stored]
      exact stored
    · cases shows
  · cases shows

/-- Only the two calls about leases change what is leased. -/
theorem LocalCall.serve_leasedTapes (moment : Moment) (locks : SchedulerLocks) (call : LocalCall) :
    (call.serve moment locks).2.leasedTapes = match call with
      | .acquireTapeLease _ tapeId => tapeId :: locks.leasedTapes
      | .releaseTapeLease _ tapeId => locks.leasedTapes.filter (· ≠ tapeId)
      | _ => locks.leasedTapes := by
  cases call with
  | acquireArchiveItem | acquireRecallTask =>
    simp only [LocalCall.serve]
    split <;> rfl
  | _ => rfl

/-- What a call does to the tapes a scheduler has leased. -/
inductive LeaseEffect (call : Call) (before after : Nat → SchedulerLocks) : Prop where
  | taken (scheduler : Nat) (tapeId : String)
      (sent : call = .here (.acquireTapeLease scheduler tapeId))
      (tapes : ∀ other, (after other).leasedTapes =
        if other = scheduler then tapeId :: (before scheduler).leasedTapes
        else (before other).leasedTapes)
  | returned (scheduler : Nat) (tapeId : String)
      (sent : call = .here (.releaseTapeLease scheduler tapeId))
      (tapes : ∀ other, (after other).leasedTapes =
        if other = scheduler then (before scheduler).leasedTapes.filter (· ≠ tapeId)
        else (before other).leasedTapes)
  | none (unmarked : ∀ scheduler tapeId answer, leaseMark scheduler tapeId ⟨call, answer⟩ = none)
      (tapes : ∀ other, (after other).leasedTapes = (before other).leasedTapes)

/-- What a call means for a lease is what it does to it. -/
theorem serve_leases (svc : CacheService) (moment : Moment) (w : World) (call : Call) :
    LeaseEffect call w.schedulers (serve svc moment call w).2.schedulers := by
  -- Only the calls a scheduler makes to itself touch its leases.
  cases call with
  | metadata | cache | tape => exact .none (fun _ _ _ => rfl) fun _ => rfl
  | here call =>
    have tapes : ∀ other, ((serve svc moment (.here call) w).2.schedulers other).leasedTapes =
        if other = call.scheduler then
          (call.serve moment (w.schedulers call.scheduler)).2.leasedTapes
        else (w.schedulers other).leasedTapes :=
      fun other => apply_ite SchedulerLocks.leasedTapes _ _ _
    simp only [LocalCall.serve_leasedTapes] at tapes
    cases call with
    | acquireTapeLease scheduler tapeId =>
      exact .taken scheduler tapeId rfl tapes
    | releaseTapeLease scheduler tapeId => exact .returned scheduler tapeId rfl tapes
    | _ =>
      refine .none (fun _ _ _ => rfl) fun other => (tapes other).trans ?_
      split
      · rename_i same
        rw [same]
      · rfl

variable {entry : Entry Call Reply TapeRun}

/-- A lease was just taken, or it was held before and is not given back. -/
theorem holdsLease_concat {trace : Trace Call Reply TapeRun} {spot scheduler : Nat}
    {tapeId : String} (held : HoldsLease (ownPart spot (trace ++ [entry])) scheduler tapeId) :
    entry.spot = spot ∧ leaseMark scheduler tapeId entry.exchange = some true ∨
      HoldsLease (ownPart spot trace) scheduler tapeId ∧
        (entry.spot = spot → leaseMark scheduler tapeId entry.exchange ≠ some false) := by
  by_cases own : entry.spot = spot
  · subst own
    rw [HoldsLease, ownPart_concat_self, latest_concat] at held
    -- The latest mark decides, and this exchange has one or leaves the earlier ones standing.
    cases mark : leaseMark scheduler tapeId entry.exchange with
    | none =>
      rw [mark] at held
      exact .inr ⟨held, fun _ => by simp⟩
    | some taken =>
      rw [mark, Option.getD_some] at held
      exact .inl ⟨rfl, congrArg some held⟩
  · rw [ownPart_concat_ne _ _ own] at held
    exact .inr ⟨held, fun same => absurd same own⟩

variable {trace : Trace Call Reply TapeRun} {spot : Nat} {run : TapeRun} {call : Call}

variable {after : Nat → SchedulerLocks}

variable (agree : LeasesAgree trace w)

include agree

/-- Leases that were held before, and whose tapes are still leased. -/
theorem LeasesAgree.still_held {later : Trace Call Reply TapeRun}
    (old : ∀ {other scheduler tapeId}, HoldsLease (ownPart other later) scheduler tapeId →
      HoldsLease (ownPart other trace) scheduler tapeId ∧ tapeId ∈ (after scheduler).leasedTapes) :
    LeasesHeld later after where
  leased _ _ _ held := (old held).2
  single first second scheduler tapeId firstHeld secondHeld :=
    agree.single first second scheduler tapeId (old firstHeld).1 (old secondHeld).1

/-- A lease that is taken was free before. -/
theorem LeasesAgree.lease_taken {owner : Nat} {named : String}
    (free : enabled (.here (.acquireTapeLease owner named)) w = true)
    (answer : Reply (.here (.acquireTapeLease owner named)))
    (tapes : ∀ other, (after other).leasedTapes =
      if other = owner then named :: (w.schedulers owner).leasedTapes
      else (w.schedulers other).leasedTapes) :
    LeasesHeld (trace ++ [⟨spot, run, ⟨.here (.acquireTapeLease owner named), answer⟩⟩])
      after := by
  have unheld : ∀ other, ¬ HoldsLease (ownPart other trace) owner named := by
    intro other held
    have leased := agree.leased other owner named held
    simp [enabled, LocalCall.enabled, LocalCall.scheduler, leased] at free
  have marked : ∀ {scheduler tapeId}, leaseMark scheduler tapeId
      ⟨.here (.acquireTapeLease owner named), answer⟩ = some true →
        owner = scheduler ∧ named = tapeId := by
    intro scheduler tapeId mark
    simpa [leaseMark] using mark
  constructor
  · intro other scheduler tapeId held
    rw [tapes]
    obtain ⟨_, mark⟩ | ⟨old, _⟩ := holdsLease_concat held
    · obtain ⟨rfl, rfl⟩ := marked mark
      simp
    · have there := agree.leased other scheduler tapeId old
      split
      · rename_i same
        exact List.mem_cons_of_mem _ (same ▸ there)
      · exact there
  · -- Nobody else held the lease that is taken now.
    intro first second scheduler tapeId firstHeld secondHeld
    obtain ⟨rfl, firstMark⟩ | ⟨firstOld, _⟩ := holdsLease_concat firstHeld
    · obtain ⟨rfl, _⟩ | ⟨secondOld, _⟩ := holdsLease_concat secondHeld
      · rfl
      · obtain ⟨rfl, rfl⟩ := marked firstMark
        exact absurd secondOld (unheld second)
    · obtain ⟨rfl, secondMark⟩ | ⟨secondOld, _⟩ := holdsLease_concat secondHeld
      · obtain ⟨rfl, rfl⟩ := marked secondMark
        exact absurd firstOld (unheld first)
      · exact agree.single first second scheduler tapeId firstOld secondOld

/-- A lease is given back by the pass that holds it. -/
theorem LeasesAgree.lease_returned {owner : Nat} {named : String}
    (holds : HoldsLease (ownPart spot trace) owner named)
    (answer : Reply (.here (.releaseTapeLease owner named)))
    (tapes : ∀ other, (after other).leasedTapes =
      if other = owner then (w.schedulers owner).leasedTapes.filter (· ≠ named)
      else (w.schedulers other).leasedTapes) :
    LeasesHeld (trace ++ [⟨spot, run, ⟨.here (.releaseTapeLease owner named), answer⟩⟩])
      after := by
  apply agree.still_held
  intro other scheduler tapeId held
  obtain ⟨_, mark⟩ | ⟨old, kept⟩ := holdsLease_concat held
  · simp [leaseMark] at mark
  -- The lease that is returned was held by this run alone, so nobody else loses theirs.
  · have ne : ¬ (owner = scheduler ∧ named = tapeId) := by
      rintro ⟨rfl, rfl⟩
      have same := agree.single spot other owner named holds old
      exact kept same (if_pos ⟨rfl, rfl⟩)
    refine ⟨old, ?_⟩
    have there := agree.leased other scheduler tapeId old
    rw [tapes]
    split
    · rename_i same
      subst same
      exact List.mem_filter.mpr ⟨there, by simpa using fun same => ne ⟨rfl, same.symm⟩⟩
    · exact there

/-- Whoever holds a lease after a call was first to take it, and the tape is leased. -/
theorem LeasesAgree.leases (free : enabled call w = true)
    (makes : run.mayCall (ownPart spot trace) call) (answer : Reply call)
    (effect : LeaseEffect call w.schedulers after) :
    LeasesHeld (trace ++ [⟨spot, run, ⟨call, answer⟩⟩]) after := by
  -- What the call does to the leases of the world is what it marks in the trace.
  cases effect with
  | taken owner named sent tapes =>
    subst sent
    exact agree.lease_taken free answer tapes
  | returned owner named sent tapes =>
    subst sent
    exact agree.lease_returned makes answer tapes
  | none unmarked tapes =>
    apply agree.still_held
    intro other scheduler tapeId held
    obtain ⟨_, mark⟩ | ⟨old, _⟩ := holdsLease_concat held
    · rw [unmarked] at mark
      cases mark
    · exact ⟨old, (tapes scheduler).symm ▸ agree.leased other scheduler tapeId old⟩

/-- A task that was seen is still stored, on the tape it was seen on. -/
theorem LeasesAgree.stays (svc : CacheService) (moment : Moment)
    (makes : run.mayCall (ownPart spot trace) call) (mem : entry ∈ trace) {task : RecallTask}
    (shows : task ∈ shown entry.exchange) :
    ∃ stored, (serve svc moment call w).2.metadata.recallTasks.get task.id = some stored ∧
      stored.tapeId = task.tapeId := by
  obtain ⟨stored, present, same⟩ := agree.seen entry mem task shows
  obtain stays | ⟨updated, rfl, named, _, now⟩ :=
    task_cases svc moment recallTaskKind call present
  · exact ⟨stored, stays, same⟩
  · refine ⟨updated, now, ?_⟩
    -- The update was made by a pass that has seen the task too.
    obtain ⟨exchange, own, seen, shows', id, tape⟩ := makes
    obtain ⟨source, recorded, _, rfl⟩ := (mem_ownPart _ _).mp own
    obtain ⟨stored', present', same'⟩ := agree.seen source recorded seen shows'
    have key : seen.id = task.id := id.trans named
    rw [key, present, Option.some.injEq] at present'
    rw [← tape, ← same', ← present', same]

/-- A call that a pass may make keeps leases and tapes in agreement, and so does its answer. -/
theorem LeasesAgree.step (free : enabled call w = true)
    (makes : run.mayCall (ownPart spot trace) call) :
    LeasesAgree (trace ++ [⟨spot, run, ⟨call, (serve svc moment call w).1⟩⟩])
        (serve svc moment call w).2 ∧ (leasing run).comes (ownPart spot trace)
        ⟨call, (serve svc moment call w).1⟩ := by
  -- The leases, what was shown of tasks, and what this call shows, one after the other.
  have leases := agree.leases free makes (serve svc moment call w).1
    (serve_leases svc moment w call)
  refine ⟨⟨leases, serve_keysAgree svc moment agree.keys call, fun entry mem task shows => ?_⟩,
    serve_named svc moment agree.keys call, fun task shows tapeId seen => ?_⟩
  · rcases List.mem_append.mp mem with old | new
    · exact agree.stays svc moment makes old shows
    · rw [List.mem_singleton.mp new] at shows
      exact ⟨task, shown_stored agree.keys shows, rfl⟩
  · obtain ⟨exchange, own, other, shows', named, rfl⟩ := seen
    obtain ⟨entry, recorded, _, rfl⟩ := (mem_ownPart _ _).mp own
    obtain ⟨stored, present, same⟩ := agree.stays svc moment makes recorded shows'
    rw [named, shown_stored agree.keys shows, Option.some.injEq] at present
    rw [present, same]

end

/-! What the workers call. -/

/-- The archive worker leases the tape it writes to. -/
def SchedulerConfig.LeasesOwnTape (config : SchedulerConfig) : Prop :=
  config.archiveTapeSet = [] ∨ config.archiveTapeSet.head? = some config.archiveTapeId

section

variable {past : History}

/-- An archive worker takes and gives back no lease while it works. -/
theorem leaseMark_archiveCall {call : Call} {named : String} (admitted : ArchiveCall named call)
    (scheduler : Nat) (tapeId : String) (answer : Reply call) :
    leaseMark scheduler tapeId ⟨call, answer⟩ = none := by
  cases call with
  | metadata | cache | tape => rfl
  | here call => cases call <;> first | rfl | cases admitted

/-- Under the lease of its tape, an archive worker may make its calls. -/
theorem mayCall_archiveCall {s : SchedulerState} {call : Call}
    (held : HoldsLease past s.number s.config.archiveTapeId)
    (admitted : ArchiveCall s.config.archiveTapeId call) :
    (TapeRun.archive s).mayCall past call := by
  cases call with
  | tape req =>
    rintro _ ⟨⟩
    exact ⟨_, rfl, held, admitted⟩
  | cache => trivial
  | here call => cases call <;> trivial
  | metadata call =>
    cases call with
    | apply cmd => cases cmd <;> trivial
    | _ => trivial

variable [Sha256]

/-- An archive pass leases its tape before it uses it. -/
theorem archiveStagingOnce_leases {s : SchedulerState} (own : s.config.LeasesOwnTape) :
    (archiveStagingOnce s).Follows (leasing (.archive s)) (fun _ _ => True) past := by
  have leased : (if s.config.archiveTapeSet.isEmpty then [s.config.archiveTapeId]
      else s.config.archiveTapeSet).head?.getD s.config.archiveTapeId =
        s.config.archiveTapeId := by
    rcases own with none | first
    · simp [none]
    · split
      · rfl
      · rw [first, Option.getD_some]
  unfold archiveStagingOnce
  simp only [leased]
  apply follows_bind
  apply follows_perform trivial
  intro _ _
  -- The lease is held from here until it is given back.
  have held : HoldsLease (past ++ [⟨.here (.acquireTapeLease s.number
      s.config.archiveTapeId), ()⟩]) s.number s.config.archiveTapeId :=
    holdsLease_taken ()
  have makes : ∀ past call, HoldsLease past s.number s.config.archiveTapeId →
      ArchiveCall s.config.archiveTapeId call → (TapeRun.archive s).mayCall past call :=
    fun _ _ => mayCall_archiveCall
  have keeps : ∀ past call answer,
      HoldsLease past s.number s.config.archiveTapeId →
      ArchiveCall s.config.archiveTapeId call →
        HoldsLease (past ++ [⟨call, answer⟩]) s.number s.config.archiveTapeId :=
    fun _ _ answer held admitted => held.concat (leaseMark_archiveCall admitted _ _ answer)
  have works : ∀ client limit, client.tapeId = s.config.archiveTapeId →
      (attempt (archiveStagingBatch s client limit)).Only (ArchiveCall s.config.archiveTapeId) :=
    fun client limit named => named ▸ archiveStagingBatch_only s client limit
  apply follows_bind
  refine (follows_while makes keeps (works _ _ rfl) held).mono ?_
  exact fun result later held => ⟨held, fun _ _ => trivial⟩

end

section

variable {s : SchedulerState} {limit : Nat} {past : History} {tapeId : String}

/-- Something that neither leases tapes nor moves tasks, and loads no other tape than one. -/
def Unleasing (tapeId : String) : Call → Prop
  | .tape req => req.LoadsOnly tapeId
  | .here (.acquireTapeLease _ _) | .here (.releaseTapeLease _ _) => False
  | .metadata (.apply (.updateRecallTask _)) => False
  | _ => True

/-- A recall worker is at a claimed task, under the lease of its tape. -/
structure Working (s : SchedulerState) (task : RecallTask) (past : History) : Prop where
  held : HoldsLease past s.number task.tapeId
  claimed : latest claimMark none past = some task.tapeId
  seen : SeenOn past task.id task.tapeId

variable {task : RecallTask}

section

variable (working : Working s task past)

include working

theorem Working.concat {exchange : Exchange Call Reply}
    (kept : leaseMark s.number task.tapeId exchange = none)
    (unclaimed : claimMark exchange = none) : Working s task (past ++ [exchange]) where
  held := working.held.concat kept
  claimed := by rw [latest_concat, unclaimed]; exact working.claimed
  seen := working.seen.mono (List.subset_append_left _ _)

theorem Working.unleasing {call : Call} (admitted : Unleasing task.tapeId call)
    (answer : Reply call) : Working s task (past ++ [⟨call, answer⟩]) := by
  cases call with
  | tape | cache => exact working.concat rfl rfl
  | here call => cases call <;> first | exact working.concat rfl rfl | cases admitted
  | metadata call =>
    cases call with
    | apply cmd => cases cmd <;> first | exact working.concat rfl rfl | cases admitted
    | _ => exact working.concat rfl rfl

/-- Under the lease of its tape, a recall worker may work on the claimed task. -/
theorem Working.mayCall {call : Call} (admitted : Unleasing task.tapeId call) :
    (TapeRun.recalls s limit).mayCall past call := by
  cases call with
  | tape req =>
    rintro _ ⟨⟩
    exact ⟨task.tapeId, working.claimed, working.held, admitted⟩
  | cache => trivial
  | here call => cases call <;> trivial
  | metadata call =>
    cases call with
    | apply cmd => cases cmd <;> trivial
    | _ => trivial

/-- A part of the work on a claimed task, after which the worker is still at it. -/
abbrev KeepsWorking (s : SchedulerState) (limit : Nat) (task : RecallTask) {α : Type}
    (program : Sched α) (past : History) : Prop :=
  program.Follows (leasing (.recalls s limit)) (fun _ later => Working s task later) past

/-- A part of the work on a claimed task. -/
theorem follows_working {α : Type} {program : Sched α}
    (only : program.Only (Unleasing task.tapeId)) : KeepsWorking s limit task program past :=
  follows_while (fun _ _ working => working.mayCall) (fun _ _ answer working admitted =>
    working.unleasing admitted answer) only working

/-- A part of the work on a claimed task that may fail, and the rest of it. -/
theorem follows_working_bind {ε α β : Type} {part : Task ε α} {rest : α → Task ε β}
    (only : part.run.Only (Unleasing task.tapeId))
    (onward : ∀ value later, Working s task later →
      KeepsWorking s limit task (rest value).run later) :
    KeepsWorking s limit task (part >>= rest).run past := by
  apply follows_try
  apply (follows_working working only).mono
  intro result later working
  cases result with
  | ok value => exact onward value later working
  | error failure => exact working

/-- A task that was seen may be updated, and stays claimed unless it is claimed anew. -/
theorem updateRecallTask_working {updated : RecallTask}
    (seen : SeenOn past updated.id updated.tapeId)
    (other : updated.status ≠ RestoreStatus.restoreInProgress.number) :
    KeepsWorking s limit task (updateRecallTask updated).run past := by
  apply follows_askMetadata seen
  exact fun answer _ => working.concat rfl (if_neg fun claims => other claims.1)

end

/-- What is read of a task has been seen. -/
theorem seenOn_read (id : String) (current : RecallTask) :
    SeenOn (past ++ [⟨.metadata (.getRecallTask id), (.ok current : Except Status RecallTask)⟩])
      current.id current.tapeId :=
  ⟨_, List.mem_concat_self, current, List.mem_singleton_self _, rfl, rfl⟩

section

variable (working : Working s task past)

include working

/-- A claimed task is read again, and the rest goes by what is read. -/
theorem follows_working_read {α : Type} {rest : RecallTask → Task Status α}
    (onward : ∀ current later, Working s task later →
      SeenOn later current.id current.tapeId → KeepsWorking s limit task (rest current).run later) :
    KeepsWorking s limit task (getRecallTask task.id >>= rest).run past := by
  apply follows_try
  apply follows_askMetadata trivial
  intro found _
  have read : Working s task (past ++ [⟨.metadata (.getRecallTask task.id), found⟩]) :=
    working.concat rfl rfl
  cases found with
  | error status => exact read
  | ok current => exact onward current _ read (seenOn_read task.id current)

/-- A failure is recorded with the task as it is stored. -/
theorem markRecallFailed_leases (error : String) :
    KeepsWorking s limit task (markRecallFailed task error).run past := by
  unfold markRecallFailed
  refine follows_working_read working fun current later read seen => ?_
  dsimp only
  split
  · exact read
  · exact read
  · exact read
  · apply follows_try
    apply follows_lift
    apply follows_perform trivial
    intro now _
    have timed : Working s task (later ++ [⟨.here .now, now⟩]) := read.concat rfl rfl
    apply follows_try
    apply follows_tried
    apply (updateRecallTask_working timed _ _).mono
    · intro answer later working
      refine follows_working working ?_
      -- An update that came too late is not a failure.
      split
      · exact only_askMetadata
      · split
        · exact only_try (only_throw _) fun _ => only_askMetadata
        · exact only_askMetadata
    · exact seen.mono (List.subset_append_left _ _)
    · show RestoreStatus.restoreFailed.number ≠ RestoreStatus.restoreInProgress.number
      decide

/-- A task that is sent back to waiting stays on its tape. -/
theorem retryRecallTaskLater_leases (error : String) :
    KeepsWorking s limit task (retryRecallTaskLater task error).run past := by
  unfold retryRecallTaskLater
  refine follows_working_read working fun current later read seen => ?_
  dsimp only
  split
  · exact read
  · apply follows_try
    apply (updateRecallTask_working read _ _).mono
    · intro answer later working
      cases answer with
      | ok _ => exact follows_working working only_askMetadata
      | error status => exact working
    · exact seen
    · show RestoreStatus.restoreWaitingForMedia.number ≠ RestoreStatus.restoreInProgress.number
      decide
  · exact read

end

variable [Sha256]

/-- The work on a claimed task uses the tape of the task. -/
theorem processRecallTask_leases (working : Working s task past) (driveId : String) :
    KeepsWorking s limit task (processRecallTask driveId task).run past := by
  unfold processRecallTask
  refine follows_working_bind working only_askMetadata fun obj _ working => ?_
  refine follows_working_bind working (only_checked _) fun _ _ working => ?_
  -- Reading the bundle uses the tape of the task, under the lease held for it.
  refine follows_working_bind working (readBundle_only (fun _ loads => loads) _ _ _)
    fun data _ working => ?_
  refine follows_working_bind working (only_checked _) fun _ _ working => ?_
  refine follows_working_bind working (only_lift (recallExpiry_only trivial task))
    fun expireAt _ working => ?_
  refine follows_working_bind working only_askCache fun _ _ working => ?_
  refine follows_working_bind working (only_lift only_locally) fun now _ working => ?_
  apply follows_try
  apply (updateRecallTask_working working _ _).mono
  · intro result later working
    cases result with
    | error status => exact working
    | ok _ =>
      exact follows_working_bind working only_askMetadata fun _ _ working => working
  · exact working.seen
  · show RestoreStatus.restoreCompleted.number ≠ RestoreStatus.restoreInProgress.number
    decide

/-- A claimed task is worked on under the lease of its tape, however that ends. -/
theorem recallClaimed_leases (working : Working s task past) :
    KeepsWorking s limit task (recallClaimed s task) past := by
  unfold recallClaimed
  apply follows_bind
  apply (processRecallTask_leases working _).mono
  intro outcome later working
  cases outcome with
  | ok bytes => exact working
  | error status =>
    dsimp only
    apply follows_bind
    have recorded : KeepsWorking s limit task (if isRetriableRecallProcessingError status then
        retryRecallTaskLater task status.message
      else markRecallFailed task status.message).run later := by
      split
      · exact retryRecallTaskLater_leases working _
      · exact markRecallFailed_leases working _
    apply recorded.mono
    intro finalized last working
    cases finalized <;> exact working

omit [Sha256]

/-- What is left of a claim: the lease is held, and what was claimed is on the leased tape. -/
structure ClaimedOn (s : SchedulerState) (tapeId : String)
    (result : Except Status (Option RecallTask)) (past : History) : Prop where
  held : HoldsLease past s.number tapeId
  working : ∀ claimed, result = .ok (some claimed) →
    claimed.tapeId = tapeId ∧ Working s claimed past

theorem claimedOn_none (held : HoldsLease past s.number tapeId) :
    ClaimedOn s tapeId (.ok none) past := ⟨held, by rintro _ ⟨⟩⟩

theorem claimedOn_failed (held : HoldsLease past s.number tapeId) (status : Status) :
    ClaimedOn s tapeId (.error status) past := ⟨held, by rintro _ ⟨⟩⟩

/-- A task is claimed as it was read. -/
theorem startRecallTask_leases (held : HoldsLease past s.number task.tapeId)
    (seen : SeenOn past task.id task.tapeId) :
    (startRecallTask task).run.Follows (leasing (.recalls s limit))
      (ClaimedOn s task.tapeId) past := by
  unfold startRecallTask
  apply follows_try
  apply follows_lift
  apply follows_perform trivial
  intro now _
  have timed : HoldsLease (past ++ [⟨.here .now, now⟩]) s.number task.tapeId :=
    held.concat rfl
  apply follows_try
  apply follows_tried
  apply follows_askMetadata
  · exact seen.mono (List.subset_append_left _ _)
  intro answer _
  cases answer with
  | error status =>
    dsimp only
    split
    · exact claimedOn_none (timed.concat rfl)
    · exact claimedOn_failed (timed.concat rfl) status
  | ok _ =>
    -- The update that was accepted is the claim.
    have working : Working s (claimedRecall task now)
        (past ++ [⟨.here .now, now⟩] ++ [accepted recallTaskKind (claimedRecall task now)]) := by
      refine ⟨timed.concat rfl, ?_, seen.mono ?_⟩
      · rw [latest_concat]
        rfl
      · exact fun _ mem => List.mem_append_left _ (List.mem_append_left _ mem)
    apply follows_try
    apply (follows_working working _).mono
    · intro marked later working
      cases marked with
      | ok _ =>
        refine ⟨working.held, ?_⟩
        rintro _ ⟨⟩
        exact ⟨rfl, working⟩
      | error status => exact claimedOn_failed working.held status
    · exact only_askMetadata

/-- A claim is made under the lease of the task's tape, on which the task still is. -/
theorem claimRecallTask_leases (held : HoldsLease past s.number task.tapeId)
    (seen : SeenOn past task.id task.tapeId) :
    (claimRecallTask task).run.Follows (leasing (.recalls s limit))
      (ClaimedOn s task.tapeId) past := by
  unfold claimRecallTask
  apply follows_try
  apply putOnce_follows trivial
  · intro put _ _
    have putHeld : HoldsLease (past ++ [⟨.metadata (.apply (.putRecallTask task)), put⟩])
        s.number task.tapeId := held.concat rfl
    have putSeen : SeenOn (past ++ [⟨.metadata (.apply (.putRecallTask task)), put⟩])
        task.id task.tapeId := seen.mono (List.subset_append_left _ _)
    refine follows_metadata trivial (fun (current : RecallTask) comes => ?_) fun status _ =>
      claimedOn_failed (putHeld.concat rfl) status
    have sameId : current.id = task.id := comes.1.recalls task.id current rfl
    have sameTape : current.tapeId = task.tapeId :=
      comes.2 current (List.mem_singleton_self _) task.tapeId (sameId ▸ putSeen)
    have read : HoldsLease (past ++ [⟨.metadata (.apply (.putRecallTask task)), put⟩] ++
        [⟨.metadata (.getRecallTask task.id), (.ok current : Except Status RecallTask)⟩])
        s.number task.tapeId := putHeld.concat rfl
    have starts := @startRecallTask_leases s limit _ current (sameTape ▸ read)
      (seenOn_read task.id current)
    rw [sameTape] at starts
    split
    · exact claimedOn_failed read _
    · exact starts
    · exact starts
    all_goals exact claimedOn_none read
  · exact fun status _ _ => claimedOn_failed (held.concat rfl) status

variable [Sha256]

/-- A task is recalled under the lease of the tape it was seen on. -/
theorem recallTask_leases (seen : SeenOn past task.id task.tapeId) :
    (recallTask s task).Follows (leasing (.recalls s limit)) (fun _ _ => True) past := by
  -- The lease is given back by the pass that holds it, whatever came of the task.
  have leaves : ∀ (step : Option Status × Option Processed) (later : History),
      HoldsLease later s.number task.tapeId →
        (releaseRecallTask s (phase1RecallTaskKey task) >>= fun _ =>
          releaseTapeLease s task.tapeId >>= fun _ => pure step).Follows
            (leasing (.recalls s limit)) (fun _ _ => True) later :=
    fun step later held => ⟨trivial, fun _ _ => ⟨held.concat rfl, fun _ _ => trivial⟩⟩
  unfold recallTask
  apply follows_bind
  apply follows_perform trivial
  intro acquired _
  cases acquired with
  | false => trivial
  | true =>
    apply follows_bind
    apply follows_perform trivial
    intro _ _
    apply follows_bind
    apply (claimRecallTask_leases _ _).mono
    · intro result later claimed
      rcases result with status | _ | task
      · exact leaves _ later claimed.held
      · exact leaves _ later claimed.held
      · obtain ⟨same, working⟩ := claimed.working task rfl
        apply follows_bind
        apply (recallClaimed_leases working).mono
        exact fun step last working => leaves step last (same ▸ working.held)
    · exact holdsLease_taken _
    · exact seen.mono fun _ mem => List.mem_append_left _ (List.mem_append_left _ mem)

/-- Tasks that were seen are recalled one after the other, each under the lease of its tape. -/
theorem recallTasks_leases (tasks : List RecallTask) :
    ∀ (result : RecallBatchResult) (processed : List Processed) (past : History),
      (∀ task ∈ tasks, SeenOn past task.id task.tapeId) →
        (recallTasks s tasks result processed).Follows (leasing (.recalls s limit))
          (fun _ _ => True) past := by
  induction tasks with
  | nil => exact fun _ _ _ _ => trivial
  | cons task rest ih =>
    intro result processed past seen
    unfold recallTasks
    apply follows_bind
    apply follows_perform trivial
    intro _ _
    apply follows_bind
    apply (recallTask_leases _).longer.mono
    · rintro ⟨failure, step⟩ later ⟨longer, _⟩
      apply follows_bind
      apply follows_perform trivial
      intro _ _
      cases failure with
      | some status => trivial
      | none =>
        refine ih _ _ _ fun task mem => (seen task (List.mem_cons_of_mem _ mem)).mono ?_
        exact fun _ old => List.mem_append_left _ (longer (List.mem_append_left _ old))
    · exact (seen task List.mem_cons_self).mono (List.subset_append_left _ _)

/-- A batch recalls tasks that it has seen listed. -/
theorem recallPendingBatch_leases :
    (recallPendingBatch s limit).Follows (leasing (.recalls s limit)) (fun _ _ => True)
      past := by
  unfold recallPendingBatch
  apply follows_bind
  apply follows_askMetadata trivial
  intro listed _
  cases listed with
  | error status => trivial
  | ok tasks =>
    refine recallTasks_leases _ _ _ _ fun task mem => ?_
    have pending := (List.mem_insertionSort _).mp (List.mem_of_mem_take mem)
    have listed := (List.mem_filter.mp pending).1
    exact ⟨_, List.mem_concat_self, task, listed, rfl, rfl⟩

end

end ColdStore.Scheduler
