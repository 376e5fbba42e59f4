import ColdStore.Scheduler.Claims

/-! However many workers claim a task, and however their calls interleave, one of them gets it. -/

namespace ColdStore.Scheduler

open Rust Process Program

/-- A worker claims a task, or does something else. -/
inductive ClaimRequest where
  | archiveTask (task : ArchiveTask)
  | recallTask (task : RecallTask)
  | other (program : Sched Unit)

/-- How a claim ended. -/
inductive ClaimOutcome where
  | archiveTask (answer : Except Status (Option ArchiveTask))
  | recallTask (answer : Except Status (Option RecallTask))
  | other

/-- The program of a worker. -/
def claimStart : ClaimRequest → Sched ClaimOutcome
  | .archiveTask task => .archiveTask <$> attempt (claimArchiveTask task)
  | .recallTask task => .recallTask <$> attempt (claimRecallTask task)
  | .other program => (fun _ => .other) <$> program

abbrev Claimants := Config Call Reply World ClaimRequest ClaimOutcome

/-- What has become of the workers after some events. -/
def claimantsAfter (svc : CacheService) (env : Nat → Moment) (w : World)
    (events : List (Event ClaimRequest)) : Claimants :=
  Config.after (machine svc env) claimStart ⟨w, []⟩ events

/-- The claim of the worker at a position was granted, with the task as it is left to the worker. -/
def Claimants.archiveGranted (config : Claimants) (id : String) (spot : Nat)
    (claimed : ArchiveTask) : Prop := ∃ task, task.id = id ∧
    config.threads[spot]? = some ⟨.archiveTask task, .done (.archiveTask (.ok (some claimed)))⟩

@[inherit_doc Claimants.archiveGranted]
def Claimants.recallGranted (config : Claimants) (id : String) (spot : Nat)
    (claimed : RecallTask) : Prop := ∃ task, task.id = id ∧
    config.threads[spot]? = some ⟨.recallTask task, .done (.recallTask (.ok (some claimed)))⟩

/-- At most one claim of a task is granted, and the task is stored as the claimant has it. -/
structure OneClaimant {τ : Type} (kind : TaskKind τ) (id : String) (s : MetadataState)
    (granted : Nat → τ → Prop) : Prop where
  single : ∀ first second claimed other, granted first claimed → granted second other →
    first = second
  stored : ∀ spot claimed, granted spot claimed →
    (kind.tasks s).get id = some claimed ∧ kind.running claimed

/-- A call that writes a task. -/
def WritesTask (id : String) (call : Call) : Prop :=
  (∃ task : ArchiveTask, call = .metadata (.apply (.updateArchiveTask task)) ∧ task.id = id) ∨
    ∃ task : RecallTask, call = .metadata (.apply (.updateRecallTask task)) ∧ task.id = id

/-- What is known of a worker that has ended. -/
def claimEnds : ClaimRequest → ClaimOutcome → List (Exchange Call Reply) → Prop
  | .archiveTask task, .archiveTask answer, past => Granted archiveTaskKind task.id answer past
  | .recallTask task, .recallTask answer, past => Granted recallTaskKind task.id answer past
  | _, _, _ => True

/-- Both kinds of tasks with an id were started at most once. -/
structure ClaimsAgree (id : String) (trace : Trace Call Reply ClaimRequest) (w : World) : Prop where
  keys : w.metadata.KeysAgree
  archives : StartedOnce archiveTaskKind id trace w.metadata
  recalls : StartedOnce recallTaskKind id trace w.metadata

section

variable {id : String}

theorem claimStart_follows {req : ClaimRequest}
    (quiet : ∀ program, req = .other program → program.Only fun call => ¬ WritesTask id call) :
    (claimStart req).Follows (claiming id) (claimEnds req) [] := by
  cases req with
  | archiveTask task => exact follows_bind (claimArchiveTask_claims task)
  | recallTask task => exact follows_bind (claimRecallTask_claims task)
  | other program =>
    apply follows_bind
    refine (follows_of_only ?_ (quiet program rfl)).mono fun _ _ _ => trivial
    -- A call that writes no task of this name keeps to any claim on it.
    intro past call allowed
    constructor
    · intro task sent named
      exact absurd (Or.inl ⟨task, sent, named⟩) allowed
    · intro task sent named
      exact absurd (Or.inr ⟨task, sent, named⟩) allowed

variable {svc : CacheService} {env : Nat → Moment} {w : World} {events : List (Event ClaimRequest)}

/-- Workers keep to their discipline in every run. -/
theorem claimants_disciplined (keys : w.metadata.KeysAgree)
    (quiet : ∀ program, .spawn (.other program) ∈ events →
      program.Only fun call => ¬ WritesTask id call) :
    ∃ trace, Disciplined (fun _ => claiming id) (ClaimsAgree id) claimEnds trace
      (claimantsAfter svc env w events) := by
  have initial : Disciplined (fun _ => claiming id) (ClaimsAgree id) claimEnds []
      (⟨w, []⟩ : Claimants) :=
    Disciplined.initial ⟨keys, .nil _, .nil _⟩
  refine ⟨_, Disciplined.after
    (fun req => ∀ program, req = .other program → program.Only fun call => ¬ WritesTask id call)
    (fun req => claimStart_follows) ?_ events [] _ initial
    (Config.observes_trivial _ _ events [] _) ?_⟩
  -- Each call is a step for the archive tasks and for the recall tasks alike.
  · intro trace config spot agree _ req call next _ _ _ makes
    exact ⟨⟨serve_keysAgree svc _ agree.keys call,
      agree.archives.step svc _ spot req makes.1, agree.recalls.step svc _ spot req makes.2⟩,
      serve_named svc _ agree.keys call⟩
  · rintro req mem program rfl
    exact quiet program mem

/-- What was granted at an id was granted to one worker, which sees the task as it is stored. -/
theorem oneClaimant_of_started {τ : Type} {kind : TaskKind τ}
    {trace : Trace Call Reply ClaimRequest} {s : MetadataState} {granted : Nat → τ → Prop}
    (once : StartedOnce kind id trace s)
    (recorded : ∀ spot claimed, granted spot claimed →
      accepted kind claimed ∈ ownPart spot trace ∧ kind.id claimed = id) :
    OneClaimant kind id s granted where
  single first second claimed other firstGranted secondGranted := by
    obtain ⟨firstMember, firstNamed⟩ := recorded first claimed firstGranted
    obtain ⟨secondMember, secondNamed⟩ := recorded second other secondGranted
    exact once.single first second claimed other firstMember secondMember firstNamed secondNamed
  stored spot claimed won := by
    obtain ⟨mem, named⟩ := recorded spot claimed won
    exact once.stored spot claimed mem named

/--
However workers interleave, and whatever is lost on the way, one claim of a task is granted at most.

Then the task is in progress, as the claimant has it, if nobody else writes it.
-/
theorem single_claimant (svc : CacheService) (env : Nat → Moment) (w : World)
    (keys : w.metadata.KeysAgree) (id : String) (events : List (Event ClaimRequest))
    (quiet : ∀ program, .spawn (.other program) ∈ events →
      program.Only fun call => ¬ WritesTask id call) :
    let config := claimantsAfter svc env w events
    OneClaimant archiveTaskKind id config.world.metadata (config.archiveGranted id) ∧
      OneClaimant recallTaskKind id config.world.metadata (config.recallGranted id) := by
  intro config
  obtain ⟨trace, disciplined⟩ :
    ∃ trace, Disciplined (fun _ => claiming id) (ClaimsAgree id) claimEnds trace config :=
    claimants_disciplined keys quiet
  -- A granted claim stands in the history of its thread, and the trace has one at most.
  constructor
  · apply oneClaimant_of_started disciplined.agrees.archives
    rintro spot claimed ⟨task, rfl, ended⟩
    exact disciplined.follows spot _ ended claimed rfl
  · apply oneClaimant_of_started disciplined.agrees.recalls
    rintro spot claimed ⟨task, rfl, ended⟩
    exact disciplined.follows spot _ ended claimed rfl

end

/-- A task that nobody has claimed. -/
def unclaimedTask : ArchiveTask where
  id := "task-1"
  status := ArchiveTaskStatus.archiveTaskPending.number

/-- Two workers put and read the same task, then the second one starts it before the first. -/
def racingClaims : List (Event ClaimRequest) :=
  [.spawn (.archiveTask unclaimedTask), .spawn (.archiveTask unclaimedTask),
    .step 0, .step 1, .step 0, .step 1, .step 0, .step 1, .step 1, .step 0]

/-- Of two workers that race for a task, the second one gets it alone. -/
theorem single_claimant_racing :
    let config := claimantsAfter (.even (2 ^ 30)) (still 7) oneTapeWorld racingClaims
    (∃ claimed, config.archiveGranted "task-1" 1 claimed) ∧
      OneClaimant archiveTaskKind "task-1" config.world.metadata (config.archiveGranted "task-1") ∧
      OneClaimant recallTaskKind "task-1" config.world.metadata (config.recallGranted "task-1") := by
  refine ⟨⟨_, unclaimedTask, rfl, rfl⟩, ?_⟩
  apply single_claimant (.even (2 ^ 30)) (still 7) oneTapeWorld (freshCatalogue_keysAgree ["docs"])
  rintro program mem
  simp [racingClaims] at mem

end ColdStore.Scheduler
