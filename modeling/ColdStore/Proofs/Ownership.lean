import ColdStore.Scheduler.Ownership

/-!
Archive workers of several schedulers at the same staged objects.

A worker whose claim fails ends the task, and it may be another worker that is at it. So a task
stays with the scheduler that claimed it as long as the claims of the others get through.
-/

namespace ColdStore.Scheduler

open Rust Process Program

/-- The scheduler an archive worker belongs to. -/
def Request.archiver : Request → Option Nat
  | .archiveStagingBatch s _ _ => some s.number
  | _ => none

/-- The archive task a call is about. -/
def Call.archiveTaskId : Call → Option String
  | .metadata (.apply (.putArchiveTask task)) => some task.id
  | .metadata (.apply (.updateArchiveTask task)) => some task.id
  | .metadata (.getArchiveTask id) => some id
  | _ => none

/-- What a scheduler calls about an archive task arrives and is answered, until it has the task. -/
def ClaimsArrive (svc : CacheService) (env : Nat → Moment) (scheduler : Nat)
    (trace : Trace Call Reply Request) (config : System) (event : Event Request) : Prop :=
  ∀ entry ∈ config.entryAt (machine svc env) event,
    entry.request.archiver = some scheduler → ∀ id ∈ entry.exchange.1.archiveTaskId,
      ¬ Won (ownPart entry.spot trace) id → (env config.world.tick).fault.isNone = true

/-- A worker of a scheduler has claimed a task. -/
def ClaimedBy (trace : Trace Call Reply Request) (scheduler : Nat) (id : String) : Prop :=
  ∃ entry ∈ trace, entry.request.archiver = some scheduler ∧ startsTask id entry.exchange = true

instance (trace : Trace Call Reply Request) (scheduler : Nat) (id : String) :
    Decidable (ClaimedBy trace scheduler id) := inferInstanceAs (Decidable (∃ entry ∈ trace, _ ∧ _))

instance (svc : CacheService) (env : Nat → Moment) (scheduler : Nat)
    (trace : Trace Call Reply Request) (config : System) (event : Event Request) :
    Decidable (ClaimsArrive svc env scheduler trace config event) :=
  inferInstanceAs (Decidable (∀ entry ∈ config.entryAt (machine svc env) event, _))

/-- A task is stored in a phase. -/
def Holds (s : MetadataState) (id : String) (shows : Option ArchiveTaskStatus → Prop) : Prop :=
  ∃ task, s.archiveTasks.get id = some task ∧ shows task.phase

/-- What an entry of a trace shows about a task, now and forever after. -/
inductive Shows (careful : Request → Prop) (entry : Entry Call Reply Request) (id : String) :
    (Option ArchiveTaskStatus → Prop) → Prop where
  | put (be : careful entry.request) (put : HasPut [entry.exchange] id) :
    Shows careful entry id fun _ => True
  /-- What has waited is never odd. -/
  | waiting (read : Read [entry.exchange] id Waiting) : Shows careful entry id fun phase => ¬ Odd phase
  /-- What was odd is never started. -/
  | odd (read : Read [entry.exchange] id Odd) :
    Shows careful entry id fun phase => ¬ Waiting phase ∧ phase ≠ some .archiveTaskInProgress
  /-- What was started never waits again. -/
  | won (starts : startsTask id entry.exchange = true) :
    Shows careful entry id fun phase => ¬ Odd phase ∧ ¬ Waiting phase

/-- The stored tasks are as the trace shows them, and each was started by one worker at most. -/
structure TasksAgree (careful : Request → Prop) (trace : Trace Call Reply Request) (w : World) :
    Prop where
  keys : w.metadata.KeysAgree
  shown : ∀ entry ∈ trace, ∀ id shows, Shows careful entry id shows → Holds w.metadata id shows
  single : ∀ first ∈ trace, ∀ second ∈ trace, ∀ id, startsTask id first.exchange = true →
    startsTask id second.exchange = true → first.spot = second.spot

section

variable {careful : Request → Prop} {trace : Trace Call Reply Request} {w : World}
  {spot : Nat} {id : String}

variable (agree : TasksAgree careful trace w)

include agree

theorem TasksAgree.ofWaiting (read : Read (ownPart spot trace) id Waiting) :
    Holds w.metadata id fun phase => ¬ Odd phase := by
  obtain ⟨task, mem, waits⟩ := read
  obtain ⟨entry, recorded, _, same⟩ := (mem_ownPart _ _).mp mem
  exact agree.shown entry recorded id _ (.waiting ⟨task, by simp [same], waits⟩)

theorem TasksAgree.ofOdd (read : Read (ownPart spot trace) id Odd) :
    Holds w.metadata id fun phase => ¬ Waiting phase ∧ phase ≠ some .archiveTaskInProgress := by
  obtain ⟨task, mem, odd⟩ := read
  obtain ⟨entry, recorded, _, same⟩ := (mem_ownPart _ _).mp mem
  exact agree.shown entry recorded id _ (.odd ⟨task, by simp [same], odd⟩)

theorem TasksAgree.ofPut (own : ∀ entry ∈ trace, entry.spot = spot → careful entry.request)
    (put : HasPut (ownPart spot trace) id) : Holds w.metadata id fun _ => True := by
  obtain ⟨task, answer, named, mem⟩ := put
  obtain ⟨entry, recorded, there, same⟩ := (mem_ownPart _ _).mp mem
  exact agree.shown entry recorded id _
    (.put (own entry recorded there) ⟨task, answer, named, by simp [same]⟩)

end

/-- Only what waits can be started, if its status is a known one. -/
theorem waiting_of_started {current task : ArchiveTask} (known : ¬ Odd current.phase)
    (starts : task.phase = some .archiveTaskInProgress)
    (may : archiveTaskKind.follows current task) : Waiting current.phase := by
  obtain ⟨old, new, oldPhase, newPhase, follows⟩ := validateArchiveTaskTransition_iff.mp may
  rw [starts, Option.some.injEq] at newPhase
  subst newPhase
  unfold Odd at known
  rw [oldPhase] at known ⊢
  cases old with
  | archiveTaskPending => rfl
  | unspecified => exact absurd (.inr rfl) known
  | archiveTaskInProgress | archiveTaskCompleted | archiveTaskFailed => cases follows

section

variable (svc : CacheService) (moment : Moment) {careful : Request → Prop}
  {trace : Trace Call Reply Request} {w : World} {spot : Nat} {call : Call} {be : Prop}

variable {id : String} {shows : Option ArchiveTaskStatus → Prop}

/-- What was shown of a task stays true, whatever a worker calls. -/
theorem Shows.stays {entry : Entry Call Reply Request} (shown : Shows careful entry id shows)
    (agree : TasksAgree careful trace w) (makes : (owning be).makes (ownPart spot trace) call)
    (holds : Holds w.metadata id shows) :
    Holds (serve svc moment call w).2.metadata id shows := by
  obtain ⟨current, present, phase⟩ := holds
  rcases task_cases svc moment archiveTaskKind call present with
    stays | ⟨task, sent, rfl, may, stored⟩
  · exact ⟨current, stays, phase⟩
  refine ⟨task, stored, ?_⟩
  rcases makes task sent with ⟨starts, read⟩ | ⟨ended, _⟩
  · -- Only what waits is started.
    obtain ⟨known, found, notOdd⟩ := agree.ofWaiting read
    obtain rfl : current = known := Option.some.inj (present.symm.trans found)
    have waits := waiting_of_started notOdd starts may
    cases shown with
    | put => trivial
    | waiting => simp [starts, Odd]
    | odd => exact absurd waits phase.1
    | won => exact absurd waits phase.2
  · cases shown with
    | put => trivial
    | waiting => rcases ended with done | done <;> simp [done, Odd]
    | odd => rcases ended with done | done <;> simp [done, Waiting]
    | won => rcases ended with done | done <;> simp [done, Odd, Waiting]

/-- A task that was read is stored as it was read. -/
theorem read_holds (read : Read [⟨call, (serve svc moment call w).1⟩] id shows) :
    Holds (serve svc moment call w).2.metadata id shows := by
  obtain ⟨task, mem, shown⟩ := read
  rw [List.mem_singleton] at mem
  obtain ⟨rfl, answer⟩ := Sigma.mk.inj mem
  obtain ⟨ok, after⟩ := serve_metadata_ok svc moment (eq_of_heq answer).symm
  rw [after]
  exact ⟨task, (okOr_eq_ok _ _ _).mp ok, shown⟩

/-- What a new entry shows of a task is true. -/
theorem Shows.holds {req : Request}
    (shown : Shows careful ⟨spot, req, ⟨call, (serve svc moment call w).1⟩⟩ id shows)
    (agree : TasksAgree careful trace w) (makes : (owning be).makes (ownPart spot trace) call)
    (arrives : careful req → call.archiveTaskId = some id →
      ¬ Won (ownPart spot trace) id → moment.fault = none) :
    Holds (serve svc moment call w).2.metadata id shows := by
  cases shown with
  | put be put =>
    obtain ⟨task, answer, rfl, mem⟩ := put
    rw [List.mem_singleton] at mem
    obtain ⟨rfl, _⟩ := Sigma.mk.inj mem
    by_cases won : Won (ownPart spot trace) task.id
    · -- A task that was started is there already.
      obtain ⟨exchange, recorded, starts⟩ := won
      obtain ⟨entry, old, _, rfl⟩ := (mem_ownPart _ _).mp recorded
      have stays := Shows.stays svc moment (.won starts) agree makes
        (agree.shown entry old _ _ (.won starts))
      obtain ⟨stored, present, _⟩ := stays
      exact ⟨stored, present, trivial⟩
    · rw [serve_arrives svc (arrives be rfl won)]
      obtain ⟨stored, present⟩ :=
        putArchiveTask_there (ColdStore.nowTimestamp moment.seconds) task w.metadata
      exact ⟨stored, present, trivial⟩
  | waiting read =>
    obtain ⟨task, stored, waits⟩ := read_holds svc moment read
    exact ⟨task, stored, by simp [show task.phase = some .archiveTaskPending from waits, Odd]⟩
  | odd read =>
    obtain ⟨task, stored, odd⟩ := read_holds svc moment read
    exact ⟨task, stored, by rcases odd with none | unknown <;> simp [*, Waiting]⟩
  | won starts =>
    obtain ⟨task, same, rfl, phase⟩ := startsTask_iff.mp starts
    obtain ⟨_, stored⟩ := accepted_effect svc moment same
    exact ⟨task, stored, by simp [phase, Odd, Waiting]⟩

variable (agree : TasksAgree careful trace w)

include agree

/-- A task that is started now was started by nobody before. -/
theorem not_started_before (makes : (owning be).makes (ownPart spot trace) call)
    (starts : startsTask id ⟨call, (serve svc moment call w).1⟩ = true) :
    ∀ entry ∈ trace, startsTask id entry.exchange = false := by
  intro entry recorded
  by_contra started
  rw [Bool.not_eq_false] at started
  obtain ⟨task, same, rfl, phase⟩ := startsTask_iff.mp starts
  obtain ⟨⟨current, present, may⟩, _⟩ := accepted_effect svc moment same
  -- A worker starts a task it has read as waiting, which a started task never is again.
  rcases makes task (Sigma.mk.inj same).1 with ⟨_, read⟩ | ⟨ended, _⟩
  · obtain ⟨known, found, notOdd⟩ := agree.ofWaiting read
    obtain rfl : current = known := Option.some.inj (present.symm.trans found)
    obtain ⟨taken, there, _, notWaiting⟩ := agree.shown entry recorded _ _ (.won started)
    obtain rfl : current = taken := Option.some.inj (present.symm.trans there)
    exact notWaiting (waiting_of_started notOdd phase may)
  · rcases ended with done | done <;> simp [done] at phase

/-- A served call keeps the stored tasks as the trace shows them. -/
theorem TasksAgree.step {req : Request}
    (makes : (owning be).makes (ownPart spot trace) call)
    (arrives : ∀ id, careful req → call.archiveTaskId = some id →
      ¬ Won (ownPart spot trace) id → moment.fault = none) :
    TasksAgree careful (trace ++ [⟨spot, req, ⟨call, (serve svc moment call w).1⟩⟩])
      (serve svc moment call w).2 where
  keys := serve_keysAgree svc moment agree.keys call
  shown entry mem id shows shown := by
    rcases List.mem_append.mp mem with old | new
    · exact shown.stays svc moment agree makes (agree.shown entry old id shows shown)
    · rw [List.mem_singleton] at new
      subst new
      exact shown.holds svc moment agree makes (arrives id)
  single first firstMember second secondMember id firstStarts secondStarts := by
    rcases List.mem_append.mp firstMember with firstOld | firstNew
    · rcases List.mem_append.mp secondMember with secondOld | secondNew
      · exact agree.single first firstOld second secondOld id firstStarts secondStarts
      · rw [List.mem_singleton] at secondNew
        subst secondNew
        have never := not_started_before svc moment agree makes secondStarts first firstOld
        simp [firstStarts] at never
    · rw [List.mem_singleton] at firstNew
      subst firstNew
      rcases List.mem_append.mp secondMember with secondOld | secondNew
      · have never := not_started_before svc moment agree makes firstStarts second secondOld
        simp [secondStarts] at never
      · rw [List.mem_singleton.mp secondNew]

/-- Calls about a task that arrive are answered as they should be. -/
theorem serve_answered (own : ∀ entry ∈ trace, entry.spot = spot → careful entry.request)
    (arrives : call.archiveTaskId = some id → moment.fault = none) :
    Answered (ownPart spot trace) id ⟨call, (serve svc moment call w).1⟩ where
  put task status same named := by
    subst named
    obtain ⟨rfl, answer⟩ := Sigma.mk.inj same
    rw [serve_arrives svc (arrives rfl)] at answer
    exact putArchiveTask_refused (eq_of_heq answer)
  get status same put := by
    obtain ⟨rfl, answer⟩ := Sigma.mk.inj same
    rw [serve_arrives svc (arrives rfl)] at answer
    obtain ⟨task, stored, _⟩ := agree.ofPut own put
    have found : w.metadata.getArchiveTask id = .ok task := (okOr_eq_ok _ _ _).mpr stored
    have refused : w.metadata.getArchiveTask id = .error status := eq_of_heq answer
    rw [found] at refused
    cases refused
  started task status same named starts read := by
    subst named
    obtain ⟨rfl, answer⟩ := Sigma.mk.inj same
    rw [serve_arrives svc (arrives rfl)] at answer
    -- What was read as waiting is still stored, in a phase the catalogue knows.
    obtain ⟨current, stored, known⟩ := agree.ofWaiting read
    have currentKnown : current.phase ≠ none := fun none => known (.inl none)
    have taskKnown : task.phase ≠ none := by simp [starts]
    exact updateArchiveTask_refused stored currentKnown taskKnown (eq_of_heq answer)

end

section

variable [Sha256] {svc : CacheService} {env : Nat → Moment} {w : World}
  {events : List (Event Request)} {scheduler : Nat}

/-- Archive workers keep to their discipline, a scheduler whose claims arrive to the careful one. -/
theorem archivers_disciplined (keys : w.metadata.KeysAgree)
    (archivers : ∀ req, .spawn req ∈ events → req.archiver ≠ none)
    (arrive : Config.Observes (machine svc env) start
      (ClaimsArrive svc env scheduler) [] ⟨w, []⟩ events) :
    Disciplined (fun req => owning (req.archiver = some scheduler))
      (TasksAgree fun req => req.archiver = some scheduler) (fun _ _ _ => True)
      (Config.trace (machine svc env) start ⟨w, []⟩ events)
      (reached svc env w events) := by
  have initial : Disciplined (fun req : Request => owning (req.archiver = some scheduler))
      (TasksAgree fun req => req.archiver = some scheduler) (fun _ _ _ => True) []
      (⟨w, []⟩ : System) := by
    apply Disciplined.initial
    exact ⟨keys, by rintro _ ⟨⟩, by rintro _ ⟨⟩⟩
  have begins : ∀ req : Request, req.archiver ≠ none →
      (start req).Follows (owning (req.archiver = some scheduler)) (fun _ _ => True) [] := by
    intro req archiver
    cases req with
    | archiveStagingBatch s client limit => exact archiveStagingBatch_owns s client limit
    | _ => exact absurd rfl archiver
  apply Disciplined.after (fun req => req.archiver ≠ none) begins _ events [] _ initial
    arrive archivers
  -- One call: the tasks stay in agreement, and the answer is one the worker expects.
  intro trace config spot agree arrives req c next found enabled own makes
  have here := arrives _ (Config.entryAt_step found enabled)
  have arrived : ∀ id, req.archiver = some scheduler → c.archiveTaskId = some id →
      ¬ Won (ownPart spot trace) id → (env config.world.tick).fault = none :=
    fun id careful about unclaimed => Option.isNone_iff_eq_none.mp (here careful id about unclaimed)
  constructor
  · exact agree.step svc _ makes arrived
  · refine ⟨serve_named svc _ agree.keys c, fun careful id unclaimed => ?_⟩
    exact serve_answered svc _ agree (fun entry mem there => own entry mem there ▸ careful)
      fun about => arrived id careful about unclaimed

/--
A task that one scheduler has claimed and not finished is not touched by another scheduler.

The claims of the other scheduler have to arrive and to be answered, whatever else gets lost.
-/
theorem claimed_task_kept (svc : CacheService) (env : Nat → Moment) (w : World)
    (keys : w.metadata.KeysAgree) (first second : Nat) (ne : first ≠ second)
    (events : List (Event Request))
    (archivers : ∀ req, .spawn req ∈ events → req.archiver ≠ none)
    (arrive : Config.Observes (machine svc env) start
      (ClaimsArrive svc env second) [] ⟨w, []⟩ events) (id : String) (task : ArchiveTask)
    (claimed : ClaimedBy (Config.trace (machine svc env) start ⟨w, []⟩ events) first id)
    (stored : (reached svc env w events).world.metadata.archiveTasks.get id
      = some task) (unfinished : task.phase = some .archiveTaskInProgress)
    (spot : Nat) (thread : Thread Call Reply Request Outcome)
    (there : (reached svc env w events).threads[spot]? = some thread)
    (other : thread.request.archiver = some second) :
    (reached svc env w (events ++ [.step spot])).world.metadata.archiveTasks.get
      id = some task := by
  have disciplined := archivers_disciplined keys archivers arrive
  rw [reached, Config.after_append]
  show ((reached svc env w events).advance _ spot).world.metadata.archiveTasks.get id = some task
  rcases Config.entry_cases (machine svc env) (reached svc env w events)
    spot with ⟨req, c, next, found, _, _, advanced⟩ | ⟨_, still⟩
  · rw [advanced]
    rw [there, Option.some.injEq] at found
    subst found
    obtain ⟨makes, _⟩ := disciplined.follows spot _ there
    rcases task_cases svc _ archiveTaskKind c stored with stays | ⟨sent, same, rfl, may, _⟩
    · exact stays
    -- The call updates the task, which leads to a contradiction in each of the ways it can be made.
    exfalso
    rcases makes sent same with ⟨starts, _⟩ | ⟨_, mayEnd⟩
    · have waits : Waiting task.phase := waiting_of_started (by simp [unfinished, Odd]) starts may
      simp [Waiting, unfinished] at waits
    · rcases mayEnd other with won | odd
      · obtain ⟨entry, recorded, owner, claims⟩ := claimed
        obtain ⟨exchange, mem, starts⟩ := won
        obtain ⟨own, ownRecorded, rfl, rfl⟩ := (mem_ownPart _ _).mp mem
        have alone := disciplined.agrees.single entry recorded own ownRecorded _ claims starts
        obtain ⟨maker, making, made⟩ := disciplined.made entry recorded
        rw [alone, there, Option.some.injEq] at making
        subst making
        rw [← made, other, Option.some.injEq] at owner
        exact ne owner.symm
      · obtain ⟨current, found, _, notRunning⟩ := disciplined.agrees.ofOdd odd
        obtain rfl : task = current := Option.some.inj (stored.symm.trans found)
        exact notRunning unfinished
  · rw [still]
    exact stored

omit [Sha256]

/-- A second scheduler with the same tape. -/
def otherScheduler : SchedulerState := { oneTapeScheduler with number := 1 }

/-- Two schedulers at the upload: the first has claimed it when the second starts. -/
def contest (count : Nat) : List (Event Request) :=
  [.spawn (.archiveStagingBatch oneTapeScheduler oneTapeClient 0)] ++ steps 8 0 ++
    [.spawn (.archiveStagingBatch otherScheduler oneTapeClient 0)] ++ steps count 1

/-- The two schedulers after some of the contest, and what was called by then. -/
def contested (env : Nat → Moment) (count : Nat) : System :=
  letI := shortDigests
  reached (.even (2 ^ 30)) env stagedWorld (contest count)

@[inherit_doc contested]
def contestedTrace (env : Nat → Moment) (count : Nat) : Trace Call Reply Request :=
  letI := shortDigests
  Config.trace (machine (.even (2 ^ 30)) env) start ⟨stagedWorld, []⟩ (contest count)

/-- The phase of the task of the upload. -/
def uploadPhase (system : System) : Option ArchiveTaskStatus :=
  (system.world.metadata.archiveTasks.get (phase1BundleId "docs" "a" none)).bind ArchiveTask.phase

theorem stagedWorld_keysAgree : stagedWorld.metadata.KeysAgree := by
  rw [stagedWorld, oneTapeAfter]
  exact Config.after_keeps (fun w : World => w.metadata.KeysAgree)
    (fun c w keys => serve_keysAgree _ _ keys c) _ _ (freshCatalogue_keysAgree ["docs"])

/-- The other worker moves on and leaves the claimed task as it is. -/
theorem claimed_task_kept_contest :
    let id := phase1BundleId "docs" "a" none
    ∃ task, (contested (still 0) 6).world.metadata.archiveTasks.get id = some task ∧
      task.phase = some .archiveTaskInProgress ∧
      (@reached shortDigests (.even (2 ^ 30)) (still 0) stagedWorld
        (contest 6 ++ [.step 1])).world.metadata.archiveTasks.get id = some task := by
  intro id
  have phase : uploadPhase (contested (still 0) 6) = some .archiveTaskInProgress := by
    decide +kernel
  have second : (contested (still 0) 6).threads[1]?.map (·.request.archiver) = some (some 1) := by
    decide +kernel
  have claimed : ClaimedBy (contestedTrace (still 0) 6) 0 (phase1BundleId "docs" "a" none) := by
    decide +kernel
  obtain ⟨task, stored, unfinished⟩ := Option.bind_eq_some_iff.mp phase
  obtain ⟨thread, there, other⟩ := Option.map_eq_some_iff.mp second
  refine ⟨task, stored, unfinished, ?_⟩
  rw [contested] at stored there
  rw [contestedTrace] at claimed
  let := shortDigests
  refine claimed_task_kept _ _ _ stagedWorld_keysAgree 0 1 (by decide) (contest 6) ?_ ?_ _ task
    claimed stored unfinished 1 thread there other
  · intro req mem
    simp [contest, steps] at mem
    rcases mem with rfl | rfl <;> simp [Request.archiver]
  · decide +kernel

/-- A claim that fails because the task cannot be read fails the task of another scheduler. -/
theorem claimed_task_failed :
    let env := lostAt 16 (.unavailable "connection reset")
    ClaimedBy (contestedTrace env 8) 0 (phase1BundleId "docs" "a" none) ∧
      ((contested env 8).threads[1]?).map (·.request.archiver) = some (some 1) ∧
      uploadPhase (contested env 8) = some .archiveTaskInProgress ∧
      uploadPhase (contested env 9) = some .archiveTaskFailed := by
  decide +kernel

end

end ColdStore.Scheduler
