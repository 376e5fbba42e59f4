import ColdStore.Proofs.Durability
import ColdStore.Scheduler.Requests
import ColdStore.Scheduler.Restoring

/-! Restores beside each other and beside recall workers, and what they leave of a restore status. -/

namespace ColdStore.Scheduler

open Rust Process Program

/-! Of several restores of an object, one is accepted. -/

/-- Recall tasks are named after their objects. -/
def namedAfter (id bucket key : String) : Prop := id = phase1RecallTaskId bucket key none

/-- How far the restore of the object at a place has come. -/
def stageAt (s : MetadataState) (place : ObjectKey) : Nat :=
  restoreStage (restoreStatusAt s place).join

theorem stageAt_of {s : MetadataState} {place : ObjectKey} {status : Option Int}
    (recorded : restoreStatusAt s place = some status) :
    stageAt s place = restoreStage status := by rw [stageAt, recorded, Option.join_some]

/-- An object was marked once at most, and what has been seen of its restore is not taken back. -/
structure MarkedOnce (bucket key : String) (trace : Trace Call Reply Request) (w : World) :
    Prop where
  about : CatalogueAbout namedAfter w.metadata
  status : ∃ status, restoreStatusAt w.metadata ⟨bucket, key, none⟩ = some status ∧
    ∀ number ∈ status, Markable number
  running : ∀ spot id, SeenRunning (ownPart spot trace) id → w.metadata.RecallClosed id
  single : ∀ first second expireAt other, marked bucket key expireAt ∈ ownPart first trace →
    marked bucket key other ∈ ownPart second trace → first = second
  begun : ∀ spot expireAt, marked bucket key expireAt ∈ ownPart spot trace →
    0 < stageAt w.metadata ⟨bucket, key, none⟩

section

variable {bucket key : String} {trace : Trace Call Reply Request} {w : World} {call : Call}
  (svc : CacheService) (moment : Moment)

/-- A call of a restore or a recall worker leaves an object at its stage or brings it further. -/
theorem CatalogueAbout.stage_step {of : String → String → String → Prop}
    (about : CatalogueAbout of w.metadata) (allowed : RestoreCall of call) {place : ObjectKey}
    (status : ∃ status, restoreStatusAt w.metadata place = some status ∧
      ∀ number ∈ status, Markable number) :
    (∃ status, restoreStatusAt (serve svc moment call w).2.metadata place = some status ∧
      ∀ number ∈ status, Markable number) ∧
    stageAt w.metadata place ≤ stageAt (serve svc moment call w).2.metadata place := by
  obtain ⟨status, recorded, known⟩ := status
  -- Only a mark of this object changes its status, and a mark that is valid leads further.
  rcases about.status_cases svc moment allowed place with
    same | ⟨req, current, rfl, _, before, valid, after⟩
  · rw [stageAt, stageAt, same]
    exact ⟨⟨status, recorded, known⟩, Nat.le_refl _⟩
  · obtain rfl := Option.some.inj (before.symm.trans recorded)
    have markable : Markable req.status := allowed.2
    refine ⟨⟨_, after, fun number same => Option.some.inj same ▸ markable⟩, ?_⟩
    rw [stageAt_of before, stageAt_of after]
    exact (restoreStage_lt known markable valid).le

/-- A call that is answered keeps to one mark of the object, and brings no restore back. -/
theorem MarkedOnce.step (once : MarkedOnce bucket key trace w)
    (allowed : RestoreCall namedAfter call) (spot : Nat) (req : Request) :
    MarkedOnce bucket key (trace ++ [⟨spot, req, ⟨call, (serve svc moment call w).1⟩⟩])
        (serve svc moment call w).2 ∧ stageAt w.metadata ⟨bucket, key, none⟩ ≤
        stageAt (serve svc moment call w).2.metadata ⟨bucket, key, none⟩ := by
  obtain ⟨status, further⟩ := once.about.stage_step svc moment allowed once.status
  -- A mark finds an object whose restore has not begun.
  have first : ∀ expireAt, (⟨call, (serve svc moment call w).1⟩ : Exchange Call Reply) =
      marked bucket key expireAt → stageAt w.metadata ⟨bucket, key, none⟩ = 0 ∧
        0 < stageAt (serve svc moment call w).2.metadata ⟨bucket, key, none⟩ := by
    intro expireAt same
    obtain ⟨current, before, valid, after⟩ := marked_effect svc moment once.about.plain same
    obtain ⟨recorded, there, known⟩ := once.status
    obtain rfl := Option.some.inj (there.symm.trans before)
    have later := restoreStage_lt known ⟨.restorePending, rfl, by decide, by decide⟩ valid
    rw [restoreStage_number] at later
    rw [stageAt_of before, stageAt_of after, restoreStage_number]
    exact ⟨Nat.lt_one_iff.mp later, by decide⟩
  have unmarked : ∀ expireAt, (⟨call, (serve svc moment call w).1⟩ : Exchange Call Reply) =
      marked bucket key expireAt → ∀ other expireAt', marked bucket key expireAt' ∉
        ownPart other trace := by
    intro expireAt same other expireAt' old
    exact absurd (once.begun other expireAt' old) (by rw [(first expireAt same).1]; decide)
  refine ⟨⟨once.about.served svc moment allowed, status, ?_, ?_, ?_⟩, further⟩
  · rintro other id ⟨exchange, mem, task, shows, named, running⟩
    rcases mem_ownPart_concat.mp mem with old | ⟨_, rfl⟩
    · exact serve_recallClosed svc moment call
        (once.running other id ⟨exchange, old, task, shows, named, running⟩)
    · exact ⟨task, named ▸ shown_stored once.about.keys shows, .restoreInProgress, running, rfl⟩
  · intro left right expireAt expireAt' leftMember rightMember
    rcases mem_ownPart_concat.mp leftMember with leftOld | ⟨rfl, leftNew⟩
    · rcases mem_ownPart_concat.mp rightMember with rightOld | ⟨_, rightNew⟩
      · exact once.single left right expireAt expireAt' leftOld rightOld
      · exact absurd leftOld (unmarked expireAt' rightNew left expireAt)
    · rcases mem_ownPart_concat.mp rightMember with rightOld | ⟨rfl, _⟩
      · exact absurd rightOld (unmarked expireAt leftNew right expireAt')
      · rfl
  · intro other expireAt mem
    rcases mem_ownPart_concat.mp mem with old | ⟨_, new⟩
    · exact Nat.lt_of_lt_of_le (once.begun other expireAt old) further
    · exact (first expireAt new).2

end

/-- A request to restore an object, or a worker that recalls what restores have asked for. -/
def Request.Restores : Request → Prop
  | .restoreObject _ _ _ _ | .recallPendingBatch _ _ => True
  | _ => False

/-- A restore reports that it was accepted if it has marked its object. -/
def Reports (req : Request) (outcome : Outcome) (past : History) : Prop :=
  ∀ bucket key days tier, req = .restoreObject bucket key days tier →
    outcome = .restored (.ok ⟨202⟩) → ∃ expireAt, marked bucket key expireAt ∈ past

variable [Sha256] {bucket key : String}

theorem start_restores {req : Request} (restoring : req.Restores) :
    (start req).Follows (restores namedAfter) (Reports req) [] := by
  cases req with
  | restoreObject bucket key days tier =>
    apply follows_bind
    apply (restoreObject_asks rfl days tier).mono
    -- A restore that reports acceptance has marked its object.
    intro result later accepts
    rintro _ _ _ _ ⟨⟩ reported
    apply accepts
    cases reported
    rfl
  | recallPendingBatch s limit =>
    apply follows_bind
    apply (recallPendingBatch_asks s limit).mono
    -- A recall worker reports no restore at all.
    intro batch later _
    rintro _ _ _ _ ⟨⟩
  | _ => exact restoring.elim

variable {trace : Trace Call Reply Request} {system : System}

/-- Restores and recall workers mark an object once, and do not bring it back from its stage. -/
theorem restores_disciplined (svc : CacheService) (env : Nat → Moment) (floor : Nat)
    (disciplined : Disciplined (fun _ => restores namedAfter) (fun trace w =>
      MarkedOnce bucket key trace w ∧ floor ≤ stageAt w.metadata ⟨bucket, key, none⟩)
      Reports trace system) (events : List (Event Request))
    (restoring : ∀ req, .spawn req ∈ events → req.Restores) :
    Disciplined (fun _ => restores namedAfter) (fun trace w =>
      MarkedOnce bucket key trace w ∧ floor ≤ stageAt w.metadata ⟨bucket, key, none⟩)
      Reports (trace ++ system.trace (machine svc env) start events)
      (system.after (machine svc env) start events) := by
  -- One call of one thread at a time; what it keeps, the whole run keeps.
  refine Disciplined.after Request.Restores (fun _ => start_restores) ?_ events trace system
    disciplined (Config.observes_trivial _ _ _ _ _) restoring
  intro trace config spot agrees _ req call next _ _ _ allowed
  obtain ⟨once, above⟩ := agrees
  obtain ⟨stepped, further⟩ := once.step svc (env config.world.tick) allowed spot req
  exact ⟨⟨stepped, above.trans further⟩, once.about.answers svc _ allowed (once.running spot)⟩

/-- The catalogue of schedulers names recall tasks after their objects. -/
theorem InOrder.catalogueAbout {w : World} (inOrder : InOrder w) :
    CatalogueAbout namedAfter w.metadata where
  keys := inOrder.keys
  plain := inOrder.orderly.plain
  tasks := inOrder.orderly.named

/-- An object without a restore status has not been marked. -/
theorem InOrder.markedOnce {w : World} (inOrder : InOrder w) {obj : ObjectMetadata}
    (stored : w.metadata.objects.get ⟨bucket, key, none⟩ = some obj)
    (fresh : obj.restoreStatus = none) : MarkedOnce bucket key [] w where
  about := inOrder.catalogueAbout
  status := ⟨none, by rw [restoreStatusAt, stored, Option.map_some, fresh], by simp⟩
  running := by
    rintro spot id ⟨exchange, mem, _⟩
    exact (List.not_mem_nil mem).elim
  single _ _ _ _ mem := (List.not_mem_nil mem).elim
  begun _ _ mem := (List.not_mem_nil mem).elim

/-- The number of times that a recall task was created under an id. -/
def recallsCreated (svc : CacheService) (env : Nat → Moment) (w : World)
    (events : List (Event Request)) (id : String) : Nat := Config.rises (machine svc env) start
    (fun w => (w.metadata.recallTasks.get id).isSome) ⟨w, []⟩ events

/-- A recall task that is there is never taken away, so that it is created once. -/
theorem recallsCreated_le_one (svc : CacheService) (env : Nat → Moment) (w : World)
    (events : List (Event Request)) (id : String) : recallsCreated svc env w events id ≤ 1 := by
  refine (Config.rises_le (fun call w there => ?_) events _).trans (by split <;> decide)
  obtain ⟨task, present⟩ := Option.isSome_iff_exists.mp there
  rcases task_cases svc (env w.tick) recallTaskKind call present with
    stays | ⟨next, _, _, _, stored⟩
  · exact Option.isSome_iff_exists.mpr ⟨task, stays⟩
  · exact Option.isSome_iff_exists.mpr ⟨next, stored⟩

/-- The thread at a position is a restore of an object that was accepted. -/
def AcceptedAt (system : System) (bucket key : String) (spot : Nat) : Prop :=
  ∃ days tier, system.threads[spot]? =
    some (⟨.restoreObject bucket key days tier, .done (.restored (.ok ⟨202⟩))⟩ :
      Thread Call Reply Request Outcome)

omit [Sha256] in
/-- A restore that was accepted has marked its object. -/
theorem AcceptedAt.marks {agrees : Trace Call Reply Request → World → Prop} {spot : Nat}
    (disciplined : Disciplined (fun _ => restores namedAfter) agrees Reports trace system)
    (accepted : AcceptedAt system bucket key spot) :
    ∃ expireAt, marked bucket key expireAt ∈ ownPart spot trace := by
  obtain ⟨days, tier, there⟩ := accepted
  have reports : Reports (.restoreObject bucket key days tier) (.restored (.ok ⟨202⟩)) _ :=
    disciplined.follows spot _ there
  exact reports bucket key days tier rfl rfl

/--
Of restores of one object beside each other and beside recall workers, one is accepted at most.

At most one recall task is created for the object, and its restore status never goes back to an
earlier stage. Any calls may fail.
-/
theorem restores_accepted_once (svc : CacheService) (env : Nat → Moment) (w : World)
    (inOrder : InOrder w) {obj : ObjectMetadata}
    (stored : w.metadata.objects.get ⟨bucket, key, none⟩ = some obj)
    (fresh : obj.restoreStatus = none) (events : List (Event Request))
    (restoring : ∀ req, .spawn req ∈ events → req.Restores) :
    (∀ first second, AcceptedAt (reached svc env w events) bucket key first →
      AcceptedAt (reached svc env w events) bucket key second → first = second) ∧
    recallsCreated svc env w events (phase1RecallTaskId bucket key none) ≤ 1 ∧
    (∀ id task, (reached svc env w events).world.metadata.recallTasks.get id =
      some task → task.bucket = bucket → task.key = key → id = phase1RecallTaskId bucket key none) ∧
    ∀ earlier later, events = earlier ++ later →
      stageAt (reached svc env w earlier).world.metadata ⟨bucket, key, none⟩ ≤
        stageAt (reached svc env w events).world.metadata ⟨bucket, key, none⟩ := by
  have run : ∀ events : List (Event Request), (∀ req, .spawn req ∈ events → req.Restores) →
      Disciplined (fun _ => restores namedAfter) (fun trace later =>
        MarkedOnce bucket key trace later ∧ 0 ≤ stageAt later.metadata ⟨bucket, key, none⟩) Reports
        (Config.trace (machine svc env) start ⟨w, []⟩ events)
        (reached svc env w events) :=
    restores_disciplined svc env 0 (.initial ⟨inOrder.markedOnce stored fresh, Nat.zero_le _⟩)
  have ended := run events restoring
  refine ⟨?_, recallsCreated_le_one svc env w events _, ?_, ?_⟩
  · -- Each of the two has marked the object, and that is done once.
    intro first second firstAccepted secondAccepted
    obtain ⟨expireAt, firstMarked⟩ := firstAccepted.marks ended
    obtain ⟨other, secondMarked⟩ := secondAccepted.marks ended
    exact ended.agrees.1.single first second expireAt other firstMarked secondMarked
  · intro id task found sameBucket sameKey
    have about := ended.agrees.1.about
    rw [← sameBucket, ← sameKey, HashMap.keyed_iff.mp about.keys.recallTasks id task found]
    exact about.tasks id task found
  · -- The stage the object has come to is a floor for everything that happens later.
    intro earlier later parts
    subst parts
    have before := run earlier fun req mem => restoring req (List.mem_append_left _ mem)
    have onward := restores_disciplined svc env _
      ⟨⟨before.agrees.1, Nat.le_refl _⟩, before.follows, before.made⟩ later
      fun req mem => restoring req (List.mem_append_right _ mem)
    have whole : reached svc env w (earlier ++ later) = Config.after
        (machine svc env) start (reached svc env w earlier) later := Config.after_append _ _ _ _ _
    rw [whole]
    exact onward.agrees.2

omit [Sha256]

/-- The deployment with one tape after an upload has been archived. -/
def archivedWorld : World := (oneTapeAfter (still 0) (archivedUpload ++ steps 5 1)).world

/-- Two restores of the object that both find it unrestored, and a worker that recalls it. -/
def twoRestores : List (Event Request) :=
  [.spawn (.restoreObject "docs" "a" 1 .standard), .spawn (.restoreObject "docs" "a" 7 .bulk),
    .spawn (.recallPendingBatch oneTapeScheduler 8)] ++ steps 1 0 ++ steps 5 1 ++ steps 6 2 ++ steps 4 0

/-- Whether a request was a restore that was accepted. -/
def Outcome.acceptsRestore : Outcome → Bool
  | .restored (.ok response) => response.statusCode == 202
  | _ => false

/-- Whether a thread is a restore of an object that was accepted. -/
def acceptsRestoreOf (bucket key : String) (thread : Thread Call Reply Request Outcome) : Bool :=
  match thread with
  | ⟨.restoreObject name obj _ _, .done outcome⟩ =>
    name == bucket && obj == key && outcome.acceptsRestore
  | _ => false

theorem acceptedAt_of {spot : Nat}
    (accepts : (system.threads[spot]?).any (acceptsRestoreOf bucket key) = true) :
    AcceptedAt system bucket key spot := by
  obtain ⟨⟨req, program⟩, there, accepts⟩ := (Option.any_eq_true _ _).mp accepts
  simp only [acceptsRestoreOf] at accepts
  -- Only a restore that has ended can have been accepted.
  split at accepts
  case h_2 => cases accepts
  case h_1 name obj days tier outcome same =>
    obtain ⟨rfl, rfl⟩ := Thread.mk.inj same
    simp only [Bool.and_eq_true, beq_iff_eq] at accepts
    obtain ⟨⟨rfl, rfl⟩, accepts⟩ := accepts
    refine ⟨days, tier, ?_⟩
    rw [there]
    cases outcome with
    | restored answer =>
      cases answer with
      | error status => cases accepts
      | ok response =>
        obtain ⟨statusCode⟩ := response
        obtain rfl : statusCode = 202 := beq_iff_eq.mp accepts
        rfl
    | _ => cases accepts

/-- Of two restores that both find the object unrestored, the one that is quicker is accepted. -/
theorem restores_accepted_once_of_two :
    letI := shortDigests
    let system := reached (.even (2 ^ 30)) (still 0) archivedWorld twoRestores
    AcceptedAt system "docs" "a" 1 ∧ ¬ AcceptedAt system "docs" "a" 0 := by
  let := shortDigests
  intro system
  have run : (∃ obj ∈ archivedWorld.metadata.objects.get ⟨"docs", "a", none⟩,
        obj.restoreStatus = none) ∧
      ((reached (.even (2 ^ 30)) (still 0) archivedWorld twoRestores).threads[1]?).any
        (acceptsRestoreOf "docs" "a") = true := by decide +kernel
  obtain ⟨⟨obj, stored, fresh⟩, accepts⟩ := run
  have second : AcceptedAt (reached (.even (2 ^ 30)) (still 0) archivedWorld twoRestores) "docs" "a" 1 :=
    acceptedAt_of accepts
  -- Unfolding the world by hand keeps it from being computed once more.
  have inOrder : InOrder archivedWorld := by
    rw [archivedWorld]
    exact oneTapeAfter_inOrder _ _
  refine ⟨second, fun first => ?_⟩
  have same := (restores_accepted_once (.even (2 ^ 30)) (still 0) archivedWorld
    inOrder stored fresh twoRestores (by simp [twoRestores, steps, Request.Restores])).1 0 1 first second
  exact absurd same (by decide)

end ColdStore.Scheduler
