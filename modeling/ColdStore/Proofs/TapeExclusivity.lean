import ColdStore.Scheduler.TapeRuns

/-! However passes interleave, two of one scheduler are never at the same tape. -/

namespace ColdStore.Scheduler

open Rust Process Program

/-- The program of a pass. -/
def startTapeRun [Sha256] : TapeRun → Sched Unit
  | .archive s => do let _ ← archiveStagingOnce s
  | .recalls s limit => do let _ ← recallPendingBatch s limit
  | .other program => program

abbrev TapeUsers := Config Call Reply World TapeRun Unit

/-- The next call of a program is one of a write or a read of a bundle. -/
def atTape {α : Type} : Sched α → Bool
  | .call (.tape _) _ => true
  | _ => false

/-- The scheduler and the tape that a pass inside a write or a read of a bundle is at. -/
def tapeInUse (config : TapeUsers) (trace : Trace Call Reply TapeRun) (spot : Nat) :
    Option (Nat × String) := do
  let thread ← config.threads[spot]?.filter fun thread => atTape thread.program
  let scheduler ← thread.request.scheduler?
  let tapeId ← thread.request.addressed (ownPart spot trace)
  pure (scheduler, tapeId)

/-- What runs beside the passes gives back no leases of tapes and updates no recall tasks. -/
def Beside : Call → Prop
  | .here (.releaseTapeLease _ _) | .metadata (.apply (.updateRecallTask _)) => False
  | _ => True

/-- A pass that may be started. -/
def Leased : TapeRun → Prop
  | .archive s => s.config.LeasesOwnTape
  | .recalls _ _ => True
  | .other program => program.Only Beside

section

variable [Sha256]

theorem startTapeRun_leases {run : TapeRun} (leased : Leased run) :
    (startTapeRun run).Follows (leasing run) (fun _ _ => True) [] := by
  cases run with
  | archive s =>
    apply follows_bind
    exact (archiveStagingOnce_leases leased).mono fun _ _ _ => trivial
  | recalls s limit =>
    apply follows_bind
    exact recallPendingBatch_leases.mono fun _ _ _ => trivial
  | other program =>
    -- Other programs do not touch the tape service, so they need no lease.
    refine follows_of_only (fun past call admitted => ?_) leased
    cases call with
    | tape req => rintro _ ⟨⟩
    | cache => trivial
    | here call => cases call <;> trivial
    | metadata call =>
      cases call with
      | apply cmd => cases cmd <;> trivial
      | _ => trivial

omit [Sha256] in
/-- A pass that keeps to its calls holds the lease of the tape it uses. -/
theorem holdsLease_of_tapeInUse {config : TapeUsers} {trace : Trace Call Reply TapeRun}
    (disciplined : Disciplined leasing LeasesAgree (fun _ _ _ => True) trace config)
    {spot scheduler : Nat} {tapeId : String}
    (uses : tapeInUse config trace spot = some (scheduler, tapeId)) :
    HoldsLease (ownPart spot trace) scheduler tapeId := by
  simp only [tapeInUse, Option.bind_eq_bind, Option.bind_eq_some_iff,
    Option.filter_eq_some_iff] at uses
  obtain ⟨⟨run, program⟩, ⟨found, inside⟩, _, owner, _, addressed, same⟩ := uses
  obtain ⟨rfl, rfl⟩ := Prod.mk.inj (Option.some.inj same)
  -- The call a run is about to make is one its discipline allows.
  have follows := disciplined.follows spot _ found
  cases program with
  | done value => cases inside
  | call call next =>
    cases call with
    | tape req =>
      obtain ⟨leased, at_tape, held, _⟩ := follows.1 _ owner
      rw [addressed, Option.some.injEq] at at_tape
      exact at_tape ▸ held
    | metadata | cache | here => cases inside

variable (svc : CacheService) (env : Nat → Moment) (w : World) (events : List (Event TapeRun))

/-- Passes lease the tapes they use, in every run. -/
theorem tapeRuns_disciplined (keys : w.metadata.KeysAgree)
    (leased : ∀ run, .spawn run ∈ events → Leased run) :
    Disciplined leasing LeasesAgree (fun _ _ _ => True)
      (Config.trace (machine svc env) startTapeRun ⟨w, []⟩ events)
      (Config.after (machine svc env) startTapeRun ⟨w, []⟩ events) := by
  have initial : Disciplined leasing LeasesAgree (fun _ _ _ => True) [] (⟨w, []⟩ : TapeUsers) :=
    Disciplined.initial (.nil keys)
  refine Disciplined.after Leased (fun _ => startTapeRun_leases) ?_ events [] _ initial
    (Config.observes_trivial _ _ events [] _) leased
  intro trace config spot agree _ run call next _ free _ makes
  exact agree.step free makes

/--
However passes interleave, two of one scheduler are never inside operations on the same tape.

Each holds the lease of the tape it uses, if the archive worker is set up to lease its own tape.
-/
theorem tape_used_by_one (keys : w.metadata.KeysAgree)
    (leased : ∀ run, .spawn run ∈ events → Leased run) :
    let config := Config.after (machine svc env) startTapeRun ⟨w, []⟩ events
    let trace := Config.trace (machine svc env) startTapeRun ⟨w, []⟩ events
    (∀ used first second, tapeInUse config trace first = some used →
      tapeInUse config trace second = some used → first = second) ∧
    ∀ scheduler tapeId spot, tapeInUse config trace spot = some (scheduler, tapeId) →
      HoldsLease (ownPart spot trace) scheduler tapeId ∧
        tapeId ∈ (config.world.schedulers scheduler).leasedTapes := by
  intro config trace
  -- A tape in use is leased to the run that uses it, and leases are exclusive.
  have disciplined : Disciplined leasing LeasesAgree (fun _ _ _ => True) trace config :=
    tapeRuns_disciplined svc env w events keys leased
  refine ⟨fun (scheduler, tapeId) first second firstUses secondUses => ?_,
    fun scheduler tapeId spot uses => ?_⟩
  · exact disciplined.agrees.single first second scheduler tapeId
      (holdsLease_of_tapeInUse disciplined firstUses)
      (holdsLease_of_tapeInUse disciplined secondUses)
  · have held := holdsLease_of_tapeInUse disciplined uses
    exact ⟨held, disciplined.agrees.leased spot scheduler tapeId held⟩

end

/-- An archived object that someone wants back, and the task to recall it. -/
def coldObject : ObjectMetadata where
  bucket := "docs"
  key := "b"
  size := 2
  storageClass := StorageClass.cold.number
  archiveId := some "bundle-b"
  tapeId := some "TAPE-1"
  restoreStatus := some RestoreStatus.restorePending.number

@[inherit_doc coldObject]
def coldObjectRecall : RecallTask where
  id := "task-b"
  bucket := "docs"
  key := "b"
  archiveId := "bundle-b"
  tapeId := "TAPE-1"
  objectSize := 2
  status := RestoreStatus.restorePending.number

/-- One tape in one of two drives, an object to archive and another to recall. -/
def busyWorld : World :=
  let archived := (applyCommand 0 stagedWorld.metadata (.putObject coldObject)).2
  { stagedWorld with
    metadata := (applyCommand 0 archived (.putRecallTask coldObjectRecall)).2
    tape := {
      library := { oneDrive.library with
        drives := oneDrive.library.drives ++ [{ address := ⟨.drive, 1⟩ }] }
      acquired := [false, false]
      nextFilemark := [0, 0] } }

/-- A scheduler that archives in the one drive and recalls in the other. -/
def twoDriveScheduler : SchedulerState :=
  { oneTapeScheduler with
    config := { oneTapeScheduler.config with recallDriveId := "drive-1" } }

/-- An archive pass and a recall pass take turns until each of them could have leased a drive. -/
def crossingPasses (s : SchedulerState) : List (Event TapeRun) :=
  [.spawn (.archive s), .spawn (.recalls s 1)] ++ (List.replicate 11 [.step 0, .step 1]).flatten

theorem busyWorld_keysAgree : busyWorld.metadata.KeysAgree := by
  have staged : stagedWorld.metadata.KeysAgree :=
    Config.after_keeps (fun w : World => w.metadata.KeysAgree)
      (fun call _ keys => serve_keysAgree _ _ keys call) _ _ (freshCatalogue_keysAgree ["docs"])
  exact applyCommand_keysAgree (applyCommand_keysAgree staged 0 _) 0 _

/-- The archive pass is at the tape, and the recall pass waits for its lease. -/
theorem tape_used_by_one_waiting :
    letI := shortDigests
    let events := crossingPasses twoDriveScheduler
    let config := Config.after quietMachine startTapeRun ⟨busyWorld, []⟩ events
    let trace := Config.trace quietMachine startTapeRun ⟨busyWorld, []⟩ events
    tapeInUse config trace 0 = some (0, "TAPE-1") ∧
      HoldsLease (ownPart 0 trace) 0 "TAPE-1" ∧
      ∀ other, tapeInUse config trace other = some (0, "TAPE-1") → 0 = other := by
  let := shortDigests
  have leased : ∀ run, .spawn run ∈ crossingPasses twoDriveScheduler → Leased run := by
    intro run mem
    obtain rfl | rfl : run = .archive twoDriveScheduler ∨ run = .recalls twoDriveScheduler 1 := by
      simpa [crossingPasses] using mem
    · exact .inl rfl
    · trivial
  have uses : tapeInUse
      (Config.after quietMachine startTapeRun ⟨busyWorld, []⟩ (crossingPasses twoDriveScheduler))
      (Config.trace quietMachine startTapeRun ⟨busyWorld, []⟩
        (crossingPasses twoDriveScheduler)) 0 = some (0, "TAPE-1") := by decide +kernel
  have single := tape_used_by_one (.even (2 ^ 30)) (still 0) busyWorld
    (crossingPasses twoDriveScheduler) busyWorld_keysAgree leased
  exact ⟨uses, (single.2 0 "TAPE-1" 0 uses).1, fun other => single.1 _ 0 other uses⟩

/-- A scheduler that writes to one tape and leases another. -/
def crossedScheduler : SchedulerState :=
  { twoDriveScheduler with
    config := { twoDriveScheduler.config with archiveTapeSet := ["TAPE-2"] } }

/-- With another tape leased, the archive worker writes to the tape that is being read. -/
theorem tape_used_by_two :
    letI := shortDigests
    let events := crossingPasses crossedScheduler
    let config := Config.after quietMachine startTapeRun ⟨busyWorld, []⟩ events
    let trace := Config.trace quietMachine startTapeRun ⟨busyWorld, []⟩ events
    config.world.tape.acquired = [true, true] ∧
      tapeInUse config trace 0 = some (0, "TAPE-1") ∧
      tapeInUse config trace 1 = some (0, "TAPE-1") := by
  decide +kernel

end ColdStore.Scheduler
