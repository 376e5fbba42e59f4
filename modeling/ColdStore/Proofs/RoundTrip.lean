import ColdStore.Scheduler.FromTape

/-! What is uploaded, archived to one tape and restored from it is read as it was put. -/

namespace ColdStore.Scheduler

open Rust Process Program SimulatorState

/-- Upload everything, archive it, ask for it and recall it, and read it. -/
def roundTrip (uploads : List Upload) (archive : Request) (steps : List RecallStep)
    (reads : List Upload) : List Request :=
  uploads.map Upload.request ++ (archive :: (steps.map RecallStep.request ++
    reads.map fun upload => .getObject upload.bucket upload.key))

section

variable [Sha256] {svc : CacheService} {env : Nat → Moment} {uploads : List Upload}
  {storageBytes index : Nat}

/-- The steps of a plan that asks for everything once are due when everything is on the tape. -/
theorem Shelving.due {plan : RecallPlan svc} {w : World} {steps : List RecallStep}
    (fair : ∀ step ∈ steps, step.Fair plan.env plan.index)
    (each : (askedUploads steps).Perm plan.uploads) (enough : waitingAfter 0 steps = 0)
    (inOrder : InOrder w) (shelving : Shelving plan.toTapePlan plan.bundles [] w) :
    Due plan steps w where
  inOrder := inOrder
  locks := shelving.locks
  fair := fair
  -- A list that is in another order has no repetitions either.
  once := each.nodup_iff.mpr (List.Nodup.of_map _ plan.apart.distinct)
  inside _ there := each.subset there
  enough := by
    -- Nothing has been asked for, so nothing waits.
    have none : waitingTasks w = [] := by
      rw [waitingTasks, values_eq_nil shelving.unasked]
      rfl
    rw [none]
    exact enough
  keeping := shelving.keeping inOrder fun _ => each.mem_iff

/-- What is on the tape is recalled and then read. -/
theorem Due.reads_achieve {plan : RecallPlan svc} {steps : List RecallStep} {reads : List Upload}
    (inside : ∀ upload ∈ reads, upload ∈ plan.uploads) {w : World} (due : Due plan steps w) :
    (serveAll (steps.map RecallStep.request ++
      reads.map fun upload => .getObject upload.bucket upload.key)).Achieves (machine svc plan.env)
      (fun outcomes _ => ∃ restores gets, outcomes = restores ++ gets ∧
        List.Forall₂ (fun _ outcome => outcome.Succeeded) steps restores ∧
        List.Forall₂ ReadBack reads gets) w := by
  refine serveAll_append_achieves (steps_achieve due) fun restores after met => ?_
  exact (Scheduler.reads_achieve inside met.2).mono fun gets _ back =>
    ⟨restores, gets, rfl, met.1, back⟩

/--
Uploads to different places of a fresh deployment are archived by one batch to a blank tape,
restored in any order and read: every call succeeds, and each body is returned with its size
and digest.
-/
theorem round_trip_reads_back (calm : ∀ tick, (env tick).fault = none)
    (apart : Apart uploads) {buckets : List String}
    (known : ∀ upload ∈ uploads, upload.bucket ∈ buckets)
    (room : svc.RoomFor storageBytes (totalSize uploads)) {tapes : SimulatorState}
    {client : TapeArchiveClient} (parsed : parseDriveId client.driveId = .ok ⟨.drive, index⟩)
    (blank : tapes.HoldsFree index { barcode := client.tapeId } 0) (s : SchedulerState)
    {limit : Nat} (word : limit < 2 ^ 32) (covers : uploads.length ≤ limit)
    {steps : List RecallStep} (fair : ∀ step ∈ steps, step.Fair env index)
    (each : (askedUploads steps).Perm uploads) (enough : waitingAfter 0 steps = 0)
    {reads : List Upload} (inside : ∀ upload ∈ reads, upload ∈ uploads) :
    ∃ puts archived restores gets after,
      (serveAll (roundTrip uploads (.archiveStagingBatch s client limit) steps reads)).run
        (machine svc env) (.fresh buckets storageBytes tapes) =
          some (puts ++ archived :: (restores ++ gets), after) ∧
      List.Forall₂ (fun _ outcome => outcome.Succeeded) uploads puts ∧ archived.Succeeded ∧
      List.Forall₂ (fun _ outcome => outcome.Succeeded) steps restores ∧
      List.Forall₂ ReadBack reads gets := by
  let plan : TapePlan svc :=
    ⟨env, calm, uploads, apart, storageBytes, room, client, index, parsed⟩
  have filling : Filling tapes plan.index plan.tapeId [] :=
    ⟨_, blank, VirtualTape.appended_blank _, rfl⟩
  -- What a run achieves is what it ends with.
  suffices achieves : (serveAll (roundTrip uploads (.archiveStagingBatch s client limit) steps
      reads)).Achieves (machine svc env)
      (fun outcomes _ => ∃ puts archived restores gets,
        outcomes = puts ++ archived :: (restores ++ gets) ∧
        List.Forall₂ (fun _ outcome => outcome.Succeeded) uploads puts ∧ archived.Succeeded ∧
        List.Forall₂ (fun _ outcome => outcome.Succeeded) steps restores ∧
        List.Forall₂ ReadBack reads gets) (.fresh buckets storageBytes tapes) by
    obtain ⟨_, after, run, puts, archived, restores, gets, rfl, met⟩ := achieves_iff_run.mp achieves
    exact ⟨puts, archived, restores, gets, after, run, met⟩
  -- Four phases follow, and each starts from the invariant the last one ends with.
  have fresh : UploadsStaged plan [] tapes (.fresh buckets storageBytes tapes) :=
    fresh_staged known tapes
  refine serveAll_append_achieves (uploads_achieve fresh) fun puts first met => ?_
  obtain ⟨put, staged⟩ := met
  refine achieves_bind (archive_achieves covers word s filling staged) fun archived second met => ?_
  obtain ⟨done, inOrder, bundles, shelving⟩ := met
  have due : Due ⟨plan, bundles⟩ steps second := shelving.due fair each enough inOrder
  refine achieves_bind (due.reads_achieve inside) fun others last met => ?_
  obtain ⟨restores, gets, rfl, recalled, back⟩ := met
  exact ⟨puts, archived, restores, gets, rfl, put, done, recalled, back⟩

end

/-- Two uploads, one of them empty. -/
def smallUploads : List Upload := [⟨"docs", "a", [97], none⟩, ⟨"docs", "a/b", [], some "text"⟩]

/-- Each upload is asked for, and a worker recalls it. -/
def smallSteps : List RecallStep :=
  [.restore ⟨"docs", "a/b", [], some "text"⟩ 1 .bulk, .restore ⟨"docs", "a", [97], none⟩ 0 .standard,
    .pass oneTapeScheduler 1, .pass oneTapeScheduler 4]

/-- Two uploads make the round trip in the deployment with one tape. -/
theorem round_trip_of_two :
    letI := shortDigests
    ∃ puts archived restores gets after,
      (serveAll (roundTrip smallUploads (.archiveStagingBatch oneTapeScheduler oneTapeClient 2)
        smallSteps smallUploads)).run quietMachine oneTapeWorld =
          some (puts ++ archived :: (restores ++ gets), after) ∧
      List.Forall₂ (fun _ outcome => outcome.Succeeded) smallUploads puts ∧ archived.Succeeded ∧
      List.Forall₂ (fun _ outcome => outcome.Succeeded) smallSteps restores ∧
      List.Forall₂ ReadBack smallUploads gets := by
  let := shortDigests
  have room : (CacheService.even (2 ^ 30)).RoomFor (2 ^ 30) (totalSize smallUploads) :=
    ⟨by decide, by decide, by decide, by decide, by decide⟩
  have parsed : parseDriveId oneTapeClient.driveId = .ok ⟨.drive, 0⟩ := by decide
  have blank : oneDrive.HoldsFree 0 { barcode := oneTapeClient.tapeId } 0 :=
    ⟨⟨by decide, ⟨_, rfl, rfl⟩, rfl⟩, rfl⟩
  -- Both passes are made at the drive the batch wrote in.
  have fair : ∀ step ∈ smallSteps, step.Fair (still 0) 0 := by
    simp only [smallSteps, List.forall_mem_cons]
    -- The clock stands still, so that not even one day passes.
    have day : 0 < 0 + max 1 1 * 86400 := by decide
    exact ⟨⟨by decide, fun _ _ => day⟩, ⟨by decide, fun _ _ => day⟩, parsed, parsed, by simp⟩
  exact round_trip_reads_back (fun _ => rfl) ⟨by decide, by decide⟩ (by decide) room parsed blank
    oneTapeScheduler (by decide) (by decide) fair (.swap ..) (by decide) fun _ mem => mem

end ColdStore.Scheduler
