import ColdStore.Scheduler.Uploads

/-! Uploads of one object that overlap: which body is staged in the end, and which is recorded. -/

namespace ColdStore.Scheduler

open Rust Process CacheState

/-- The body a call stages. -/
def stagedBody : Request × Call → Option Bytes
  | (.putObject _ _ body _, .cache (.putStaging _)) => some body
  | _ => none

/-- The body whose object a call records. -/
def recordedBody : Request × Call → Option Bytes
  | (.putObject _ _ body _, .metadata (.apply (.putObject _))) => some body
  | _ => none

variable (calls : List (Request × Call))

/-- The body staged last in a sequence of calls. -/
def lastStaged : Option Bytes := (calls.filterMap stagedBody).getLast?

/-- The body recorded last in a sequence of calls. -/
def lastRecorded : Option Bytes := (calls.filterMap recordedBody).getLast?

variable [Sha256]

/-- What is staged for an object has the size and the digest recorded for it. -/
def UploadsAgree (w : World) (bucket key : String) : Prop :=
  ∃ xattrs data obj, w.cache.view .staging ⟨bucket, key, none⟩ = some (xattrs, data) ∧
    w.metadata.objects.get ⟨bucket, key, none⟩ = some obj ∧
      data.length = obj.size ∧ sha256Hex data = obj.checksum

/-- An upload that cannot succeed any more. -/
def Doomed (program : Sched Outcome) : Prop :=
  ∃ status, program = .done (.put (.error status)) ∨
    ∃ c, program = .call c fun _ => .done (.put (.error status))

/-- Some thread cannot succeed any more. -/
def SomeDoomed (system : System) : Prop :=
  ∃ (spot : Nat) (thread : Thread Call Reply Request Outcome),
    system.threads[spot]? = some thread ∧ Doomed thread.program

/-- A phase that follows a call to a service leaves that call behind. -/
def Passed : UploadPhase → Prop
  | .fresh => True
  | .ended _ => lastStaged calls ≠ none ∧ lastRecorded calls ≠ none
  | _ => lastStaged calls ≠ none

/-- Both services hold what reached them last. -/
structure Tracked (bucket key : String) (system : System) (calls : List (Request × Call)) :
    Prop where
  sound : system.world.cache.Sound
  uploads : ∀ thread ∈ system.threads, ∃ (upload : Upload) (phase : UploadPhase),
    upload.bucket = bucket ∧ upload.key = key ∧ thread.request = upload.request ∧
      thread.program = upload.program phase ∧ Passed calls phase
  staged : ∀ body, lastStaged calls = some body →
    ∃ xattrs, system.world.cache.view .staging ⟨bucket, key, none⟩ = some (xattrs, body)
  recorded : ∀ body, lastRecorded calls = some body →
    ∃ obj, system.world.metadata.objects.get ⟨bucket, key, none⟩ = some obj ∧
      obj.size = body.length ∧ obj.checksum = sha256Hex body

omit [Sha256] in
theorem lastStaged_append (call : Request × Call) :
    lastStaged (calls ++ [call]) = (stagedBody call).or (lastStaged calls) := by
  cases staged : stagedBody call <;> simp [lastStaged, staged]

omit [Sha256] in
theorem lastRecorded_append (call : Request × Call) :
    lastRecorded (calls ++ [call]) = (recordedBody call).or (lastRecorded calls) := by
  cases recorded : recordedBody call <;> simp [lastRecorded, recorded]

variable {calls : List (Request × Call)}

omit [Sha256] in
/-- What has been left behind stays behind. -/
theorem Passed.append {phase : UploadPhase} (passed : Passed calls phase) (call : Request × Call) :
    Passed (calls ++ [call]) phase := by
  -- A later call can replace what was staged or recorded last, but not undo that something was.
  have staged : lastStaged calls ≠ none → lastStaged (calls ++ [call]) ≠ none := by
    rw [lastStaged_append]
    cases stagedBody call <;> simp
  have recorded : lastRecorded calls ≠ none → lastRecorded (calls ++ [call]) ≠ none := by
    rw [lastRecorded_append]
    cases recordedBody call <;> simp
  cases phase with
  | fresh => trivial
  | ended answer => exact ⟨staged passed.1, recorded passed.2⟩
  | staged | recording _ | retracting _ => exact staged passed

variable (svc : CacheService) (env : Nat → Moment)

variable {system : System}

/-- A doomed upload stays doomed, whatever else happens. -/
theorem SomeDoomed.next (doomed : SomeDoomed system) (event : Event Request) :
    SomeDoomed (system.next (machine svc env) start event) := by
  obtain ⟨spot, thread, found, dooms⟩ := doomed
  cases event with
  | spawn req =>
    refine ⟨spot, thread, ?_, dooms⟩
    have inside := (List.getElem?_eq_some_iff.mp found).1
    simp only [Config.next, List.getElem?_append_left inside, found]
  | step moved =>
    rcases system.advance_cases (machine svc env) moved with
      ⟨req, c, next, moving, _, _, advanced⟩ | ⟨_, still⟩
    · simp only [Config.next, advanced]
      by_cases same : moved = spot
      · -- The doomed upload itself moves, to its end.
        subst same
        rw [moving, Option.some.injEq] at found
        subst found
        obtain ⟨status, ended | ⟨last, calling⟩⟩ := dooms
        · cases ended
        · cases calling
          have inside := (List.getElem?_eq_some_iff.mp moving).1
          exact ⟨moved, _, List.getElem?_set_self inside, status, Or.inl rfl⟩
      · exact ⟨spot, thread, by rw [List.getElem?_set_ne same, found], dooms⟩
    · simp only [Config.next, still]
      exact ⟨spot, thread, found, dooms⟩

variable {threads : List (Thread Call Reply Request Outcome)}

omit [Sha256] in
/-- A thread that moves into a doomed program dooms the system. -/
private theorem doomed_set {spot : Nat} {old moved : Thread Call Reply Request Outcome}
    {w : World} (found : threads[spot]? = some old) (dooms : Doomed moved.program) :
    SomeDoomed ⟨w, threads.set spot moved⟩ :=
  ⟨spot, moved, List.getElem?_set_self (List.getElem?_eq_some_iff.mp found).1, dooms⟩

variable {bucket key : String}

section

variable (tracked : Tracked bucket key system calls)

include tracked

/-- A call that stages nothing and leaves the cache alone leaves the last staged body there. -/
private theorem Tracked.staged_kept {call : Request × Call} (quiet : stagedBody call = none)
    {cache : CacheState HddBackend} (same : cache = system.world.cache) (body : Bytes)
    (last : lastStaged (calls ++ [call]) = some body) :
    ∃ entry, cache.view .staging ⟨bucket, key, none⟩ = some (entry, body) := by
  rw [lastStaged_append, quiet, Option.none_or] at last
  rw [same]
  exact tracked.staged body last

/-- A call that records nothing and leaves the catalogue alone leaves the last record there. -/
private theorem Tracked.recorded_kept {call : Request × Call} (quiet : recordedBody call = none)
    {metadata : MetadataState} (same : metadata = system.world.metadata) (body : Bytes)
    (last : lastRecorded (calls ++ [call]) = some body) :
    ∃ obj, metadata.objects.get ⟨bucket, key, none⟩ = some obj ∧
      obj.size = body.length ∧ obj.checksum = sha256Hex body := by
  rw [lastRecorded_append, quiet, Option.none_or] at last
  rw [same]
  exact tracked.recorded body last

/-- One more call keeps the services tracked, or dooms the upload it was made for. -/
theorem Tracked.advance {spot : Nat} {req : Request} {c : Call} {next : Reply c → Sched Outcome}
    (moving : system.threads[spot]? = some ⟨req, .call c next⟩) :
    let served := (machine svc env).serve c system.world
    let moved : System := ⟨served.2, system.threads.set spot ⟨req, next served.1⟩⟩
    SomeDoomed moved ∨ Tracked bucket key moved (calls ++ [(req, c)]) := by
  obtain ⟨upload, phase, rfl, rfl, requested, calling, passed⟩ :=
    tracked.uploads _ (List.mem_of_getElem? moving)
  obtain ⟨after, continues, step⟩ :=
    upload.step svc env system.world tracked.sound calling.symm
  simp only at requested
  subst requested
  simp only [continues]
  -- The threads that did not move have left behind what they had, and the moved one a bit more.
  have others : ∀ phase', Passed (calls ++ [(upload.request, c)]) phase' →
      ∀ thread ∈ system.threads.set spot ⟨upload.request, upload.program phase'⟩,
        ∃ (other : Upload) (phase : UploadPhase), other.bucket = upload.bucket ∧
          other.key = upload.key ∧ thread.request = other.request ∧
            thread.program = other.program phase ∧ Passed (calls ++ [(upload.request, c)]) phase := by
    intro phase' now thread mem
    rcases List.mem_or_eq_of_mem_set mem with old | rfl
    · obtain ⟨other, was, sameBucket, sameKey, asked, left, before⟩ := tracked.uploads _ old
      exact ⟨other, was, sameBucket, sameKey, asked, left, before.append _⟩
    · exact ⟨upload, phase', rfl, rfl, rfl, rfl, now⟩
  cases step with
  | refuse quiet | retract quiet => exact Or.inl (doomed_set moving ⟨_, Or.inl rfl⟩)
  | reject quiet => exact Or.inl (doomed_set moving ⟨_, Or.inr ⟨_, rfl⟩⟩)
  | stage made cache metadata =>
    rw [upload.program_fresh] at calling
    cases calling
    refine Or.inr ⟨?_, others _ ?_, ?_, ?_⟩
    · rw [cache]
      exact stored_sound _ _ _ made.sound
    · simp [Passed, lastStaged_append, stagedBody, Upload.request]
    · intro body last
      simp only [lastStaged_append, stagedBody, Upload.request, Option.some_or,
        Option.some.injEq] at last
      subst last
      rw [cache]
      exact ⟨_, (stored_stored _ _ _ made.sound).view_self⟩
    · exact tracked.recorded_kept rfl metadata
  | clock cache metadata =>
    rw [upload.program_staged] at calling
    cases calling
    exact Or.inr ⟨by rw [cache]; exact tracked.sound, others _ (passed.append _),
      tracked.staged_kept rfl cache, tracked.recorded_kept rfl metadata⟩
  | record cache metadata =>
    cases calling
    obtain ⟨obj, recorded, stored⟩ := metadata.objects
    refine Or.inr ⟨by rw [cache]; exact tracked.sound, others _ ⟨passed.append _, ?_⟩,
      tracked.staged_kept rfl cache, ?_⟩
    · simp [lastRecorded_append, recordedBody, Upload.request]
    · intro body last
      simp only [lastRecorded_append, recordedBody, Upload.request, Option.some_or,
        Option.some.injEq] at last
      subst last
      exact ⟨obj, by rw [stored]; exact HashMap.get_insert_self _ _ _, recorded.size,
        recorded.checksum⟩

/-- Every event keeps the services tracked, or dooms an upload. -/
theorem Tracked.next (event : Event Request)
    (admitted : ∀ req, event = .spawn req →
      ∃ body contentType, req = .putObject bucket key body contentType) :
    SomeDoomed (system.next (machine svc env) start event) ∨
      Tracked bucket key (system.next (machine svc env) start event)
        (calls ++ (system.servedAt (machine svc env) event).toList) := by
  -- A new upload has left nothing behind yet, and a step is one more call or none.
  cases event with
  | spawn req =>
    obtain ⟨body, contentType, rfl⟩ := admitted _ rfl
    simp only [Config.next, Config.servedAt, Option.toList_none, List.append_nil]
    refine Or.inr ⟨tracked.sound, ?_, tracked.staged, tracked.recorded⟩
    intro thread mem
    rcases List.mem_append.mp mem with old | fresh
    · exact tracked.uploads thread old
    · rw [List.mem_singleton] at fresh
      subst fresh
      exact ⟨⟨bucket, key, body, contentType⟩, .fresh, rfl, rfl, rfl, rfl, trivial⟩
  | step spot =>
    rcases system.advance_cases (machine svc env) spot with
      ⟨req, c, next, moving, served, _, advanced⟩ | ⟨served, still⟩
    · simp only [Config.next, advanced, served, Option.toList_some]
      exact tracked.advance svc env moving
    · simp only [Config.next, still, served, Option.toList_none, List.append_nil]
      exact Or.inr tracked

end

/-- After any run of uploads to one object the services are tracked, unless an upload failed. -/
theorem tracked_after (w : World) (sound : w.cache.Sound) (bucket key : String)
    (events : List (Event Request)) (uploads : ∀ req, .spawn req ∈ events →
      ∃ body contentType, req = .putObject bucket key body contentType) :
    SomeDoomed (Config.after (machine svc env) start ⟨w, []⟩ events) ∨
      Tracked bucket key (Config.after (machine svc env) start ⟨w, []⟩ events)
        (Config.served (machine svc env) start ⟨w, []⟩ events) := by
  have first : Tracked bucket key ⟨w, []⟩ [] :=
    ⟨sound, by simp, by simp [lastStaged], by simp [lastRecorded]⟩
  -- Doom is for ever, and as long as there is none the services are tracked.
  have run := Config.served_preserves (machine svc env) start
    (fun req => ∃ body contentType, req = .putObject bucket key body contentType)
    (fun system calls => SomeDoomed system ∨ Tracked bucket key system calls) ?_ events
    ⟨w, []⟩ [] (Or.inr first) uploads
  · simpa using run
  · intro system calls event kept admitted
    rcases kept with doomed | tracked
    · exact Or.inl (doomed.next svc env event)
    · exact tracked.next svc env event admitted

/--
Overlapping uploads of one object agree in the end exactly when the body that was staged last and
the body that was recorded last have the same size and digest.
-/
theorem concurrent_uploads_agree_iff (w : World) (sound : w.cache.Sound)
    (bucket key : String) (events : List (Event Request))
    (uploads : ∀ req, .spawn req ∈ events →
      ∃ body contentType, req = .putObject bucket key body contentType)
    (started : (Config.after (machine svc env) start ⟨w, []⟩ events).threads ≠ [])
    (succeeded : ∀ thread ∈
      (Config.after (machine svc env) start ⟨w, []⟩ events).threads,
        ∃ answer, thread.program = .done (.put (.ok answer))) : ∃ staged recorded,
      lastStaged (Config.served (machine svc env) start ⟨w, []⟩ events) = some staged ∧
      lastRecorded (Config.served (machine svc env) start ⟨w, []⟩ events) = some recorded ∧
      (UploadsAgree (Config.after (machine svc env) start ⟨w, []⟩ events).world
        bucket key ↔ staged.length = recorded.length ∧ sha256Hex staged = sha256Hex recorded) := by
  rcases tracked_after svc env w sound bucket key events uploads with
    ⟨spot, thread, found, status, ended | ⟨c, calling⟩⟩ | tracked
  · -- A doomed upload is none that succeeded.
    obtain ⟨answer, success⟩ := succeeded thread (List.mem_of_getElem? found)
    rw [ended] at success
    cases success
  · obtain ⟨answer, success⟩ := succeeded thread (List.mem_of_getElem? found)
    rw [calling] at success
    cases success
  · obtain ⟨thread, mem⟩ := List.exists_mem_of_ne_nil _ started
    obtain ⟨answer, success⟩ := succeeded thread mem
    obtain ⟨upload, phase, _, _, _, program, passed⟩ := tracked.uploads thread mem
    rw [success] at program
    -- A finished upload has been to both services.
    have both : lastStaged (Config.served (machine svc env) start ⟨w, []⟩ events)
        ≠ none ∧ lastRecorded (Config.served (machine svc env) start ⟨w, []⟩ events) ≠ none := by
      cases phase with
      | ended answer => exact passed
      | fresh => rw [upload.program_fresh] at program; cases program
      | staged => rw [upload.program_staged] at program; cases program
      | recording now => cases program
      | retracting status => cases program
    obtain ⟨staged, lastly⟩ := Option.ne_none_iff_exists'.mp both.1
    obtain ⟨recorded, finally_⟩ := Option.ne_none_iff_exists'.mp both.2
    obtain ⟨xattrs, served⟩ := tracked.staged staged lastly
    obtain ⟨obj, stored, size, checksum⟩ := tracked.recorded recorded finally_
    refine ⟨staged, recorded, lastly, finally_, ?_⟩
    constructor
    · rintro ⟨xattrs', data, obj', served', stored', sameSize, sameDigest⟩
      rw [served, Option.some.injEq, Prod.mk.injEq] at served'
      rw [stored, Option.some.injEq] at stored'
      obtain ⟨_, rfl⟩ := served'
      subst stored'
      exact ⟨sameSize.trans size, sameDigest.trans checksum⟩
    · rintro ⟨sameSize, sameDigest⟩
      exact ⟨xattrs, staged, obj, served, stored, sameSize.trans size.symm,
        sameDigest.trans checksum.symm⟩

omit [Sha256]

/-- Uploads of two bodies to one object, staged one after the other and then recorded as told. -/
def twoUploads (recorded : List Nat) : List (Event Request) :=
  [.spawn (.putObject "docs" "a" [97] none), .spawn (.putObject "docs" "a" [98, 98] none),
    .step 0, .step 1] ++ recorded.flatMap fun spot => [.step spot, .step spot]

/-- A fresh deployment after two uploads. -/
def twoUploaded (recorded : List Nat) : System :=
  letI := shortDigests
  Config.after quietMachine start ⟨.fresh ["docs"] (2 ^ 30) (.new 1 1), []⟩ (twoUploads recorded)

/-- Whether a thread has uploaded its object. -/
def uploaded (thread : Thread Call Reply Request Outcome) : Bool :=
  match thread.program with
  | .done (.put (.ok _)) => true
  | _ => false

theorem uploaded_all (all : threads.all uploaded = true) :
    ∀ thread ∈ threads, ∃ answer, thread.program = .done (.put (.ok answer)) := by
  intro thread mem
  have finished := List.all_eq_true.mp all thread mem
  simp only [uploaded] at finished
  split at finished
  · exact ⟨_, ‹_›⟩
  · simp at finished

/-- Two uploads that are recorded in the order they were staged in agree. -/
theorem concurrent_uploads_agree_inOrder :
    letI := shortDigests
    UploadsAgree (twoUploaded [0, 1]).world "docs" "a" := by
  let := shortDigests
  have only : ∀ req, .spawn req ∈ twoUploads [0, 1] →
      ∃ body contentType, req = .putObject "docs" "a" body contentType := by
    intro req mem
    simp only [twoUploads, List.flatMap_cons, List.flatMap_nil, List.append_nil, List.cons_append,
      List.nil_append, List.mem_cons, Event.spawn.injEq, reduceCtorEq, List.not_mem_nil,
      or_false] at mem
    rcases mem with rfl | rfl <;> exact ⟨_, _, rfl⟩
  have all : (twoUploaded [0, 1]).threads.all uploaded = true := by decide +kernel
  obtain ⟨staged, recorded, lastly, finally_, agree⟩ := concurrent_uploads_agree_iff
    (.even (2 ^ 30)) (still 0) (.fresh ["docs"] (2 ^ 30) (.new 1 1))
    (CacheState.sound_empty _ _) "docs" "a" (twoUploads [0, 1]) only (by
      intro none
      have two : (twoUploaded [0, 1]).threads.length = 2 := by decide +kernel
      rw [twoUploaded, none] at two
      simp at two) (uploaded_all all)
  have same : lastStaged (Config.served quietMachine start
      ⟨.fresh ["docs"] (2 ^ 30) (.new 1 1), []⟩ (twoUploads [0, 1])) =
        lastRecorded (Config.served quietMachine start
          ⟨.fresh ["docs"] (2 ^ 30) (.new 1 1), []⟩ (twoUploads [0, 1])) := by decide +kernel
  rw [lastly, finally_, Option.some.injEq] at same
  exact agree.mpr ⟨by rw [same], by rw [same]⟩

/-- Two uploads that succeed and are recorded the other way round leave sizes that differ. -/
theorem concurrent_uploads_disagree :
    (∀ thread ∈ (twoUploaded [1, 0]).threads,
      ∃ answer, thread.program = .done (.put (.ok answer))) ∧
    ¬ @UploadsAgree shortDigests (twoUploaded [1, 0]).world "docs" "a" := by
  refine ⟨uploaded_all (by decide +kernel), ?_⟩
  rintro ⟨xattrs, data, obj, served, stored, size, _⟩
  have staged : ((twoUploaded [1, 0]).world.cache.view .staging ⟨"docs", "a", none⟩).map
      (fun served => served.2.length) = some 2 := by decide +kernel
  have recorded : ((twoUploaded [1, 0]).world.metadata.objects.get ⟨"docs", "a", none⟩).map
      ObjectMetadata.size = some 1 := by decide +kernel
  rw [served, Option.map_some, Option.some.injEq] at staged
  rw [stored, Option.map_some, Option.some.injEq] at recorded
  simp only at staged
  omega

end ColdStore.Scheduler
