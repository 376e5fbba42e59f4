import ColdStore.Metadata.Effects
import ColdStore.Scheduler.ArchiveCalls
import ColdStore.Scheduler.Claims
import ColdStore.Scheduler.Uploads

/-! Uploads beside archive workers: when an object that waits to be archived still has its data. -/

namespace ColdStore.Scheduler

open Rust Process CacheState

/-- A request uploads to an object. -/
def Request.UploadsTo (bucket key : String) : Request → Prop
  | .putObject bucket' key' _ _ => bucket' = bucket ∧ key' = key
  | _ => False

/-- A request is a pass of an archive worker. -/
def Request.Archives : Request → Prop
  | .archiveStagingBatch _ _ _ => True
  | _ => False

/-- A thread has come to its end. -/
def Finished (thread : Thread Call Reply Request Outcome) : Prop :=
  ∃ outcome, thread.program = .done outcome

/-- The calls of an upload between staging its body and recording it. -/
def RecordCall : Call → Prop
  | .here .now => True
  | .metadata (.apply (.putObject _)) => True
  | _ => False

/-- What is left of a program begins with a call that is between staging and recording. -/
def AwaitsRecord (program : Sched Outcome) : Prop := ∃ c next, program = .call c next ∧ RecordCall c

theorem awaitsRecord_call {c : Call} {next : Reply c → Sched Outcome} :
    AwaitsRecord (.call c next) ↔ RecordCall c := by
  refine ⟨?_, fun record => ⟨c, next, rfl, record⟩⟩
  rintro ⟨_, _, calling, record⟩
  cases calling
  exact record

variable (system : System)

/-- No upload is in flight. -/
def NoneInFlight : Prop :=
  ∀ thread ∈ system.threads, ∀ bucket key, thread.request.UploadsTo bucket key → Finished thread

/-- Archive workers may start at any time, uploads of one object only one after the other. -/
def MayStart : Request → Prop
  | .archiveStagingBatch _ _ _ => True
  | .putObject bucket key _ _ =>
    ∀ thread ∈ system.threads, thread.request.UploadsTo bucket key → Finished thread
  | _ => False

/-- Only uploads and archive workers are started, and uploads of one object do not overlap. -/
def Admissible (event : Event Request) : Prop := ∀ req, event = .spawn req → MayStart system req

/--
What is about to be taken out of staging does not wait to be archived, and no upload of it is
between staging and recording.
-/
def DeletesSafely (program : Sched Outcome) : Prop :=
  match program with
  | .call (.cache (.deleteStaging key)) _ =>
    (∀ obj ∈ system.world.metadata.objects.get ⟨key.bucket, key.key, none⟩,
      obj.storageClass ≠ StorageClass.coldPending.number) ∧
    ∀ other ∈ system.threads, other.request.UploadsTo key.bucket key.key →
      ¬ AwaitsRecord other.program
  | _ => True

/-- A worker takes an object out of staging only when nothing depends on what is staged. -/
def CleansSafely (event : Event Request) : Prop :=
  ∀ spot thread, event = .step spot → system.threads[spot]? = some thread →
    thread.request.Archives → DeletesSafely system thread.program

/-- Objects have no versions, are stored where they belong, and belong to buckets that exist. -/
def Catalogued (metadata : MetadataState) : Prop :=
  ∀ place obj, metadata.objects.get place = some obj →
    place.versionId = none ∧ obj.objectKey = place ∧
      metadata.buckets.containsKey place.bucket = true

/-- An object is stored under its bucket and key. -/
theorem Catalogued.place {metadata : MetadataState} (catalogued : Catalogued metadata)
    {place : ObjectKey} {obj : ObjectMetadata} (stored : metadata.objects.get place = some obj) :
    place = ⟨obj.bucket, obj.key, none⟩ := by
  obtain ⟨plain, home, _⟩ := catalogued place obj stored
  subst home
  rw [← plain]
  rfl

variable [Sha256]

/-- The staged bytes of an object have the size and the digest recorded for it. -/
def Staged (w : World) (obj : ObjectMetadata) : Prop :=
  ∃ xattrs data, w.cache.view .staging ⟨obj.bucket, obj.key, obj.versionId⟩ =
    some (xattrs, data) ∧ data.length = obj.size ∧ sha256Hex data = obj.checksum

/-- An object stays staged as long as what is staged under its key does. -/
theorem Staged.of_view {before after : World} {obj : ObjectMetadata}
    (view : after.cache.view .staging ⟨obj.bucket, obj.key, obj.versionId⟩ =
      before.cache.view .staging ⟨obj.bucket, obj.key, obj.versionId⟩)
    (staged : Staged before obj) : Staged after obj := by
  rwa [Staged, view]

/-- Every object that waits to be archived has its data in staging. -/
def Durable (w : World) : Prop :=
  ∀ place obj, w.metadata.objects.get place = some obj →
    obj.storageClass = StorageClass.coldPending.number → Staged w obj

/-- What is left of a thread: an upload in one of its phases, or a worker that keeps to its calls. -/
def Proceeds (thread : Thread Call Reply Request Outcome) : Prop :=
  (∃ (upload : Upload) (phase : UploadPhase), thread.request = upload.request ∧
    thread.program = upload.program phase) ∨
  thread.request.Archives ∧ thread.program.Only WorkerCall

/-- A thread uploads to an object and is about to record what it has staged. -/
def Records (thread : Thread Call Reply Request Outcome) (bucket key : String) : Prop :=
  thread.request.UploadsTo bucket key ∧ AwaitsRecord thread.program

/-- The body of an upload is in staging. -/
def Upload.Held (upload : Upload) (w : World) : Prop :=
  ∃ xattrs, w.cache.view .staging upload.cacheKey = some (xattrs, upload.body)

/-- What holds between any two calls. -/
structure Guarded (system : System) : Prop where
  sound : system.world.cache.Sound
  catalogued : Catalogued system.world.metadata
  proceeds : ∀ (spot : Nat) thread, system.threads[spot]? = some thread → Proceeds thread
  /-- Of two uploads of one object at most one is unfinished. -/
  exclusive : ∀ (first second : Nat) left right bucket key, first ≠ second →
    system.threads[first]? = some left → system.threads[second]? = some right →
      left.request.UploadsTo bucket key → right.request.UploadsTo bucket key →
        Finished left ∨ Finished right
  /-- The data of a waiting object is staged, unless an upload is about to replace the object. -/
  covered : ∀ place obj, system.world.metadata.objects.get place = some obj →
    obj.storageClass = StorageClass.coldPending.number → Staged system.world obj ∨
      ∃ (spot : Nat) (thread : _), system.threads[spot]? = some thread ∧
        Records thread obj.bucket obj.key
  /-- An upload that is about to record its body has it in staging. -/
  held : ∀ (spot : Nat) (upload : Upload) program,
    system.threads[spot]? = some ⟨upload.request, program⟩ → AwaitsRecord program →
      upload.Held system.world
  /-- An upload is retracted only where it has no bucket. -/
  homeless : ∀ (spot : Nat) (upload : Upload) status,
    system.threads[spot]? = some ⟨upload.request, upload.program (.retracting status)⟩ →
      system.world.metadata.buckets.containsKey upload.bucket = false

omit [Sha256] in
/-- A position in a list with one element replaced holds the new element or an old one. -/
theorem getElem?_set_cases {α : Type} {items : List α} {spot other : Nat} {item found : α}
    (mem : (items.set spot item)[other]? = some found) :
    other = spot ∧ found = item ∨ other ≠ spot ∧ items[other]? = some found := by
  rw [List.getElem?_set] at mem
  split at mem
  · rename_i same
    split at mem
    · exact Or.inl ⟨same.symm, (Option.some.inj mem).symm⟩
    · simp at mem
  · rename_i ne
    exact Or.inr ⟨Ne.symm ne, mem⟩

omit [Sha256] in
/-- A position in a list with one more element holds an old element or the new one. -/
theorem getElem?_concat_cases {α : Type} {items : List α} {spot : Nat} {item found : α}
    (mem : (items ++ [item])[spot]? = some found) :
    items[spot]? = some found ∨ spot = items.length ∧ found = item := by
  rw [List.getElem?_append] at mem
  split at mem
  · exact Or.inl mem
  · rename_i beyond
    obtain ⟨inside, same⟩ := List.getElem?_eq_some_iff.mp mem
    simp only [List.length_singleton] at inside
    simp only [List.getElem_singleton] at same
    exact Or.inr ⟨by omega, same.symm⟩

/-- What must be shown about one call for the guard to be kept: the rest is about other threads. -/
structure Kept (system : System) (spot : Nat) (req : Request) (program : Sched Outcome)
    (w : World) : Prop where
  sound : w.cache.Sound
  catalogued : Catalogued w.metadata
  proceeds : Proceeds ⟨req, program⟩
  covered : ∀ place obj, w.metadata.objects.get place = some obj →
    obj.storageClass = StorageClass.coldPending.number → Staged w obj ∨
      Records ⟨req, program⟩ obj.bucket obj.key ∨
      ∃ (other : Nat) (thread : _), other ≠ spot ∧ system.threads[other]? = some thread ∧
        Records thread obj.bucket obj.key
  held : ∀ upload : Upload, req = upload.request → AwaitsRecord program → upload.Held w
  heldElsewhere : ∀ (other : Nat) (upload : Upload) rest, other ≠ spot →
    system.threads[other]? = some ⟨upload.request, rest⟩ → AwaitsRecord rest → upload.Held w
  homeless : ∀ (upload : Upload) status, req = upload.request →
    program = upload.program (.retracting status) →
      w.metadata.buckets.containsKey upload.bucket = false
  buckets : ∀ name, w.metadata.buckets.containsKey name =
    system.world.metadata.buckets.containsKey name

variable {system} {spot : Nat} {req : Request} {upload : Upload} {c : Call}
  {next : Reply c → Sched Outcome} {w : World} {obj : ObjectMetadata} {phase after : UploadPhase}

/-- Serving a call keeps the guard when it keeps what the call is responsible for. -/
theorem Guarded.move (guarded : Guarded system) {program : Sched Outcome}
    (moving : system.threads[spot]? = some ⟨req, .call c next⟩)
    (kept : Kept system spot req program w) :
    Guarded ⟨w, system.threads.set spot ⟨req, program⟩⟩ where
  sound := kept.sound
  catalogued := kept.catalogued
  proceeds other thread found := by
    rcases getElem?_set_cases found with ⟨_, rfl⟩ | ⟨_, old⟩
    · exact kept.proceeds
    · exact guarded.proceeds other thread old
  exclusive first second left right bucket key ne foundLeft foundRight uploads uploads' := by
    -- The thread that moved was not finished, so the other one is.
    have unfinished : ¬ Finished ⟨req, .call c next⟩ := by
      rintro ⟨outcome, done⟩
      cases done
    rcases getElem?_set_cases foundLeft with ⟨rfl, rfl⟩ | ⟨_, oldLeft⟩
    · rcases getElem?_set_cases foundRight with ⟨rfl, rfl⟩ | ⟨_, oldRight⟩
      · exact absurd rfl ne
      · rcases guarded.exclusive _ _ _ _ bucket key ne moving oldRight uploads uploads' with
          ended | ended
        · exact absurd ended unfinished
        · exact Or.inr ended
    · rcases getElem?_set_cases foundRight with ⟨rfl, rfl⟩ | ⟨_, oldRight⟩
      · rcases guarded.exclusive _ _ _ _ bucket key ne oldLeft moving uploads uploads' with
          ended | ended
        · exact Or.inl ended
        · exact absurd ended unfinished
      · exact guarded.exclusive _ _ _ _ bucket key ne oldLeft oldRight uploads uploads'
  covered place obj stored waits := by
    rcases kept.covered place obj stored waits with
      staged | records | ⟨other, thread, ne, found, records⟩
    · exact Or.inl staged
    · have inside := (List.getElem?_eq_some_iff.mp moving).1
      exact Or.inr ⟨spot, _, List.getElem?_set_self inside, records⟩
    · exact Or.inr ⟨other, thread, by rw [List.getElem?_set_ne (Ne.symm ne), found], records⟩
  held other upload rest found awaits := by
    rcases getElem?_set_cases found with ⟨_, same⟩ | ⟨ne, old⟩
    · cases same
      exact kept.held upload rfl awaits
    · exact kept.heldElsewhere other upload rest ne old awaits
  homeless other upload status found := by
    rcases getElem?_set_cases found with ⟨_, same⟩ | ⟨ne, old⟩
    · cases same
      exact kept.homeless upload status rfl rfl
    · rw [kept.buckets]
      exact guarded.homeless other upload status old

variable (svc : CacheService) (env : Nat → Moment)

omit [Sha256] in
/-- A call of a worker takes an object out of staging, or leaves the cache alone. -/
theorem workerCall_cache (sound : w.cache.Sound)
    (calm : (env w.tick).fault = none) (allowed : WorkerCall c) :
    (∃ key, c = .cache (.deleteStaging key) ∧
      ((machine svc env).serve c w).2.cache = (w.cache.deleteEntry key .staging).2) ∨
    ((machine svc env).serve c w).2.cache = w.cache := by
  cases c with
  | metadata _ | tape _ | here _ => exact Or.inr rfl
  | cache call =>
    simp only [machine, serve, delivered, calm]
    -- Workers delete from staging, and do nothing else to the cache.
    cases call with
    | deleteStaging key => exact Or.inl ⟨key, rfl, by rw [CacheCall.serve, deleteStaging_eq sound]⟩
    | listStagingKeys limit after => exact Or.inr rfl
    | getStaging key => exact Or.inr rfl
    | putStaging messages => exact allowed.elim
    | putRestored messages => exact allowed.elim
    | get key => exact allowed.elim
    | delete key => exact allowed.elim

omit [Sha256] in
/-- A call of a worker archives an object, or leaves all objects alone. -/
theorem workerCall_metadata (w : World) (allowed : WorkerCall c) :
    Reclassified StorageClass.cold.number w.metadata ((machine svc env).serve c w).2.metadata := by
  rcases serve_metadata svc (env w.tick) c w with same | ⟨cmd, rfl, after⟩
  · rw [machine, same]
    exact .refl _ _
  · rw [machine, after]
    have framed := applyCommand_framed (env w.tick).seconds w.metadata cmd
    -- Only the completion of an archiving touches objects, and it makes them cold.
    cases cmd with
    | putArchiveTask _ | updateArchiveTask _ => exact ⟨framed.buckets rfl, .inl (framed.objects rfl)⟩
    | completeArchiveObject req =>
      rw [← show req.storageClass = StorageClass.cold.number from allowed]
      exact completeArchiveObject_reclassified _ req _
    | _ => exact allowed.elim

omit [Sha256] in
/-- Objects that change their storage class stay catalogued. -/
theorem Catalogued.reclassified {before after : MetadataState} {storageClass : Int}
    (catalogued : Catalogued before) (reclassified : Reclassified storageClass before after) :
    Catalogued after := by
  intro place obj stored
  rw [reclassified.buckets]
  rcases reclassified.cases stored with same | ⟨old, was, same, _⟩
  · exact catalogued place obj same
  · obtain ⟨plain, home, bucket⟩ := catalogued place old was
    exact ⟨plain, same.trans home, bucket⟩

omit [Sha256] in
/-- An upload is no worker. -/
private theorem not_archives (archives : req.Archives) (bucket key : String) :
    ¬ req.UploadsTo bucket key := by
  cases req <;> simp_all [Request.Archives, Request.UploadsTo]

/-- What covers an object that a thread does not upload to is not the thread. -/
theorem Guarded.covered_apart (guarded : Guarded system) {program : Sched Outcome}
    (moving : system.threads[spot]? = some ⟨req, program⟩) {place : ObjectKey}
    (stored : system.world.metadata.objects.get place = some obj)
    (waits : obj.storageClass = StorageClass.coldPending.number)
    (apart : ¬ req.UploadsTo obj.bucket obj.key) :
    Staged system.world obj ∨
      ∃ (other : Nat) (thread : _), other ≠ spot ∧ system.threads[other]? = some thread ∧
        Records thread obj.bucket obj.key := by
  rcases guarded.covered place obj stored waits with staged | ⟨other, thread, found, records⟩
  · exact Or.inl staged
  -- The covering upload is at the place of the object, and the moving thread is not.
  · refine Or.inr ⟨other, thread, ?_, found, records⟩
    rintro rfl
    rw [moving, Option.some.injEq] at found
    rw [← found] at records
    exact apart records.1

/-- A call of a worker that cleans safely keeps what it is responsible for. -/
theorem Guarded.worker (guarded : Guarded system) (calm : (env system.world.tick).fault = none)
    (moving : system.threads[spot]? = some ⟨req, .call c next⟩) (archives : req.Archives)
    (only : (Program.call c next).Only WorkerCall) (safe : CleansSafely system (.step spot)) :
    Kept system spot req (next ((machine svc env).serve c system.world).1)
      ((machine svc env).serve c system.world).2 := by
  have reclassified := workerCall_metadata svc env system.world only.1
  have asked : ∀ upload : Upload, req ≠ upload.request := by
    rintro upload rfl
    exact archives
  -- What others rely on is still in staging.
  have views : ∀ place : CacheKey,
      ((∃ obj, system.world.metadata.objects.get ⟨place.bucket, place.key, none⟩ = some obj ∧
        obj.storageClass = StorageClass.coldPending.number) ∨
      ∃ other ∈ system.threads, Records other place.bucket place.key) →
      ((machine svc env).serve c system.world).2.cache.view .staging place =
        system.world.cache.view .staging place := by
    intro place needed
    rcases workerCall_cache svc env guarded.sound calm only.1 with
      ⟨key, rfl, deleted⟩ | same
    · have ne : place ≠ key := by
        rintro rfl
        obtain ⟨waiting, recording⟩ := safe spot _ rfl moving archives
        rcases needed with ⟨obj, stored, waits⟩ | ⟨other, mem, uploads, awaits⟩
        · exact waiting obj stored waits
        · exact recording other mem uploads awaits
      rw [deleted, deleteEntry_view guarded.sound]
      simp [ne]
    · rw [same]
  have sound : ((machine svc env).serve c system.world).2.cache.Sound := by
    rcases workerCall_cache svc env guarded.sound calm only.1 with
      ⟨key, _, deleted⟩ | same
    · rw [deleted]
      exact deleteEntry_sound guarded.sound key .staging
    · rw [same]
      exact guarded.sound
  refine ⟨sound, guarded.catalogued.reclassified reclassified, Or.inr ⟨archives, only.2 _⟩, ?_,
    fun upload same => absurd same (asked upload), ?_, fun upload _ same => absurd same (asked upload),
    fun name => by rw [reclassified.buckets]⟩
  · intro place obj stored waits
    have was := (reclassified.cases stored).resolve_right fun ⟨_, _, _, changed⟩ =>
      absurd (waits.symm.trans changed) (by decide)
    refine (guarded.covered_apart moving was waits (not_archives archives _ _)).imp
      (Staged.of_view (views _ (Or.inl ⟨obj, ?_, waits⟩))) Or.inr
    rw [guarded.catalogued.place was] at was
    exact was
  · intro other upload rest _ found awaits
    obtain ⟨xattrs, served⟩ := guarded.held other upload rest found awaits
    refine ⟨xattrs, ?_⟩
    rw [views _ (Or.inr ⟨_, List.mem_of_getElem? found, ⟨rfl, rfl⟩, awaits⟩), served]

/-- An upload awaits its record exactly between staging and recording. -/
theorem awaitsRecord_iff (upload : Upload) (phase : UploadPhase) :
    AwaitsRecord (upload.program phase) ↔ phase.Between := by
  cases phase with
  | fresh =>
    rw [upload.program_fresh]
    exact awaitsRecord_call
  | staged =>
    rw [upload.program_staged]
    exact awaitsRecord_call
  | recording now => exact awaitsRecord_call
  | retracting status => exact awaitsRecord_call
  | ended answer =>
    refine ⟨?_, False.elim⟩
    rintro ⟨c, next, calling, _⟩
    cases calling

/-- What is left of an upload tells whether it is being retracted. -/
theorem retracting_of_program (upload : Upload) {phase : UploadPhase} {status : Status}
    (same : upload.program phase = upload.program (.retracting status)) :
    ∃ status, phase = .retracting status := by
  cases phase with
  | fresh => rw [upload.program_fresh] at same; cases same
  | staged => rw [upload.program_staged] at same; cases same
  | recording now => cases same
  | retracting status => exact ⟨status, rfl⟩
  | ended answer => cases same

omit [Sha256] in
theorem Upload.request_injective {first second : Upload} (same : first.request = second.request) :
    first = second := by
  cases first
  cases second
  simpa [Upload.request] using same

/-- While an upload goes on no other upload of the object awaits its record. -/
theorem Guarded.alone (guarded : Guarded system) {spot other : Nat}
    {thread : Thread Call Reply Request Outcome}
    (moving : system.threads[spot]? = some ⟨upload.request, .call c next⟩)
    (ne : other ≠ spot) (found : system.threads[other]? = some thread)
    (uploads : thread.request.UploadsTo upload.bucket upload.key) :
    ¬ AwaitsRecord thread.program := by
  rintro ⟨c', next', calling, _⟩
  rcases guarded.exclusive other spot _ _ _ _ ne found moving uploads ⟨rfl, rfl⟩ with
    ⟨outcome, ended⟩ | ⟨outcome, ended⟩
  · rw [calling] at ended
    cases ended
  · cases ended

/-- A call of an upload that changes no metadata keeps what it is responsible for. -/
theorem Guarded.quiet (guarded : Guarded system)
    (moving : system.threads[spot]? = some ⟨upload.request, .call c next⟩)
    (calling : upload.program phase = .call c next) (sound : w.cache.Sound)
    (metadata : w.metadata = system.world.metadata)
    (views : ∀ place, place ≠ upload.cacheKey →
      w.cache.view .staging place = system.world.cache.view .staging place)
    (between : after.Between → upload.Held w)
    (ended : ¬ after.Between → system.world.metadata.buckets.containsKey upload.bucket = false ∨
      ¬ phase.Between ∧ w.cache.view .staging upload.cacheKey =
        system.world.cache.view .staging upload.cacheKey)
    (homeless : ∀ status, after = .retracting status →
      system.world.metadata.buckets.containsKey upload.bucket = false) :
    Kept system spot upload.request (upload.program after) w := by
  refine ⟨sound, by rw [metadata]; exact guarded.catalogued, Or.inl ⟨upload, after, rfl, rfl⟩, ?_,
    ?_, ?_, ?_, fun name => by rw [metadata]⟩
  · intro place obj stored waits
    rw [metadata] at stored
    obtain ⟨plain, home, bucket⟩ := guarded.catalogued place obj stored
    have version : obj.versionId = none := by rw [← plain, ← home]; rfl
    by_cases same : obj.bucket = upload.bucket ∧ obj.key = upload.key
    · by_cases waiting : after.Between
      · exact Or.inr (Or.inl ⟨⟨same.1.symm, same.2.symm⟩, (awaitsRecord_iff _ _).mpr waiting⟩)
      rcases ended waiting with missing | ⟨before, view⟩
      · rw [← home] at bucket
        simp [ObjectMetadata.objectKey, same.1, missing] at bucket
      rcases guarded.covered place obj stored waits with
        staged | ⟨other, thread, found, uploads, awaits⟩
      · refine Or.inl (staged.of_view ?_)
        rw [same.1, same.2, version]
        exact view
      · -- No upload of the object awaits its record, neither this one nor another.
        by_cases moved : other = spot
        · rw [moved, moving, Option.some.injEq] at found
          rw [← found, ← calling] at awaits
          exact absurd ((awaitsRecord_iff _ _).mp awaits) before
        · rw [same.1, same.2] at uploads
          exact absurd awaits (guarded.alone moving moved found uploads)
    · have apart : ¬ upload.request.UploadsTo obj.bucket obj.key :=
        fun uploads => same ⟨uploads.1.symm, uploads.2.symm⟩
      refine (guarded.covered_apart moving stored waits apart).imp
        (Staged.of_view (views _ ?_)) Or.inr
      simp only [Upload.cacheKey, ne_eq, CacheKey.mk.injEq]
      exact fun equal => same ⟨equal.1, equal.2.1⟩
  · intro upload' same awaits
    obtain rfl := Upload.request_injective same
    exact between ((awaitsRecord_iff _ _).mp awaits)
  · intro other upload' rest ne found awaits
    obtain ⟨xattrs, served⟩ := guarded.held other upload' rest found awaits
    refine ⟨xattrs, ?_⟩
    rw [views, served]
    intro same
    simp only [Upload.cacheKey, CacheKey.mk.injEq] at same
    exact guarded.alone moving ne found ⟨same.1, same.2.1⟩ awaits
  · intro upload' status same program
    obtain rfl := Upload.request_injective same
    obtain ⟨status', retracting⟩ := retracting_of_program upload program
    rw [metadata]
    exact homeless status' retracting

/-- Recording a staged upload keeps what it is responsible for. -/
theorem Guarded.recorded (guarded : Guarded system) {answer : PutObjectResponse}
    (moving : system.threads[spot]? = some ⟨upload.request, .call c next⟩)
    (own : upload.Held system.world) (cache : w.cache = system.world.cache)
    (metadata : upload.Records system.world.metadata w.metadata) :
    Kept system spot upload.request (upload.program (.ended (.ok answer))) w := by
  obtain ⟨bucket, ⟨fresh, recorded, inserted⟩, buckets⟩ := metadata
  have finished : ¬ AwaitsRecord (upload.program (.ended (.ok answer))) :=
    fun awaits => (awaitsRecord_iff _ _).mp awaits
  refine ⟨by rw [cache]; exact guarded.sound, ?_, Or.inl ⟨upload, .ended (.ok answer), rfl, rfl⟩, ?_,
    fun _ _ awaits => absurd awaits finished, ?_, ?_, buckets⟩
  · intro place obj stored
    rw [inserted, HashMap.get_insert] at stored
    rw [buckets]
    split at stored
    · rename_i same
      simp only [Option.some.injEq] at stored
      subst stored same
      exact ⟨rfl, recorded.key, bucket⟩
    · exact guarded.catalogued place obj stored
  · intro place obj stored waits
    rw [inserted, HashMap.get_insert] at stored
    split at stored
    · -- The object was recorded for the body that is in staging.
      simp only [Option.some.injEq] at stored
      subst stored
      obtain ⟨xattrs, served⟩ := own
      have key := recorded.key
      simp only [ObjectMetadata.objectKey, Upload.objectKey, ObjectKey.mk.injEq] at key
      refine Or.inl ⟨xattrs, upload.body, ?_, recorded.size.symm, recorded.checksum.symm⟩
      rw [key.1, key.2.1, key.2.2, cache]
      exact served
    · rename_i ne
      have apart : ¬ upload.request.UploadsTo obj.bucket obj.key := by
        intro uploads
        apply ne
        rw [guarded.catalogued.place stored, ← uploads.1, ← uploads.2]
        rfl
      exact (guarded.covered_apart moving stored waits apart).imp
        (Staged.of_view (by rw [cache])) Or.inr
  · intro other upload' rest _ found awaits
    rw [Upload.Held, cache]
    exact guarded.held other upload' rest found awaits
  · intro upload' status same program
    obtain rfl := Upload.request_injective same
    obtain ⟨_, retracting⟩ := retracting_of_program upload program
    cases retracting

/-- A call of an upload keeps what it is responsible for. -/
theorem Guarded.uploading (guarded : Guarded system) {calm : Prop} (quiet : calm)
    (moving : system.threads[spot]? = some ⟨upload.request, .call c next⟩)
    (calling : upload.program phase = .call c next)
    (step : upload.Step calm phase system.world after w) :
    Kept system spot upload.request (upload.program after) w := by
  -- An upload that is between staging and recording has its body in staging.
  have own : phase.Between → upload.Held system.world := fun between =>
    guarded.held spot upload _ moving (calling ▸ (awaitsRecord_iff _ _).mpr between)
  cases step with
  | stage made cache metadata =>
    rename_i middle now
    have stored := stored_stored upload.cacheKey (upload.description.xattrs now) upload.body
      made.sound
    refine guarded.quiet moving calling (by rw [cache]; exact stored.sound) metadata ?_ ?_
      (fun not => absurd trivial not) (by simp)
    · intro place ne
      rw [cache, stored.view]
      simp [ne, made.view]
    · intro _
      rw [Upload.Held, cache]
      exact ⟨_, stored.view_self⟩
  | refuse still =>
    obtain ⟨kept, metadata⟩ := still quiet
    exact guarded.quiet moving calling kept.sound metadata (fun place _ => kept.view place)
      False.elim (fun _ => Or.inr ⟨id, kept.view _⟩) (by simp)
  | clock cache metadata =>
    exact guarded.quiet moving calling (by rw [cache]; exact guarded.sound) metadata
      (fun place _ => by rw [cache]) (fun _ => by rw [Upload.Held, cache]; exact own trivial)
      (fun not => absurd trivial not) (by simp)
  | record cache metadata => exact guarded.recorded moving (own trivial) cache metadata
  | reject still =>
    obtain ⟨cache, metadata, missing⟩ := still quiet
    exact guarded.quiet moving calling (by rw [cache]; exact guarded.sound) metadata
      (fun place _ => by rw [cache]) False.elim (fun _ => Or.inl missing) (fun _ _ => missing)
  | retract still =>
    rename_i status
    obtain ⟨cache, metadata⟩ := still quiet
    have missing := guarded.homeless spot upload status (by rw [moving, calling])
    refine guarded.quiet moving calling ?_ metadata ?_ False.elim (fun _ => Or.inl missing) (by simp)
    · rw [cache]
      exact deleteEntry_sound guarded.sound _ _
    · intro place ne
      rw [cache, deleteEntry_view guarded.sound]
      simp [ne]

/-- A request that is admitted keeps the guard. -/
theorem Guarded.spawn (guarded : Guarded system) (admitted : MayStart system req) :
    Guarded { system with threads := system.threads ++ [⟨req, start req⟩] } where
  sound := guarded.sound
  catalogued := guarded.catalogued
  proceeds spot thread found := by
    rcases getElem?_concat_cases found with old | ⟨_, rfl⟩
    · exact guarded.proceeds spot thread old
    · cases req with
      | archiveStagingBatch s client limit =>
        exact Or.inr ⟨trivial, Program.only_bind ((archiveStagingBatch_only s client limit).mono
          ArchiveCall.worker) fun _ => trivial⟩
      | putObject bucket key body contentType =>
        exact Or.inl ⟨⟨bucket, key, body, contentType⟩, .fresh, rfl, rfl⟩
      | _ => exact admitted.elim
  exclusive first second left right bucket key ne foundLeft foundRight uploads uploads' := by
    -- The new upload was admitted because all others of its object are finished.
    have others : ∀ thread ∈ system.threads, req.UploadsTo bucket key →
        thread.request.UploadsTo bucket key → Finished thread := by
      intro thread mem uploads uploads'
      cases req with
      | putObject bucket' key' body contentType =>
        obtain ⟨rfl, rfl⟩ := uploads
        exact admitted thread mem uploads'
      | _ => exact uploads.elim
    rcases getElem?_concat_cases foundLeft with oldLeft | ⟨atEnd, rfl⟩
    · rcases getElem?_concat_cases foundRight with oldRight | ⟨_, rfl⟩
      · exact guarded.exclusive _ _ _ _ bucket key ne oldLeft oldRight uploads uploads'
      · exact Or.inl (others left (List.mem_of_getElem? oldLeft) uploads' uploads)
    · rcases getElem?_concat_cases foundRight with oldRight | ⟨atEnd', _⟩
      · exact Or.inr (others right (List.mem_of_getElem? oldRight) uploads uploads')
      · exact absurd (atEnd.trans atEnd'.symm) ne
  covered place obj stored waits := by
    rcases guarded.covered place obj stored waits with staged | ⟨spot, thread, found, records⟩
    · exact Or.inl staged
    · exact Or.inr ⟨spot, thread, by
        rw [List.getElem?_append_left (List.getElem?_eq_some_iff.mp found).1, found], records⟩
  held spot upload program found awaits := by
    rcases getElem?_concat_cases found with old | ⟨_, same⟩
    · exact guarded.held spot upload program old awaits
    · cases same
      exact ((awaitsRecord_iff upload .fresh).mp awaits).elim
  homeless spot upload status found := by
    rcases getElem?_concat_cases found with old | ⟨_, same⟩
    · exact guarded.homeless spot upload status old
    · simp only [Thread.mk.injEq] at same
      obtain ⟨rfl, same⟩ := same
      obtain ⟨_, fresh⟩ := retracting_of_program upload (show upload.program .fresh = _ from same.symm)
      cases fresh

/-- Every admitted event keeps the guard. -/
theorem Guarded.onward (calm : Calm env) (guarded : Guarded system) {event : Event Request}
    (admissible : Admissible system event) (safe : CleansSafely system event) :
    Guarded (system.next (machine svc env) start event) := by
  cases event with
  | spawn req => exact guarded.spawn (admissible req rfl)
  | step spot =>
    rcases system.advance_cases (machine svc env) spot with
      ⟨req, c, next, moving, _, _, advanced⟩ | ⟨_, still⟩
    · rw [Config.next, advanced]
      refine guarded.move moving ?_
      -- The thread that moves is an upload in one of its phases, or a worker.
      rcases guarded.proceeds spot _ moving with
        ⟨upload, phase, rfl, program⟩ | ⟨archives, only⟩
      · obtain ⟨after, left, step⟩ := upload.step svc env system.world guarded.sound program.symm
        rw [left]
        exact guarded.uploading (calm _) moving program.symm step
      · exact guarded.worker svc env (calm _) moving archives only safe
    · rw [Config.next, still]
      exact guarded

/--
In every run of uploads and archive workers in which the workers clean safely, all objects that wait
to be archived have their data in staging whenever no upload is in flight.
-/
theorem archiving_is_durable (calm : ∀ tick, (env tick).fault = none) (w : World)
    (sound : w.cache.Sound) (catalogued : Catalogued w.metadata) (durable : Durable w)
    (events : List (Event Request))
    (run : Config.Admits (machine svc env) start
      (fun system event => Admissible system event ∧ CleansSafely system event) ⟨w, []⟩ events)
    (quiet : NoneInFlight (Config.after (machine svc env) start ⟨w, []⟩ events)) :
    Durable (Config.after (machine svc env) start ⟨w, []⟩ events).world := by
  have guarded : Guarded (Config.after (machine svc env) start ⟨w, []⟩ events) := by
    refine Config.after_preserves (machine svc env) start _ Guarded ?_ events ⟨w, []⟩ ?_ run
    · intro system event guarded admitted
      exact guarded.onward svc env calm admitted.1 admitted.2
    · exact ⟨sound, catalogued, by simp, by simp,
        fun place obj stored waits => Or.inl (durable place obj stored waits), by simp, by simp⟩
  intro place obj stored waits
  -- Once no upload is in flight, nothing but the staged body can cover an object.
  rcases guarded.covered place obj stored waits with
    staged | ⟨spot, thread, found, uploads, c, next, calling, _⟩
  · exact staged
  · obtain ⟨outcome, ended⟩ := quiet thread (List.mem_of_getElem? found) _ _ uploads
    rw [calling] at ended
    cases ended

omit [Sha256]

section Decidable

instance (req : Request) (bucket key : String) : Decidable (req.UploadsTo bucket key) := by
  unfold Request.UploadsTo
  split <;> infer_instance

instance (req : Request) : Decidable req.Archives := by
  unfold Request.Archives
  split <;> infer_instance

instance (thread : Thread Call Reply Request Outcome) : Decidable (Finished thread) :=
  match thread with
  | ⟨_, .done outcome⟩ => .isTrue ⟨outcome, rfl⟩
  | ⟨_, .call _ _⟩ => .isFalse (by rintro ⟨_, same⟩; cases same)

instance (c : Call) : Decidable (RecordCall c) := by
  unfold RecordCall
  split <;> infer_instance

instance (program : Sched Outcome) : Decidable (AwaitsRecord program) :=
  match program with
  | .done _ => .isFalse (by rintro ⟨_, _, same, _⟩; cases same)
  | .call c _ => decidable_of_iff (RecordCall c) awaitsRecord_call.symm

instance (system : System) (req : Request) : Decidable (MayStart system req) := by
  unfold MayStart
  split <;> infer_instance

instance (system : System) (event : Event Request) : Decidable (Admissible system event) :=
  match event with
  | .spawn req => decidable_of_iff (MayStart system req)
      ⟨by rintro may _ ⟨⟩; exact may, fun admissible => admissible req rfl⟩
  | .step _ => .isTrue (by rintro _ ⟨⟩)

instance (system : System) (program : Sched Outcome) : Decidable (DeletesSafely system program) := by
  unfold DeletesSafely
  split <;> infer_instance

instance (system : System) (event : Event Request) : Decidable (CleansSafely system event) :=
  match event with
  | .spawn _ => .isTrue (by rintro _ _ ⟨⟩)
  | .step spot =>
    match found : system.threads[spot]? with
    | none => .isTrue (by rintro _ _ ⟨⟩ present; simp [found] at present)
    | some thread => decidable_of_iff (thread.request.Archives → DeletesSafely system thread.program)
        ⟨by
          rintro safe _ _ ⟨⟩ present
          rw [found, Option.some.injEq] at present
          exact present ▸ safe, fun safe => safe spot thread rfl found⟩

end Decidable

/-- One upload that is archived, up to the call that takes it out of staging. -/
def archivedUpload : List (Event Request) :=
  [.spawn (.putObject "docs" "a" [97] none)] ++ steps 3 0 ++
    [.spawn (.archiveStagingBatch oneTapeScheduler oneTapeClient 0)] ++ steps 15 1

/-- Another upload of the same object. -/
def overwriting : List (Event Request) :=
  [.spawn (.putObject "docs" "a" [98, 98] none)] ++ steps 3 2

/-- Whether every upload of a system has come to its end. -/
def noneInFlight (system : System) : Bool :=
  system.threads.all fun thread => match thread.request with
    | .putObject _ _ _ _ => decide (Finished thread)
    | _ => true

theorem noneInFlight_sound (all : noneInFlight system = true) :
    NoneInFlight system := by
  intro thread mem bucket key uploads
  have finished := List.all_eq_true.mp all thread mem
  revert finished uploads
  cases thread.request <;> simp [Request.UploadsTo]

/-- An object that is overwritten after its old data was taken out of staging keeps its new data. -/
theorem archiving_is_durable_afterCleaning :
    @Durable shortDigests
      (oneTapeAfter (still 0) (archivedUpload ++ steps 1 1 ++ overwriting)).world :=
  letI := shortDigests
  have run : Config.Admits quietMachine start
        (fun system event => Admissible system event ∧ CleansSafely system event)
        ⟨oneTapeWorld, []⟩ (archivedUpload ++ steps 1 1 ++ overwriting) ∧
      noneInFlight (oneTapeAfter (still 0) (archivedUpload ++ steps 1 1 ++ overwriting)) = true := by
    decide +kernel
  archiving_is_durable (.even (2 ^ 30)) (still 0) (fun _ => rfl) oneTapeWorld
    (CacheState.sound_empty _ _) (by intro place obj stored; cases stored)
    (by intro place obj stored; cases stored)
    _ run.1 (noneInFlight_sound run.2)

/--
An object that is overwritten just before its old data is taken out of staging loses its new data,
although no upload overlaps another one and all of them succeed.
-/
theorem overwritten_object_loses_data :
    letI := shortDigests
    let events := archivedUpload ++ overwriting ++ steps 1 1
    Config.Admits quietMachine start Admissible ⟨oneTapeWorld, []⟩ events ∧
    NoneInFlight (oneTapeAfter (still 0) events) ∧
    ¬ Durable (oneTapeAfter (still 0) events).world := by
  let := shortDigests
  -- The object waits to be archived, and staging has nothing for it.
  have run : Config.Admits quietMachine start Admissible ⟨oneTapeWorld, []⟩
        (archivedUpload ++ overwriting ++ steps 1 1) ∧
      let system := oneTapeAfter (still 0) (archivedUpload ++ overwriting ++ steps 1 1)
      noneInFlight system = true ∧
      (system.world.metadata.objects.get ⟨"docs", "a", none⟩).map (fun obj =>
        (obj.storageClass, obj.bucket, obj.key, obj.versionId)) =
          some (StorageClass.coldPending.number, "docs", "a", none) ∧
      system.world.cache.view .staging ⟨"docs", "a", none⟩ = none := by
    decide +kernel
  obtain ⟨admitted, ended, waits, gone⟩ := run
  refine ⟨admitted, noneInFlight_sound ended, fun durable => ?_⟩
  obtain ⟨obj, stored, same⟩ := Option.map_eq_some_iff.mp waits
  simp only [Prod.mk.injEq] at same
  obtain ⟨xattrs, data, served, _⟩ := durable _ obj stored same.1
  rw [same.2.1, same.2.2.1, same.2.2.2, gone] at served
  cases served

end ColdStore.Scheduler
