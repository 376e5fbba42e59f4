import ColdStore.Metadata.Tasks
import ColdStore.Scheduler.RecallPass

/-! Requests of clients whose calls all arrive: uploads, restores and reads. -/

namespace ColdStore.Scheduler

open Rust Process Program CacheState

variable [Sha256]

/-- Serve requests one after the other. -/
def serveAll : List Request → Sched (List Outcome)
  | [] => pure []
  | req :: rest => do
    let outcome ← start req
    let others ← serveAll rest
    pure (outcome :: others)

omit [Sha256] in
/-- A request has been served, and nothing that was done for it has failed. -/
def Outcome.Succeeded : Outcome → Prop
  | .finished answer => answer.isOk
  | .put answer => answer.isOk
  | .got answer => answer.isOk
  | .restored answer => answer.isOk
  | .archived answer => answer.isOk
  | .recalled batch => batch.answer.isOk ∧ ∀ step ∈ batch.processed, step.2.isOk

section

variable {machine : Machine Call Reply World} {w : World}

/-- What each request keeps, requests one after the other keep. -/
theorem serveAll_map_achieves {ι : Type} {req : ι → Request} {holds : List ι → World → Prop}
    {fine : ι → Outcome → Prop}
    (serves : ∀ item rest before, holds (item :: rest) before →
      (start (req item)).Achieves machine
        (fun outcome after => fine item outcome ∧ holds rest after) before)
    (items : List ι) : ∀ {w : World}, holds items w →
      (serveAll (items.map req)).Achieves machine
        (fun outcomes after => List.Forall₂ fine items outcomes ∧ holds [] after) w := by
  induction items with
  | nil => exact fun held => ⟨.nil, held⟩
  | cons item rest ih =>
    intro w held
    refine achieves_bind (serves item rest w held) fun outcome first met => ?_
    exact achieves_bind (ih met.2) fun others after later => ⟨.cons met.1 later.1, later.2⟩

/-- Requests that have been served: the first, and then the others from where it has ended. -/
theorem serveAll_cons_ran {req : Request} {rest : List Request} {outcomes : List Outcome}
    {after : World} (ran : (serveAll (req :: rest)).run machine w = some (outcomes, after)) :
    ∃ outcome others between, outcomes = outcome :: others ∧
      (start req).run machine w = some (outcome, between) ∧
        (serveAll rest).run machine between = some (others, after) := by
  rw [serveAll, run_bind] at ran
  obtain ⟨⟨outcome, between⟩, served, later⟩ := Option.bind_eq_some_iff.mp ran
  rw [run_bind] at later
  obtain ⟨⟨others, last⟩, servedOthers, ended⟩ := Option.bind_eq_some_iff.mp later
  cases ended
  exact ⟨outcome, others, between, rfl, served, servedOthers⟩

theorem serveAll_append (first second : List Request) :
    serveAll (first ++ second) =
      serveAll first >>= fun outcomes => (outcomes ++ ·) <$> serveAll second := by
  induction first with
  | nil => simp [serveAll]
  | cons req rest ih => simp [serveAll, ih, map_eq_pure_bind]

/-- Requests that follow others start from what those end with. -/
theorem serveAll_append_achieves {first second : List Request}
    {middle post : List Outcome → World → Prop} (left : (serveAll first).Achieves machine middle w)
    (right : ∀ outcomes after, middle outcomes after →
      (serveAll second).Achieves machine (fun others => post (outcomes ++ others)) after) :
    (serveAll (first ++ second)).Achieves machine post w := by
  rw [serveAll_append]
  refine achieves_bind left fun outcomes after met => ?_
  rw [map_eq_pure_bind]
  exact achieves_bind (right outcomes after met) fun others last both => both

end

/-- An upload has been staged and recorded, and everything else but expired objects is as before. -/
structure Uploaded (upload : Upload) (before after : World) : Prop where
  tape : after.tape = before.tape
  schedulers : after.schedulers = before.schedulers
  cache : ∃ now, Admitted (before.cache.HasExpired now) upload.cacheKey
    (upload.description.xattrs now) upload.body before.cache after.cache
  objects : ∃ obj, upload.Recorded obj ∧ obj.restoreStatus = none ∧
    after.metadata.objects = before.metadata.objects.insert upload.objectKey obj
  buckets : ∀ name, after.metadata.buckets.containsKey name = before.metadata.buckets.containsKey name
  tasks : TasksKept before.metadata after.metadata

/-- A restore has been asked for, and everything else is as before. -/
structure AskedFor (env : Nat → Moment) (bucket key : String) (obj : ObjectMetadata)
    (place : ArchivePlace) (days : Nat) (tier : RestoreTier) (before after : World) : Prop where
  only : CatalogueOnly before after
  recorded : ∃ (tick : Nat) (expireAt now stamp : Timestamp),
    expireAt.seconds = ((env tick).seconds : Int) + (max days 1 : Nat) * 86400 ∧
    after.metadata = { before.metadata with
      objects := before.metadata.objects.update ⟨bucket, key, none⟩
        (restoring .restorePending (some expireAt) stamp obj)
      recallTasks := before.metadata.recallTasks.insert (phase1RecallTaskId bucket key none)
        (restoreTask bucket key obj place days tier expireAt now) }

section

variable {svc : CacheService} {env : Nat → Moment} (calm : Calm env) {w : World} {total : Nat}

include calm

variable (upload : Upload)

/-- With enough room an upload is staged. -/
theorem putStagingObject_succeeds (room : svc.RoomFor w.cache.backend.maxSizeBytes total)
    (accounted : w.cache.Accounted) (absent : w.cache.findEntry upload.cacheKey .staging = none)
    (fits : w.cache.index.sizes.sum + upload.body.length ≤ total) :
    Succeeds (machine svc env) (putStagingObject upload.description upload.body)
      (fun _ after => CacheOnly w after ∧ ∃ now, Admitted (w.cache.HasExpired now)
        upload.cacheKey (upload.description.xattrs now) upload.body w.cache after.cache)
      w := by
  refine succeeds_askCache calm fun now => ?_
  obtain ⟨id, after, put, admitted⟩ := CacheService.putStaging_roomy room accounted
    (env now).seconds upload.description rfl absent fits
  exact ⟨id, after, put, fun _ => ⟨⟨rfl, rfl, rfl⟩, _, admitted⟩⟩

/-- An upload to an existing bucket is recorded. -/
theorem recordUpload_succeeds (known : w.metadata.buckets.containsKey upload.bucket = true) :
    Succeeds (machine svc env)
      (recordUpload upload.bucket upload.key upload.body upload.contentType)
      (fun _ after => CatalogueOnly w after ∧ TasksKept w.metadata after.metadata ∧
        (∃ obj, upload.Recorded obj ∧ obj.restoreStatus = none ∧
          after.metadata.objects = w.metadata.objects.insert upload.objectKey obj) ∧
        ∀ name, after.metadata.buckets.containsKey name =
          w.metadata.buckets.containsKey name) w := by
  refine succeeds_bind succeeds_now fun now first idle => ?_
  have accepted : ∀ clock, ∃ after,
      applyCommand clock first.metadata (.putObject (upload.object now)) = (.ok (), after) ∧
        TasksKept first.metadata after ∧ (∃ obj, upload.Recorded obj ∧
          obj.restoreStatus = none ∧
          after.objects = first.metadata.objects.insert upload.objectKey obj) ∧
        ∀ name, after.buckets.containsKey name = first.metadata.buckets.containsKey name := by
    intro clock
    have there : first.metadata.buckets.containsKey upload.bucket = true := by
      rw [idle.metadata]
      exact known
    have put : applyCommand clock first.metadata (.putObject (upload.object now)) = _ :=
      if_pos there
    have kept := applyCommand_tasksKept clock first.metadata (.putObject (upload.object now)) rfl
    rcases upload.putObject_cases clock now first.metadata with
      ⟨after, same, records⟩ | ⟨missing, _⟩
    · rw [same] at kept
      obtain ⟨-, rfl⟩ := Prod.mk.inj (same.symm.trans put)
      exact ⟨_, put, kept, ⟨_, ⟨rfl, rfl, rfl, rfl⟩, rfl, refreshBucketStats_objects _ _⟩,
        records.buckets⟩
    · rw [there] at missing
      cases missing
  refine succeeds_bind (succeeds_lift (applied_succeeds calm accepted)) fun answer second met => ?_
  obtain ⟨_, rfl, only, met⟩ := met
  rw [idle.metadata] at met
  exact succeeds_pure ⟨idle.catalogueOnly.trans only, met⟩

/-- With enough room an upload to an existing bucket succeeds. -/
theorem putObject_succeeds (room : svc.RoomFor w.cache.backend.maxSizeBytes total)
    (accounted : w.cache.Accounted) (absent : w.cache.findEntry upload.cacheKey .staging = none)
    (fits : w.cache.index.sizes.sum + upload.body.length ≤ total)
    (known : w.metadata.buckets.containsKey upload.bucket = true) :
    Succeeds (machine svc env)
      (putObject upload.bucket upload.key upload.body upload.contentType)
      (fun _ after => Uploaded upload w after) w := by
  refine succeeds_bind (putStagingObject_succeeds calm upload room accounted absent fits)
    fun _ first met => ?_
  obtain ⟨cacheOnly, staged⟩ := met
  refine (recordUpload_succeeds calm upload (by rw [cacheOnly.metadata]; exact known)).mono
    fun _ after met => ?_
  obtain ⟨only, tasks, objects, buckets⟩ := met
  rw [cacheOnly.metadata] at tasks objects buckets
  exact ⟨only.tape.trans cacheOnly.tape, only.schedulers.trans cacheOnly.schedulers,
    by rw [only.cache]; exact staged, objects, buckets, tasks⟩

omit [Sha256] in
/-- The restore of an archived object that was never restored is asked for. -/
theorem restoreObject_succeeds (unversioned : Unversioned w.metadata) {bucket key : String}
    {obj : ObjectMetadata} (stored : w.metadata.objects.get ⟨bucket, key, none⟩ = some obj)
    (plain : obj.versionId = none) (cold : obj.storageClass = StorageClass.cold.number)
    (fresh : obj.restoreStatus = none) {place : ArchivePlace}
    (placed : archivePlace obj = .ok place)
    (absent : w.metadata.recallTasks.get (phase1RecallTaskId bucket key none) = none)
    (days : Nat) {tier : RestoreTier} (patient : tier ≠ .expedited) :
    Succeeds (machine svc env) (restoreObject bucket key days tier)
      (fun answer after => answer = ⟨202⟩ ∧
        AskedFor env bucket key obj place days tier w after) w := by
  have reads : Succeeds (machine svc env) (askMetadata (.getObject bucket key))
      (fun (found : ObjectMetadata) after => found = obj ∧ Idle w after) w :=
    succeeds_read calm fun _ => by
      rw [MetadataCall.serve, MetadataState.getObject, findObject_of_plain unversioned stored]
      rfl
  refine succeeds_bind reads fun found first met => ?_
  obtain ⟨rfl, idle⟩ := met
  refine succeeds_passing ((ensure_eq_ok _ _ ()).mpr (by simpa using cold)) ?_
  refine succeeds_passing ((ensure_eq_ok _ _ ()).mpr (by simpa using patient)) ?_
  rw [fresh, Option.bind_none]
  refine succeeds_passing placed ?_
  refine succeeds_bind succeeds_clock fun now second again => ?_
  obtain ⟨again, seconds⟩ := again
  have since := idle.trans again
  have follows : validateRestoreTransition found.restoreStatus
      RestoreStatus.restorePending.number = .ok () := by
    rw [fresh]
    exact validateRestoreTransition_first _
  refine succeeds_bind (updateObjectRestoreStatus_succeeds calm
    (by rw [since.metadata]; exact unversioned) (by rw [since.metadata]; exact stored) follows _)
    fun _ third met => ?_
  obtain ⟨only, stamp, metadata⟩ := met
  rw [since.metadata] at metadata
  refine succeeds_bind succeeds_now fun created fourth last => ?_
  rw [← last.metadata] at metadata
  let task := restoreTask bucket key found place days tier (daysFromNow now (max days 1)) created
  have named : task.id = phase1RecallTaskId bucket key none := by
    rw [← plain]
    rfl
  have accepted : ∀ clock, ∃ after, applyCommand clock fourth.metadata (.putRecallTask task) =
      (.ok (), after) ∧ after = { fourth.metadata with
        recallTasks := fourth.metadata.recallTasks.insert task.id task } :=
    fun clock => ⟨_, putRecallTask_absent _ (by rw [metadata, named]; exact absent), rfl⟩
  refine succeeds_bind (succeeds_lift (applied_succeeds calm accepted)) fun answer fifth met => ?_
  obtain ⟨_, rfl, only', put⟩ := met
  rw [metadata, named] at put
  exact succeeds_pure ⟨rfl, ((since.catalogueOnly.trans only).trans last.catalogueOnly).trans only',
    _, _, created, stamp, by rw [daysFromNow, seconds], put⟩

/-- The copy of an object in the cache has been read, and nothing else has happened to it. -/
def CopyRead (bucket key : String) (xattrs : CacheXattrs) (data : Bytes) (w after : World) :
    Prop := after.metadata = w.metadata ∧ after.cache.Sound ∧
    ∃ now, ∀ place, after.cache.view .restored place =
      if place = ⟨bucket, key, none⟩ then some (xattrs.accessed now, data)
      else w.cache.view .restored place

omit [Sha256] in
/-- A restored object that the cache serves is read. -/
theorem getObject_succeeds (unversioned : Unversioned w.metadata) (sound : w.cache.Sound)
    {bucket key : String} {obj : ObjectMetadata}
    (stored : w.metadata.objects.get ⟨bucket, key, none⟩ = some obj)
    (identity : obj.objectKey = ⟨bucket, key, none⟩)
    (cold : obj.storageClass = StorageClass.cold.number)
    (restored : obj.restoreStatus = some RestoreStatus.restoreCompleted.number)
    {xattrs : CacheXattrs} {data : Bytes}
    (served : w.cache.view .restored ⟨bucket, key, none⟩ = some (xattrs, data))
    (described : xattrs.size = data.length) (size : obj.size = data.length)
    (alive : ∀ tick, ((env tick).seconds : Int) < xattrs.expireAt) :
    Succeeds (machine svc env) (getObject bucket key)
      (fun answer after => answer = (obj, data) ∧ CopyRead bucket key xattrs data w after)
      w := by
  rw [ObjectMetadata.objectKey, ObjectKey.mk.injEq] at identity
  refine succeeds_bind (headObject_succeeds calm (findObject_of_plain unversioned stored))
    fun found first met => ?_
  obtain ⟨rfl, idle⟩ := met
  have valid : validateRestored found = .ok () := by
    have known : tryFrom RestoreStatus RestoreStatus.restoreCompleted.number =
        some .restoreCompleted := rfl
    simp only [validateRestored, cold, restored, Option.bind_some, known, ensure, decide_true,
      if_true, Bind.bind, Except.bind]
  have reads : Succeeds (machine svc env) (readRestoredObject found)
      (fun bytes after => bytes = data ∧ CopyRead bucket key xattrs data w after) first := by
    refine succeeds_passing valid ?_
    rw [identity.1, identity.2.1, identity.2.2]
    have answered : Succeeds (machine svc env) (askCache (.get ⟨bucket, key, none⟩))
        (fun (messages : List (Message CachedObjectMeta)) after =>
          messages = streamObject xattrs.cached data ∧ CopyRead bucket key xattrs data w after) first := by
      refine succeeds_askCache calm fun tick => ?_
      have unexpired : isExpiredAt xattrs.expireAt (env tick).seconds = false := by
        have := alive tick
        simp only [isExpiredAt, decide_eq_false_iff_not, not_and]
        omega
      obtain ⟨after, got, sound', view⟩ := get_served (idle.cache ▸ sound) (idle.cache ▸ served)
        unexpired
      rw [idle.cache] at view
      exact ⟨_, after, got, fun _ => ⟨rfl, idle.metadata, sound', _, view⟩⟩
    refine succeeds_bind (succeeds_adapt answered) fun messages second met => ?_
    obtain ⟨rfl, met⟩ := met
    have bytes : restoredBytes found (streamObject xattrs.cached data) = .ok data := by
      simp [restoredBytes, CacheXattrs.cached, drainStream_streamObject, okOr, described, size, ensure,
        Bind.bind, Except.bind, Pure.pure, Except.pure]
    refine (succeeds_checked bytes).mono fun got after done => ?_
    obtain ⟨rfl, idle⟩ := done
    rw [CopyRead, idle.metadata, idle.cache]
    exact ⟨rfl, met⟩
  refine succeeds_bind reads fun bytes after met => ?_
  obtain ⟨rfl, met⟩ := met
  exact succeeds_pure ⟨rfl, met⟩

end

end ColdStore.Scheduler
