import ColdStore.Scheduler.Upholding

/-!
What an upload that fails leaves of the object it was to replace.

The body is staged over the old one before the catalogue is asked, and a failure of the catalogue
is answered by deleting what is staged, not by restoring it.
-/

namespace ColdStore.Scheduler

open Rust Process Program CacheState

/-- Whether a call that is made at a moment reaches its service. -/
def Moment.arrives (moment : Moment) : Bool :=
  match moment.fault with
  | some (.unreached _) => false
  | _ => true

section Delivery

variable {α σ : Type} (moment : Moment) (before : σ) (served : Except Status α × σ)

/-- A call leaves what its service leaves if it arrives. -/
theorem delivered_snd :
    (delivered moment before served).2 = if moment.arrives then served.2 else before := by
  unfold delivered Moment.arrives
  cases moment.fault with
  | none => rfl
  | some fault => cases fault <;> rfl

/-- A call succeeds if nothing happens to it and its service succeeds. -/
theorem delivered_isOk :
    (delivered moment before served).1.isOk = (moment.fault.isNone && served.1.isOk) := by
  unfold delivered
  cases moment.fault with
  | none => simp
  | some fault => cases fault <;> rfl

variable (svc : CacheService) (w : World)

theorem serve_metadata_snd (call : MetadataCall) :
    (serve svc moment (.metadata call) w).2.metadata =
      if moment.arrives then (call.serve moment w.metadata).2 else w.metadata :=
  delivered_snd moment _ _

theorem serve_cache_snd (call : CacheCall) :
    (serve svc moment (.cache call) w).2.cache =
      if moment.arrives then (call.serve svc moment w.cache).2 else w.cache :=
  delivered_snd moment _ _

end Delivery

/-- A call that is enabled is served. -/
theorem run_call {C W α : Type} {R : C → Type} {machine : Machine C R W} {c : C}
    {next : R c → Program C R α} {w : W} (enabled : machine.enabled c w = true) :
    (Program.call c next).run machine w
      = (next (machine.serve c w).1).run machine (machine.serve c w).2 := if_pos enabled

variable [Sha256]

/-- An upload that has been acknowledged and waits to be archived, with its bytes in staging. -/
structure AwaitsArchive (w : World) (bucket key : String) (obj : ObjectMetadata)
    (data : Bytes) : Prop where
  recorded : w.metadata.objects.get ⟨bucket, key, none⟩ = some obj
  pending : obj.storageClass = StorageClass.coldPending.number
  staged : (w.cache.view .staging ⟨bucket, key, none⟩).map Prod.snd = some data
  size : obj.size = data.length
  checksum : obj.checksum = sha256Hex data

/-- The object is recorded as it was, and its bytes are still in staging. -/
structure Preserved (w : World) (bucket key : String) (obj : ObjectMetadata)
    (data : Bytes) : Prop where
  recorded : w.metadata.objects.get ⟨bucket, key, none⟩ = some obj
  staged : (w.cache.view .staging ⟨bucket, key, none⟩).map Prod.snd = some data

namespace Upload

variable (upload : Upload) (svc : CacheService) (env : Nat → Moment) (w : World)

/-- The answer of the cache to the body. -/
def stagingAnswer : Except Status String × CacheState HddBackend :=
  svc.putStaging (env w.tick).seconds w.cache
    [some (.metadata upload.description), some (.data upload.body)]

/-- The body gets into the cache. -/
def Enters : Prop := (env w.tick).arrives = true ∧ (upload.stagingAnswer svc env w).1.isOk = true

/-- The record that is stored for the upload, made by the first clock and stored by the second. -/
def recordedAt (made stored : Moment) : ObjectMetadata :=
  { upload.object ⟨made.seconds, made.nanos⟩ with
    updatedAt := some (ColdStore.nowTimestamp stored.seconds) }

/-- The record reaches a catalogue that takes it, and is not the one that is there already. -/
def Replaces (obj : ObjectMetadata) : Prop :=
  (env (w.tick + 2)).arrives = true ∧
    w.metadata.buckets.containsKey upload.bucket = true ∧
      upload.recordedAt (env (w.tick + 1)) (env (w.tick + 2)) ≠ obj

/--
What spares the old object when the upload fails.

The new body does not get into the cache, or it is the old one and is neither recorded nor deleted.
-/
def Spares (obj : ObjectMetadata) (data : Bytes) : Prop :=
  ¬ upload.Enters svc env w ∨ upload.body = data ∧
    ((env w.tick).fault.isSome = true ∨
      ¬ upload.Replaces env w obj ∧ (env (w.tick + 3)).arrives = false)

/-- What a failed upload leaves. -/
inductive Failure : World → Prop where
  /-- The body has not got into the cache. -/
  | unstaged {after : World} (outside : ¬ upload.Enters svc env w)
      (kept : StagingKept w.cache after.cache) (metadata : after.metadata = w.metadata) :
      Failure after
  /-- The body is staged, but the scheduler does not know. -/
  | unanswered {after : World} (inside : upload.Enters svc env w)
      (lost : (env w.tick).fault.isSome = true)
      (staged : (after.cache.view .staging upload.cacheKey).map Prod.snd = some upload.body)
      (metadata : after.metadata = w.metadata) : Failure after
  /-- The body is staged, the record has failed, and what is staged is deleted. -/
  | retracted {after : World} (inside : upload.Enters svc env w)
      (answered : (env w.tick).fault = none)
      (recorded : after.metadata.objects.get upload.objectKey =
        if (env (w.tick + 2)).arrives ∧
          w.metadata.buckets.containsKey upload.bucket = true then
          some (upload.recordedAt (env (w.tick + 1)) (env (w.tick + 2)))
        else w.metadata.objects.get upload.objectKey)
      (staged : (after.cache.view .staging upload.cacheKey).map Prod.snd =
        if (env (w.tick + 3)).arrives then none else some upload.body) : Failure after

/-- The catalogue stores the record where there is a bucket for it. -/
theorem applyCommand_recorded (made stored : Moment) (s : MetadataState) :
    (applyCommand stored.seconds s
      (.putObject (upload.object ⟨made.seconds, made.nanos⟩))).2.objects.get upload.objectKey =
      if s.buckets.containsKey upload.bucket = true then some (upload.recordedAt made stored)
      else s.objects.get upload.objectKey := by
  have named : (upload.object ⟨made.seconds, made.nanos⟩).bucket = upload.bucket := rfl
  simp only [applyCommand, ColdStore.putObject]
  by_cases present : s.buckets.containsKey upload.bucket = true
  · rw [if_pos (named ▸ present), if_pos present, refreshBucketStats_objects]
    exact HashMap.get_insert_self _ _ _
  · rw [if_neg (named ▸ present), if_neg present]

variable {status : Status} {after : World}

/-- A record that fails leaves what is staged deleted, as far as the calls arrive. -/
theorem recording_failed (made : Moment) (sound : w.cache.Sound)
    (failed : (upload.program (.recording ⟨made.seconds, made.nanos⟩)).run
      (machine svc env) w = some (.put (.error status), after)) :
    after.metadata.objects.get upload.objectKey =
        (if (env w.tick).arrives ∧
          w.metadata.buckets.containsKey upload.bucket = true then
          some (upload.recordedAt made (env w.tick))
        else w.metadata.objects.get upload.objectKey) ∧ after.cache.view .staging upload.cacheKey =
        if (env (w.tick + 1)).arrives then none
        else w.cache.view .staging upload.cacheKey := by
  rw [program, run_call rfl] at failed
  cases answer : ((machine svc env).serve (.metadata (.apply (.putObject
    (upload.object ⟨made.seconds, made.nanos⟩)))) w).1 with
  | ok _ =>
    rw [answer] at failed
    cases failed
  | error refused =>
    rw [answer] at failed
    dsimp only at failed
    rw [run_call rfl] at failed
    cases failed
    -- The record is made if its call arrives, and the staged body goes if the deletion does.
    constructor
    · show (serve svc _ _ w).2.metadata.objects.get upload.objectKey = _
      rw [serve_metadata_snd]
      cases (env w.tick).arrives with
      | false => simp
      | true =>
        simp only [if_true, true_and, MetadataCall.serve]
        exact upload.applyCommand_recorded made (env w.tick) w.metadata
    · show (serve svc (env (w.tick + 1)) (.cache (.deleteStaging upload.cacheKey))
        _).2.cache.view .staging upload.cacheKey = _
      rw [serve_cache_snd]
      cases (env (w.tick + 1)).arrives with
      | false => rfl
      | true =>
        show ((CacheState.deleteStaging w.cache upload.cacheKey).2).view .staging _ = _
        simp [deleteStaging_eq sound, deleteEntry_view sound]

/-- The record is made by the clock that is read once the body is staged. -/
theorem staged_failed (sound : w.cache.Sound)
    (failed : (upload.program .staged).run (machine svc env) w
      = some (.put (.error status), after)) :
    after.metadata.objects.get upload.objectKey =
        (if (env (w.tick + 1)).arrives ∧
          w.metadata.buckets.containsKey upload.bucket = true then
          some (upload.recordedAt (env w.tick) (env (w.tick + 1)))
        else w.metadata.objects.get upload.objectKey) ∧ after.cache.view .staging upload.cacheKey =
        if (env (w.tick + 2)).arrives then none
        else w.cache.view .staging upload.cacheKey := by
  rw [program_staged, run_call rfl] at failed
  have read : (serve svc (env w.tick) (.here .now) w).2.cache.Sound := sound
  exact upload.recording_failed svc env _ (env w.tick) read failed

/-- The cache takes the body in, or leaves staging as it is. -/
theorem stagingAnswer_cases (sound : w.cache.Sound) :
    ((upload.stagingAnswer svc env w).1.isOk = true ∧
      (upload.stagingAnswer svc env w).2.Sound ∧
      ((upload.stagingAnswer svc env w).2.view .staging upload.cacheKey).map
        Prod.snd = some upload.body) ∨ (upload.stagingAnswer svc env w).1.isOk = false ∧
      StagingKept w.cache (upload.stagingAnswer svc env w).2 := by
  unfold stagingAnswer
  -- The body is stored in the end, or only restored copies have been evicted for it.
  rcases putStaging_cases svc sound (env w.tick).seconds upload.description
    upload.body rfl with ⟨id, middle, kept, put⟩ | ⟨status, after, kept, put⟩
  · rw [put]
    have stored := stored_stored upload.description.cacheKey
      (upload.description.xattrs (env w.tick).seconds) upload.body kept.sound
    have view := stored.view_self
    refine .inl ⟨rfl, stored.sound, ?_⟩
    exact congrArg (Option.map Prod.snd) view
  · rw [put]
    exact .inr ⟨rfl, kept⟩

/-- An upload that is told of no success has left staging alone, or its success got lost. -/
private theorem failure_of_refused (sound : w.cache.Sound)
    (refused : ((env w.tick).fault.isNone && (upload.stagingAnswer svc env w).1.isOk) = false)
    (cache : after.cache = if (env w.tick).arrives = true then
      (upload.stagingAnswer svc env w).2 else w.cache)
    (metadata : after.metadata = w.metadata) : upload.Failure svc env w after := by
  have taken := upload.stagingAnswer_cases svc env w sound
  by_cases enters : upload.Enters svc env w
  · obtain ⟨arrives, ok⟩ := enters
    rw [if_pos arrives] at cache
    rcases taken with ⟨_, _, staged⟩ | ⟨notTaken, _⟩
    · refine .unanswered ⟨arrives, ok⟩ ?_ (by rw [cache]; exact staged) metadata
      -- The answer was a success that got lost.
      rw [ok, Bool.and_true] at refused
      rw [← Option.not_isNone, refused]
      rfl
    · rw [ok] at notTaken
      cases notTaken
  · refine .unstaged enters ?_ metadata
    rw [cache]
    cases arrives : (env w.tick).arrives with
    | false => exact .refl sound
    | true =>
      rcases taken with ⟨ok, _⟩ | ⟨_, kept⟩
      · exact absurd ⟨arrives, ok⟩ enters
      · exact kept

/-- A failed upload leaves one of three things. -/
theorem failure_of_run (sound : w.cache.Sound)
    (failed : (start upload.request).run (machine svc env) w = some (.put (.error status), after))
    : upload.Failure svc env w after := by
  change (upload.program .fresh).run (machine svc env) w = _ at failed
  rw [program_fresh, run_call rfl] at failed
  have cache : ((machine svc env).serve (.cache (.putStaging
      [some (.metadata upload.description), some (.data upload.body)])) w).2.cache =
      if (env w.tick).arrives = true then
        (upload.stagingAnswer svc env w).2 else w.cache :=
    serve_cache_snd _ _ _ _
  -- The answer is a success if the call arrived, came back, and the cache took the body.
  have answered : Except.isOk (ε := Status) ((machine svc env).serve (.cache (.putStaging
      [some (.metadata upload.description), some (.data upload.body)])) w).1 =
      ((env w.tick).fault.isNone && (upload.stagingAnswer svc env w).1.isOk) :=
    delivered_isOk (env w.tick) w.cache (upload.stagingAnswer svc env w)
  cases answer : ((machine svc env).serve (.cache (.putStaging
      [some (.metadata upload.description), some (.data upload.body)])) w).1 with
  | error refused =>
    rw [answer] at failed answered
    cases failed
    exact upload.failure_of_refused svc env w sound answered.symm cache rfl
  | ok id =>
    rw [answer] at failed answered
    have both : (env w.tick).fault.isNone = true ∧
        (upload.stagingAnswer svc env w).1.isOk = true := by
      rw [← Bool.and_eq_true, ← answered]
      rfl
    have calm : (env w.tick).fault = none := Option.isNone_iff_eq_none.mp both.1
    have arrives : (env w.tick).arrives = true := by simp [Moment.arrives, calm]
    rw [if_pos arrives] at cache
    rcases upload.stagingAnswer_cases svc env w sound with
      ⟨_, sound, staged⟩ | ⟨refused, _⟩
    · rw [← cache] at sound staged
      obtain ⟨recorded, left⟩ := upload.staged_failed svc env _ sound failed
      refine .retracted ⟨arrives, both.2⟩ calm recorded ?_
      rw [left]
      show Option.map Prod.snd (if (env (w.tick + 3)).arrives = true then _ else _) = _
      split
      · rfl
      · exact staged
    · rw [both.2] at refused
      cases refused

end Upload

/--
An upload that fails leaves the object it was to replace if and only if that object was spared.

It is spared as long as the new body does not get into the cache, and hardly ever after that.
-/
theorem failed_upload_preserves_iff (svc : CacheService) (env : Nat → Moment) (w : World)
    (sound : w.cache.Sound) (upload : Upload) (obj : ObjectMetadata) (data : Bytes)
    (awaits : AwaitsArchive w upload.bucket upload.key obj data) (status : Status) (after : World)
    (failed : (start upload.request).run (machine svc env) w = some (.put (.error status), after)) :
    Preserved after upload.bucket upload.key obj data ↔
      upload.Spares svc env w obj data := by
  unfold Upload.Spares
  cases upload.failure_of_run svc env w sound failed with
  | unstaged outside kept metadata =>
    refine iff_of_true ⟨?_, ?_⟩ (.inl outside)
    · rw [metadata]
      exact awaits.recorded
    · rw [kept.view]
      exact awaits.staged
  | unanswered inside lost staged metadata =>
    constructor
    · intro preserved
      exact .inr ⟨Option.some.inj (staged.symm.trans preserved.staged), .inl lost⟩
    · rintro (outside | ⟨same, _⟩)
      · exact absurd inside outside
      · exact ⟨metadata ▸ awaits.recorded, staged.trans (congrArg some same)⟩
  | retracted inside answered recorded staged =>
    -- The record stays exactly if it is not replaced.
    have unchanged : after.metadata.objects.get upload.objectKey = some obj ↔
        ¬ upload.Replaces env w obj := by
      unfold Upload.Replaces
      rw [recorded]
      by_cases arrives : (env (w.tick + 2)).arrives = true ∧
          w.metadata.buckets.containsKey upload.bucket = true
      · rw [if_pos arrives]
        simp [arrives]
      · rw [if_neg arrives]
        refine iff_of_true awaits.recorded fun replaces => arrives ⟨replaces.1, replaces.2.1⟩
    constructor
    · intro preserved
      have left := staged.symm.trans preserved.staged
      cases deleted : (env (w.tick + 3)).arrives with
      | true => simp [deleted] at left
      | false =>
        simp only [deleted] at left
        exact .inr ⟨Option.some.inj left, .inr ⟨unchanged.mp preserved.recorded, rfl⟩⟩
    · rintro (outside | ⟨same, lost | ⟨kept, unreached⟩⟩)
      · exact absurd inside outside
      · simp [answered] at lost
      · refine ⟨unchanged.mpr kept, ?_⟩
        rw [unreached] at staged
        exact staged.trans (congrArg some same)

omit [Sha256]

/-- An upload over the first one, with a longer body. -/
def secondUpload : Upload := ⟨"docs", "a", [98, 98], none⟩

/-- The record of the first upload. -/
def firstObject : ObjectMetadata :=
  letI := shortDigests
  uploadedObject "docs" "a" 1 (sha256Hex [97]) none ⟨0, 0⟩

theorem stagedWorld_awaits :
    @AwaitsArchive shortDigests stagedWorld "docs" "a" firstObject [97] := by
  let := shortDigests
  refine ⟨?_, rfl, ?_, rfl, rfl⟩
  · rw [stagedWorld, oneTapeAfter]
    rfl
  · decide +kernel

theorem stagedWorld_sound : stagedWorld.cache.Sound := by
  rw [stagedWorld]
  exact @InOrder.sound shortDigests _ (oneTapeAfter_inOrder _ _)

/-- How the second upload ends when one call never arrives. -/
def secondUploadLosing (spot : Nat) : Option (Outcome × World) :=
  letI := shortDigests
  (start secondUpload.request).run
    (machine (.even (2 ^ 30)) (lostAt spot (.unavailable "connection reset"))) stagedWorld

/-- The bytes that are left in staging if an upload has failed. -/
def leftStaged : Option (Outcome × World) → Option (Option Bytes)
  | some (.put (.error _), after) =>
    some ((after.cache.view .staging ⟨"docs", "a", none⟩).map Prod.snd)
  | _ => none

theorem exists_of_leftStaged {ended : Option (Outcome × World)} {left : Option Bytes}
    (found : leftStaged ended = some left) :
    ∃ status after, ended = some (.put (.error status), after) ∧
      (after.cache.view .staging ⟨"docs", "a", none⟩).map Prod.snd = left := by
  unfold leftStaged at found
  split at found
  · exact ⟨_, _, rfl, Option.some.inj found⟩
  · cases found

/-- A second upload whose body never arrives leaves the first one as it is. -/
theorem failed_upload_preserves_unstaged :
    ∃ status after, secondUploadLosing 3 = some (.put (.error status), after) ∧
      Preserved after "docs" "a" firstObject [97] := by
  have kept : leftStaged (secondUploadLosing 3) = some (some [97]) := by decide +kernel
  obtain ⟨status, after, failed, _⟩ := exists_of_leftStaged kept
  refine ⟨status, after, failed, ?_⟩
  let := shortDigests
  rw [secondUploadLosing] at failed
  apply (failed_upload_preserves_iff _ _ stagedWorld stagedWorld_sound secondUpload
    firstObject [97] stagedWorld_awaits status after failed).mpr
  -- The body is the call that never arrives.
  have tick : stagedWorld.tick = 3 := by decide +kernel
  refine .inl fun enters => ?_
  have arrives := enters.1
  rw [tick] at arrives
  cases arrives

/-- An upload whose record never arrives deletes the bytes of the object it was to replace. -/
theorem failed_upload_deletes_bytes :
    @AwaitsArchive shortDigests stagedWorld "docs" "a" firstObject [97] ∧
      ∃ status after, secondUploadLosing 5 = some (.put (.error status), after) ∧
        ¬ Preserved after "docs" "a" firstObject [97] := by
  have deleted : leftStaged (secondUploadLosing 5) = some none := by decide +kernel
  obtain ⟨status, after, failed, left⟩ := exists_of_leftStaged deleted
  refine ⟨stagedWorld_awaits, status, after, failed, fun preserved => ?_⟩
  have staged := preserved.staged
  rw [left] at staged
  cases staged

end ColdStore.Scheduler
