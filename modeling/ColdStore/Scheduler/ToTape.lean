import ColdStore.Scheduler.Requests
import ColdStore.Tape.Counting

/-! Uploads that are staged one after the other and then archived to a blank tape. -/

namespace ColdStore.Scheduler

open Rust Process Program CacheState SimulatorState

/-- Uploads to different places, in buckets whose names end before the first slash. -/
structure Apart (uploads : List Upload) : Prop where
  distinct : (uploads.map fun upload => (upload.bucket, upload.key)).Nodup
  slashFree : ∀ upload ∈ uploads, '/' ∉ upload.bucket.toList

/-- The bytes of all uploads. -/
def totalSize (uploads : List Upload) : Nat := (uploads.map fun upload => upload.body.length).sum

/-- What each upload takes in the cache. -/
def weights (uploads : List Upload) : List (CacheKey × Nat) :=
  uploads.map fun upload => (upload.cacheKey, upload.body.length)

section

variable {uploads : List Upload} {first second : Upload}

theorem totalSize_eq (uploads : List Upload) :
    ((weights uploads).map Prod.snd).sum = totalSize uploads := by
  rw [weights, List.map_map]
  rfl

theorem mem_weights {key : CacheKey} {size : Nat} :
    (key, size) ∈ weights uploads ↔
      ∃ upload ∈ uploads, upload.cacheKey = key ∧ upload.body.length = size := by
  simp [weights]

/-- Uploads to the same place are the same. -/
theorem Apart.eq_of_place (apart : Apart uploads) (left : first ∈ uploads)
    (right : second ∈ uploads)
    (same : (first.bucket, first.key) = (second.bucket, second.key)) : first = second :=
  List.inj_on_of_nodup_map apart.distinct left right same

/-- Uploads with the same name are the same, whatever the name begins with. -/
theorem Apart.eq_of_name (apart : Apart uploads) (left : first ∈ uploads)
    (right : second ∈ uploads) {front : String}
    (same : phase1Name front first.bucket first.key none =
      phase1Name front second.bucket second.key none) : first = second := by
  obtain ⟨bucket, key⟩ := phase1Name_inj (apart.slashFree _ left) (apart.slashFree _ right) same
  exact apart.eq_of_place left right (by rw [bucket, key])

/-- A map without entries has no values. -/
theorem values_eq_nil {κ ν : Type} [DecidableEq κ] {map : HashMap κ ν}
    (absent : ∀ key, map.get key = none) : map.values = [] := by
  have empty := (HashMap.isEmpty_iff map).mpr absent
  simpa [HashMap.isEmpty, HashMap.values] using empty

/-- As long as each upload is in the cache at most once, there is room for one that is not. -/
theorem room_left [Sha256] {index : CacheIndex} {upload : Upload} (mem : upload ∈ uploads)
    (kind : CacheCategory)
    (inside : ∀ key entry, (index.entries kind).get key = some entry →
      (key, entry.xattrs.size) ∈ weights uploads)
    (absent : (index.entries kind).get upload.cacheKey = none)
    (others : ∀ other, other ≠ kind → ∀ key, (index.entries other).get key = none) :
    index.sizes.sum + upload.body.length ≤ totalSize uploads := by
  let entry : StoredEntry := ⟨0, upload.description.xattrs 0⟩
  -- The upload would fit on the list beside those that are there.
  have listed : ∀ key value,
      ((index.entries kind).insert upload.cacheKey entry).get key = some value →
        (key, value.xattrs.size) ∈ weights uploads := by
    intro key value found
    rw [HashMap.get_insert] at found
    split at found
    · rename_i same
      obtain rfl := Option.some.inj found
      exact mem_weights.mpr ⟨upload, mem, same.symm, rfl⟩
    · exact inside key value found
  have bounded := HashMap.sum_values_le _ listed
  have beside := ((HashMap.values_insert_absent _ entry absent).map
    fun entry => entry.xattrs.size).sum_nat
  have whole : index.sizes.sum =
      ((index.entries kind).values.map fun entry => entry.xattrs.size).sum := by
    cases kind with
    | staging =>
      have none : index.restored.values = [] := values_eq_nil (others .restored (by decide))
      simp [CacheIndex.sizes, CacheIndex.entries, none]
    | restored =>
      have none : index.staging.values = [] := values_eq_nil (others .staging (by decide))
      simp [CacheIndex.sizes, CacheIndex.entries, none]
  have size : entry.xattrs.size = upload.body.length := rfl
  rw [List.map_cons, List.sum_cons, size] at beside
  rw [totalSize_eq] at bounded
  omega

end

/-- Uploads that go to one tape, in a deployment that loses no call and has room for all of them. -/
structure TapePlan (svc : CacheService) where
  env : Nat → Moment
  calm : Calm env
  uploads : List Upload
  apart : Apart uploads
  storageBytes : Nat
  room : svc.RoomFor storageBytes (totalSize uploads)
  client : TapeArchiveClient
  index : Nat
  parsed : parseDriveId client.driveId = .ok ⟨.drive, index⟩

/-- The tape that the uploads go to. -/
abbrev TapePlan.tapeId {svc : CacheService} (plan : TapePlan svc) : String := plan.client.tapeId

variable {svc : CacheService} [Sha256]

/-- Some of the uploads have been staged and recorded, and nothing else has happened. -/
structure UploadsStaged (plan : TapePlan svc) (done : List Upload) (tapes : SimulatorState)
    (w : World) : Prop where
  inOrder : InOrder w
  accounted : w.cache.Accounted
  storage : w.cache.backend.maxSizeBytes = plan.storageBytes
  tape : w.tape = tapes
  locks : w.schedulers = fun _ => {}
  buckets : ∀ upload ∈ plan.uploads, w.metadata.buckets.containsKey upload.bucket = true
  unarchived : ∀ id, w.metadata.archiveTasks.get id = none
  unasked : ∀ id, w.metadata.recallTasks.get id = none
  unrestored : ∀ key, w.cache.findEntry key .restored = none
  staged : ∀ key entry, w.cache.findEntry key .staging = some entry →
    (key, entry.xattrs.size) ∈ weights done
  waits : ∀ upload ∈ done, ∃ obj, Awaits w upload.bucket upload.key obj upload.body ∧
    obj.restoreStatus = none

section

variable {plan : TapePlan svc} {done : List Upload} {tapes : SimulatorState}

omit [Sha256] in
/-- The buckets of a fresh catalogue exist. -/
theorem freshCatalogue_known {buckets : List String} {name : String} (listed : name ∈ buckets) :
    (freshCatalogue buckets).buckets.containsKey name = true := by
  -- A name that is listed or stored is stored in the end.
  have filled : ∀ (names : List String) (map : HashMap String BucketInfo),
      name ∈ names ∨ map.containsKey name = true →
        (names.foldl (fun map name => map.insert name { name }) map).containsKey name = true := by
    intro names
    induction names with
    | nil => exact fun map there => there.resolve_left (by simp)
    | cons other rest ih =>
      intro map there
      refine ih _ ?_
      by_cases same : name = other
      · exact Or.inr (by simp [HashMap.containsKey, same])
      · rcases there with inside | stored
        · exact Or.inl ((List.mem_cons.mp inside).resolve_left same)
        · exact Or.inr (by rw [HashMap.containsKey, HashMap.get_insert_ne _ _ same]; exact stored)
  exact filled buckets _ (Or.inl listed)

/-- Nothing is staged in a fresh deployment. -/
theorem fresh_staged {buckets : List String}
    (known : ∀ upload ∈ plan.uploads, upload.bucket ∈ buckets) (tapes : SimulatorState) :
    UploadsStaged plan [] tapes (.fresh buckets plan.storageBytes tapes) where
  inOrder := fresh_inOrder buckets plan.storageBytes tapes
  accounted := accounted_empty _ _
  storage := rfl
  tape := rfl
  locks := rfl
  buckets upload mem := freshCatalogue_known (known upload mem)
  unarchived _ := rfl
  unasked _ := rfl
  unrestored _ := rfl
  staged := by rintro _ _ ⟨⟩
  waits := by simp

/-- Everything in front of the rest has been staged and recorded. -/
def StagedBefore (plan : TapePlan svc) (tapes : SimulatorState) (rest : List Upload)
    (w : World) : Prop := ∃ done, done ++ rest = plan.uploads ∧ UploadsStaged plan done tapes w

/-- One more upload is staged and recorded. -/
theorem UploadsStaged.uploaded {upload : Upload} {before after : World}
    (apart : ∀ other ∈ done, (other.bucket, other.key) ≠ (upload.bucket, upload.key))
    (stage : UploadsStaged plan done tapes before) (uploaded : Uploaded upload before after)
    (inOrder : InOrder after) : UploadsStaged plan (done ++ [upload]) tapes after := by
  obtain ⟨now, admitted⟩ := uploaded.cache
  obtain ⟨obj, recorded, fresh, objects⟩ := uploaded.objects
  refine ⟨inOrder, admitted.accounted, admitted.maxSizeBytes.trans stage.storage,
    uploaded.tape.trans stage.tape, uploaded.schedulers.trans stage.locks,
    fun other mem => ?_, fun id => ?_, fun id => ?_, fun key => ?_, ?_, ?_⟩
  · rw [uploaded.buckets]
    exact stage.buckets other mem
  · rw [uploaded.tasks.archiveTasks]
    exact stage.unarchived id
  · rw [uploaded.tasks.recallTasks]
    exact stage.unasked id
  · refine Option.eq_none_iff_forall_ne_some.mpr fun entry found => ?_
    rcases admitted.entries _ _ _ found with ⟨kind, _⟩ | was
    · cases kind
    · exact Option.eq_none_iff_forall_ne_some.mp (stage.unrestored key) entry was
  · intro key entry found
    rcases admitted.entries _ _ _ found with ⟨_, rfl, same⟩ | was
    · rw [same]
      exact mem_weights.mpr ⟨upload, by simp, rfl, rfl⟩
    · obtain ⟨other, mem, same⟩ := mem_weights.mp (stage.staged _ _ was)
      exact mem_weights.mpr ⟨other, List.mem_append_left _ mem, same⟩
  · intro other mem
    -- Earlier uploads are at other places and keep what they have.
    rcases List.mem_append.mp mem with earlier | here
    · obtain ⟨older, awaits, unrestored⟩ := stage.waits other earlier
      have ne := apart other earlier
      refine ⟨older, ⟨?_, awaits.waits, awaits.size, awaits.checksum, ?_⟩, unrestored⟩
      · rw [objects, HashMap.get_insert_ne _ _ (by simpa [Upload.objectKey] using ne)]
        exact awaits.stored
      · obtain ⟨xattrs, served⟩ := awaits.served
        refine ⟨xattrs, ?_⟩
        rw [admitted.others _ _ (by simpa [Upload.cacheKey] using fun _ => ne) (by simp), served]
    · obtain rfl := List.mem_singleton.mp here
      refine ⟨obj, ⟨?_, recorded.storageClass, recorded.size, recorded.checksum, _,
        admitted.itself⟩, fresh⟩
      rw [objects]
      exact HashMap.get_insert_self _ _ _

end

section

variable {plan : TapePlan svc} {tapes : SimulatorState}

omit [Sha256] in
/-- A task that succeeds is reported so. -/
theorem report_achieves {env : Nat → Moment} {α : Type} {task : Task Status α}
    {post : α → World → Prop} {w : World}
    (succeeds : Succeeds (machine svc env) task post w) (report : Except Status α → Outcome) :
    (report <$> attempt task).Achieves (machine svc env)
      (fun outcome after => ∃ value, outcome = report (.ok value) ∧ post value after) w := by
  rw [map_eq_pure_bind]
  refine achieves_bind succeeds fun result after met => ?_
  obtain ⟨value, rfl, met⟩ := met
  exact ⟨value, rfl, met⟩

/-- With enough room for all of them, one more upload is staged. -/
theorem upload_achieves {upload : Upload} {rest : List Upload} {before : World}
    (stage : StagedBefore plan tapes (upload :: rest) before) :
    (start upload.request).Achieves (machine svc plan.env)
      (fun outcome after => outcome.Succeeded ∧ StagedBefore plan tapes rest after) before := by
  obtain ⟨done, split, stage⟩ := stage
  have mem : upload ∈ plan.uploads := by simp [← split]
  have earlier : ∀ other ∈ done, other ∈ plan.uploads := fun other there => by simp [← split, there]
  have others : ∀ other ∈ done, (other.bucket, other.key) ≠ (upload.bucket, upload.key) := by
    intro other there same
    have distinct := plan.apart.distinct
    rw [← split, List.map_append, List.map_cons, List.nodup_append] at distinct
    exact distinct.2.2 _ (List.mem_map_of_mem there) _ (List.mem_cons_self ..) same
  -- All that is staged so far belongs to the uploads, so there is room left for this one.
  have listed : ∀ key entry, before.cache.findEntry key .staging = some entry →
      (key, entry.xattrs.size) ∈ weights plan.uploads := by
    intro key entry found
    obtain ⟨other, there, same⟩ := mem_weights.mp (stage.staged key entry found)
    exact mem_weights.mpr ⟨other, earlier other there, same⟩
  have absent : before.cache.findEntry upload.cacheKey .staging = none := by
    refine Option.eq_none_iff_forall_ne_some.mpr fun entry found => ?_
    obtain ⟨other, there, same, _⟩ := mem_weights.mp (stage.staged _ entry found)
    exact others other there (by simpa [Upload.cacheKey] using same)
  have fits : before.cache.index.sizes.sum + upload.body.length ≤ totalSize plan.uploads := by
    refine room_left mem .staging listed absent fun other ne key => ?_
    cases other with
    | staging => exact absurd rfl ne
    | restored => exact stage.unrestored key
  have puts := putObject_succeeds plan.calm upload (stage.storage ▸ plan.room) stage.accounted
    absent fits (stage.buckets upload mem)
  refine ((start_upholds upload.request before).achieves stage.inOrder
    (report_achieves puts .put)).mono fun outcome after met => ?_
  obtain ⟨⟨value, rfl, uploaded⟩, inOrder⟩ := met
  refine ⟨rfl, done ++ [upload], by simpa using split, stage.uploaded others uploaded inOrder⟩

/-- With enough room for all of them, uploads to different places are staged one after the other. -/
theorem uploads_achieve {w : World} (stage : UploadsStaged plan [] tapes w) :
    (serveAll (plan.uploads.map Upload.request)).Achieves (machine svc plan.env)
      (fun outcomes after =>
        List.Forall₂ (fun _ outcome => outcome.Succeeded) plan.uploads outcomes ∧
          UploadsStaged plan plan.uploads tapes after) w := by
  have first : StagedBefore plan tapes plan.uploads w := ⟨[], rfl, stage⟩
  refine (serveAll_map_achieves (fun _ _ _ => upload_achieves) plan.uploads first).mono
    fun outcomes after met => ?_
  obtain ⟨succeeded, done, all, stage⟩ := met
  rw [List.append_nil] at all
  exact ⟨succeeded, all ▸ stage⟩

end

/-! The archive worker takes what is staged to the tape. -/

/-- A drive that is not leased holds a tape that was only written at its end. -/
def Filling (tapes : SimulatorState) (index : Nat) (tapeId : String) (bundles : List Bytes) : Prop :=
  ∃ tape, tapes.HoldsFree index tape bundles.length ∧ tape.Appended bundles ∧ tape.barcode = tapeId

/-- The catalogue says where on the tape an upload is, and what it is like. -/
structure OnTape (tapeId : String) (bundles : List Bytes) (upload : Upload)
    (obj : ObjectMetadata) : Prop where
  identity : obj.objectKey = upload.objectKey
  cold : obj.storageClass = StorageClass.cold.number
  archived : obj.archiveId = some (phase1BundleId upload.bucket upload.key none)
  tape : obj.tapeId = some tapeId
  offset : ∃ number, obj.tapeBlockOffset = some number ∧ number < 2 ^ 32 ∧
    bundles[number]? = some upload.body
  size : obj.size = upload.body.length
  checksum : obj.checksum = sha256Hex upload.body

theorem OnTape.more {tapeId : String} {bundles : List Bytes} {upload : Upload}
    {obj : ObjectMetadata} (onTape : OnTape tapeId bundles upload obj) (data : Bytes) :
    OnTape tapeId (bundles ++ [data]) upload obj := by
  obtain ⟨number, offset, small, stored⟩ := onTape.offset
  have inside := (List.getElem?_eq_some_iff.mp stored).1
  exact { onTape with
    offset := ⟨number, offset, small, by rw [List.getElem?_append_left inside, stored]⟩ }

/-- The listed uploads wait to be archived, and the others are on the tape. -/
structure Shelving (plan : TapePlan svc) (bundles : List Bytes) (lines : List StagingKeyEntry)
    (w : World) : Prop where
  accounted : w.cache.Accounted
  storage : w.cache.backend.maxSizeBytes = plan.storageBytes
  locks : w.schedulers = fun _ => {}
  unasked : ∀ id, w.metadata.recallTasks.get id = none
  unrestored : ∀ key, w.cache.findEntry key .restored = none
  filling : Filling w.tape plan.index plan.tapeId bundles
  count : bundles.length + lines.length ≤ plan.uploads.length
  named : ∀ line ∈ lines, ∃ upload ∈ plan.uploads, (upload.bucket, upload.key) = place line
  staged : ∀ key entry, w.cache.findEntry key .staging = some entry →
    ∃ line ∈ lines, key = ⟨line.bucket, line.key, none⟩
  waits : ∀ upload ∈ plan.uploads, (upload.bucket, upload.key) ∈ lines.map place →
    w.metadata.archiveTasks.get (phase1BundleId upload.bucket upload.key none) = none ∧
      ∃ obj, Awaits w upload.bucket upload.key obj upload.body ∧
        obj.objectKey = upload.objectKey ∧ obj.restoreStatus = none
  shelved : ∀ upload ∈ plan.uploads, (upload.bucket, upload.key) ∉ lines.map place →
    ∃ obj, w.metadata.objects.get upload.objectKey = some obj ∧
      OnTape plan.tapeId bundles upload obj ∧ obj.restoreStatus = none

section

variable {plan : TapePlan svc} {bundles : List Bytes} {line : StagingKeyEntry}
  {rest : List StagingKeyEntry} {before after : World}

/-- What a worker writes to the tape in its drive: one more bundle, numbered by those before it. -/
def WritesNext (client : TapeArchiveClient) (index : Nat) (tapes : SimulatorState) (data : Bytes)
    (write : TapeArchiveWrite) (later : SimulatorState) : Prop :=
  ∀ tape counter, tapes.HoldsFree index tape counter → tape.barcode = client.tapeId →
    write = ⟨client.tapeId, client.tapeSet, counter, (counter + 1) % 2 ^ 32, data.length⟩ ∧
      later.HoldsFree index (tape.appendData data).appendFilemark ((counter + 1) % 2 ^ 32)

/-- A listed upload that waits is archived, whatever else could become of it. -/
theorem Shelving.archived
    (shelving : Shelving plan bundles (line :: rest) before)
    (treated : Treated (WritesNext plan.client plan.index) line before after) :
    ∃ upload ∈ plan.uploads, upload.bucket = line.bucket ∧ upload.key = line.key ∧
      ∃ obj write, obj.objectKey = upload.objectKey ∧ obj.restoreStatus = none ∧
        Awaits before upload.bucket upload.key obj upload.body ∧
        WritesNext plan.client plan.index before.tape upload.body write after.tape ∧
        Archived upload.bucket upload.key (phase1BundleId upload.bucket upload.key none) obj
          upload.body write before after := by
  obtain ⟨upload, mem, here⟩ := shelving.named line (List.mem_cons_self ..)
  obtain ⟨untouched, obj, awaits, identity, fresh⟩ := shelving.waits upload mem
    (by rw [here]; exact List.mem_cons_self ..)
  obtain ⟨bucket, key⟩ := Prod.mk.inj here
  refine ⟨upload, mem, bucket, key, obj, ?_⟩
  cases treated with
  | cleaned other stored done =>
    rw [← bucket, ← key, awaits.stored, Option.some.injEq] at stored
    exact absurd awaits.waits (stored ▸ done)
  | skipped started =>
    obtain ⟨task, present, _⟩ := started
    rw [bundleOf, ← bucket, ← key, untouched] at present
    cases present
  | archived other data write again unclaimed wrote archived =>
    rw [← bucket, ← key] at again
    rw [bundleOf, ← bucket, ← key] at archived
    -- There is one record of the object, and one body is staged for it.
    obtain rfl := Option.some.inj (awaits.stored.symm.trans again.stored)
    obtain ⟨_, served⟩ := awaits.served
    obtain ⟨_, served'⟩ := again.served
    obtain ⟨_, rfl⟩ := Prod.mk.inj (Option.some.inj (served.symm.trans served'))
    exact ⟨write, identity, fresh, awaits, wrote, archived⟩

/-- The first listed upload is archived, behind the bundles that are on the tape. -/
theorem Shelving.treated (few : plan.uploads.length < 2 ^ 32)
    (distinct : ((line :: rest).map place).Nodup)
    (shelving : Shelving plan bundles (line :: rest) before)
    (treated : Treated (WritesNext plan.client plan.index) line before after)
    (locks : after.schedulers = before.schedulers) :
    ∃ data, Shelving plan (bundles ++ [data]) rest after := by
  obtain ⟨upload, mem, bucket, key, obj, write, identity, fresh, awaits, wrote, archived⟩ :=
    shelving.archived treated
  have here : (upload.bucket, upload.key) = place line := by rw [bucket, key, place]
  obtain ⟨tape, holds, appended, barcode⟩ := shelving.filling
  obtain ⟨rfl, later⟩ := wrote tape bundles.length holds barcode
  have count := shelving.count
  rw [List.length_cons] at count
  rw [Nat.mod_eq_of_lt (by omega)] at later
  rw [List.map_cons, List.nodup_cons] at distinct
  have sound := shelving.accounted.toSound
  -- The other uploads are at other places and have other names.
  have elsewhere : ∀ other ∈ plan.uploads, (other.bucket, other.key) ≠ place line →
      (other.bucket, other.key) ≠ (line.bucket, line.key) ∧
      phase1BundleId other.bucket other.key none ≠ phase1BundleId upload.bucket upload.key none := by
    intro other there ne
    refine ⟨ne, fun same => ne ?_⟩
    rw [← here, plan.apart.eq_of_name there mem same]
  obtain ⟨now, objects⟩ := archived.objects
  refine ⟨upload.body, {
    accounted := by rw [archived.cache]; exact shelving.accounted.deleteEntry _ _
    storage := by
      rw [archived.cache, deleteEntry_maxSizeBytes sound]
      exact shelving.storage
    locks := locks.trans shelving.locks
    unasked := by rw [archived.recallTasks]; exact shelving.unasked
    unrestored := fun key => by
      rw [archived.cache, deleteEntry_findEntry sound, if_neg (by simp)]
      exact shelving.unrestored key
    filling := ⟨_, by simpa using later, appended.append _, barcode⟩
    count := by rw [List.length_append, List.length_singleton]; omega
    named := fun other there => shelving.named other (List.mem_cons_of_mem _ there)
    staged := ?_
    waits := ?_
    shelved := ?_ }⟩
  · intro place entry found
    rw [archived.cache, deleteEntry_findEntry sound] at found
    split at found
    · cases found
    · rename_i other
      obtain ⟨listed, there, rfl⟩ := shelving.staged place entry found
      rcases List.mem_cons.mp there with rfl | later
      · exact absurd ⟨rfl, by rw [bucket, key]⟩ other
      · exact ⟨listed, later, rfl⟩
  · intro other there listed
    have ne : (other.bucket, other.key) ≠ place line := fun same =>
      distinct.1 (same ▸ listed)
    obtain ⟨far, name⟩ := elsewhere other there ne
    obtain ⟨untouched, older, waiting, known⟩ := shelving.waits other there
      (List.mem_cons_of_mem _ listed)
    exact ⟨(archived.tasks _ name).trans untouched, older, treated.awaits sound far waiting, known⟩
  · intro other there unlisted
    by_cases same : (other.bucket, other.key) = place line
    · obtain rfl := plan.apart.eq_of_place there mem (same.trans here.symm)
      have stored := (congrArg (fun map => map.get other.objectKey) objects).trans
        (HashMap.get_update_of_some _ _ awaits.stored)
      exact ⟨_, stored, ⟨identity, rfl, rfl, rfl, ⟨bundles.length, rfl, by omega, by simp⟩,
        awaits.size, awaits.checksum⟩, fresh⟩
    · obtain ⟨older, stored, onTape, known⟩ := shelving.shelved other there
        (by rw [List.map_cons, List.mem_cons, not_or]; exact ⟨same, unlisted⟩)
      refine ⟨older, ?_, onTape.more _, known⟩
      rw [treated.objects_get (by simpa [Upload.objectKey, place] using same)]
      exact stored

variable {lines : List StagingKeyEntry}

/-- A whole pass archives all listed uploads. -/
theorem Shelving.pass (few : plan.uploads.length < 2 ^ 32) {s : SchedulerState}
    (pass : Pass (WritesNext plan.client plan.index) s lines before after)
    (distinct : (lines.map place).Nodup) (shelving : Shelving plan bundles lines before) :
    ∃ all, Shelving plan all [] after := by
  induction pass generalizing bundles with
  | nil w => exact ⟨bundles, shelving⟩
  | busy active =>
    -- No other worker is at any object.
    rw [Taken, shelving.locks] at active
    cases active
  | treated treated locks pass ih =>
    obtain ⟨data, next⟩ := shelving.treated few distinct treated locks
    exact ih (List.nodup_cons.mp distinct).2 next

theorem Shelving.of_idle (shelving : Shelving plan bundles lines before)
    (idle : Idle before after) : Shelving plan bundles lines after := by
  obtain ⟨metadata, cache, tape, schedulers, tick⟩ := after
  obtain ⟨⟨rfl, rfl, rfl⟩, rfl⟩ := idle
  refine { shelving with waits := fun upload mem listed => ?_ }
  obtain ⟨untouched, obj, awaits, known⟩ := shelving.waits upload mem listed
  exact ⟨untouched, obj, { awaits with }, known⟩

/-- Once everything is staged, a listing that is long enough has a line for each upload. -/
theorem UploadsStaged.shelving {tapes : SimulatorState} {limit : Nat}
    (covers : plan.uploads.length ≤ limit) (blank : Filling tapes plan.index plan.tapeId [])
    (stage : UploadsStaged plan plan.uploads tapes before) :
    Shelving plan [] (before.cache.listStagingKeys limit none).entries before := by
  have size : before.cache.index.staging.len ≤ plan.uploads.length := by
    simpa [HashMap.len, weights] using (before.cache.index.staging.entries_subperm stage.staged).length_le
  -- The listing is long enough to hold every staged object.
  have enough : before.cache.index.staging.len ≤ if limit = 0 then u64Max else limit := by
    split <;> omega
  have listed : ∀ upload ∈ plan.uploads, ∃ entry, stagingKeyEntry upload.cacheKey entry ∈
      (before.cache.listStagingKeys limit none).entries := by
    intro upload mem
    obtain ⟨obj, awaits, _⟩ := stage.waits upload mem
    obtain ⟨xattrs, served⟩ := awaits.served
    obtain ⟨entry, found, _⟩ := findEntry_of_view served
    exact ⟨entry, mem_listStagingKeys_of_few enough found⟩
  exact {
    accounted := stage.accounted
    storage := stage.storage
    locks := stage.locks
    unasked := stage.unasked
    unrestored := stage.unrestored
    filling := stage.tape ▸ blank
    count := by
      have : (before.cache.listStagingKeys limit none).entries.length ≤ _ :=
        listStagingKeys_length_le limit none
      rw [List.length_nil]
      omega
    named := by
      intro line there
      obtain ⟨key, entry, found, rfl⟩ := mem_listStagingKeys there
      obtain ⟨upload, mem, rfl, _⟩ := mem_weights.mp (stage.staged key entry found)
      exact ⟨upload, mem, rfl⟩
    staged := by
      intro key entry found
      obtain ⟨upload, mem, rfl, _⟩ := mem_weights.mp (stage.staged key entry found)
      exact ⟨_, mem_listStagingKeys_of_few enough found, rfl⟩
    waits := by
      intro upload mem _
      obtain ⟨obj, awaits, fresh⟩ := stage.waits upload mem
      exact ⟨stage.unarchived _, obj, awaits,
        (HashMap.keyed_iff.mp stage.inOrder.keys.objects _ _ awaits.stored).symm, fresh⟩
    shelved := by
      intro upload mem unlisted
      obtain ⟨entry, there⟩ := listed upload mem
      exact absurd (List.mem_map.mpr ⟨_, there, rfl⟩) unlisted }

end

/-- A batch that covers all uploads takes them to the blank tape in its drive. -/
theorem archive_achieves {plan : TapePlan svc} {tapes : SimulatorState} {limit : Nat}
    (covers : plan.uploads.length ≤ limit) (word : limit < 2 ^ 32) (s : SchedulerState)
    (blank : Filling tapes plan.index plan.tapeId []) {w : World}
    (stage : UploadsStaged plan plan.uploads tapes w) :
    (start (.archiveStagingBatch s plan.client limit)).Achieves (machine svc plan.env)
      (fun outcome after => outcome.Succeeded ∧ InOrder after ∧
        ∃ bundles, Shelving plan bundles [] after) w := by
  have shelving := stage.shelving covers blank
  let writer : TapeWriter (machine svc plan.env) plan.client :=
    loadedWriter plan.calm plan.client plan.index plan.parsed
  have ready : writer.ready w.tape := by
    obtain ⟨tape, holds, _, barcode⟩ := shelving.filling
    exact ⟨tape, _, holds, barcode⟩
  -- Every listed line is that of an upload, which waits with its staged body.
  have workable : ∀ line ∈ (w.cache.listStagingKeys limit none).entries, Workable w line := by
    intro line there
    obtain ⟨upload, mem, here⟩ := shelving.named line there
    obtain ⟨obj, awaits, _⟩ := stage.waits upload mem
    obtain ⟨bucket, key⟩ := Prod.mk.inj here
    rw [bucket, key] at awaits
    exact ⟨obj, awaits.stored, fun _ => ⟨upload.body, awaits⟩⟩
  have archives := archiveStagingBatch_succeeds plan.calm stage.inOrder s writer ready workable
  refine (report_achieves archives .archived).mono fun outcome after met => ?_
  obtain ⟨result, rfl, begun, idle, inOrder, _, pass⟩ := met
  have distinct : ((w.cache.listStagingKeys limit none).entries.map place).Nodup :=
    (listed_plain stage.inOrder limit).2
  exact ⟨rfl, inOrder, (shelving.of_idle idle).pass (by omega) pass distinct⟩

end ColdStore.Scheduler
