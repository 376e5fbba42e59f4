import ColdStore.Cache.ServiceLaws
import ColdStore.Metadata.ApplyLaws
import ColdStore.Scheduler.System

/-! An upload call by call: what is left of it after each answer, and what each call changes. -/

namespace ColdStore.Scheduler

open Rust Process CacheState

/-- What is uploaded, and where to. -/
structure Upload where
  bucket : String
  key : String
  body : Bytes
  contentType : Option String

/-- How far an upload has come. -/
inductive UploadPhase where
  | fresh
  | staged
  | recording (now : Timestamp)
  | retracting (status : Status)
  | ended (answer : Except Status PutObjectResponse)

/-- Whether the body is staged and not recorded yet. -/
def UploadPhase.Between : UploadPhase → Prop
  | .staged => True
  | .recording _ => True
  | _ => False

variable [Sha256]

namespace Upload

variable (upload : Upload)

def request : Request := .putObject upload.bucket upload.key upload.body upload.contentType

def cacheKey : CacheKey := ⟨upload.bucket, upload.key, none⟩

def objectKey : ObjectKey := ⟨upload.bucket, upload.key, none⟩

/-- The description a body is staged with. -/
def description : PutStagingMeta :=
  ⟨upload.bucket, upload.key, none, upload.body.length, some (sha256Hex upload.body),
    upload.contentType, some (sha256Hex upload.body)⟩

/-- The record of the uploaded object. -/
def object (now : Timestamp) : ObjectMetadata :=
  uploadedObject upload.bucket upload.key upload.body.length (sha256Hex upload.body)
    upload.contentType now

/-- What is left to do in a phase. -/
def program : UploadPhase → Sched Outcome
  | .fresh => start upload.request
  | .staged => .put <$> attempt
      (recordUpload upload.bucket upload.key upload.body upload.contentType)
  | .recording now => .call (.metadata (.apply (.putObject (upload.object now)))) fun answer =>
      match (answer : Except Status Unit) with
      | .ok () => .done (.put (.ok ⟨sha256Hex upload.body, ""⟩))
      | .error status =>
        .call (.cache (.deleteStaging upload.cacheKey)) fun _ => .done (.put (.error status))
  | .retracting status =>
      .call (.cache (.deleteStaging upload.cacheKey)) fun _ => .done (.put (.error status))
  | .ended answer => .done (.put answer)

/-- A fresh upload first stages its body. -/
theorem program_fresh :
    upload.program .fresh = .call (.cache (.putStaging
      [some (.metadata upload.description), some (.data upload.body)])) fun answer =>
        match (answer : Except Status String) with
        | .ok _ => upload.program .staged
        | .error status => upload.program (.ended (.error status)) := by
  simp only [program, start, request]
  show Program.call _ _ = Program.call _ _
  congr 1
  funext answer
  cases answer <;> rfl

/-- A staged upload reads the clock. -/
theorem program_staged :
    upload.program .staged = .call (.here .now) fun now => upload.program (.recording now) := by
  show Program.call _ _ = Program.call _ _
  congr 1
  funext now
  show Program.call _ _ = Program.call _ _
  congr 1
  funext answer
  cases answer <;> rfl

/-- The object a successful upload leaves in the catalogue. -/
structure Recorded (obj : ObjectMetadata) : Prop where
  key : obj.objectKey = upload.objectKey
  size : obj.size = upload.body.length
  checksum : obj.checksum = sha256Hex upload.body
  storageClass : obj.storageClass = StorageClass.coldPending.number

/-- The catalogue after an upload has been recorded in it. -/
structure Records (before after : MetadataState) : Prop where
  bucket : before.buckets.containsKey upload.bucket = true
  objects : ∃ obj, upload.Recorded obj ∧ after.objects = before.objects.insert upload.objectKey obj
  buckets : ∀ name, after.buckets.containsKey name = before.buckets.containsKey name

/-- Recording an upload succeeds in an existing bucket, and fails without a change otherwise. -/
theorem putObject_cases (clock : Nat) (now : Timestamp) (s : MetadataState) :
    (∃ after, applyCommand clock s (.putObject (upload.object now)) = (.ok (), after) ∧
      upload.Records s after) ∨ s.buckets.containsKey upload.bucket = false ∧ ∃ status,
      applyCommand clock s (.putObject (upload.object now)) = (.error status, s) := by
  simp only [applyCommand, ColdStore.putObject, object, uploadedObject]
  by_cases exists_ : s.buckets.containsKey upload.bucket = true
  · exact Or.inl ⟨_, if_pos exists_, exists_, ⟨_, ⟨rfl, rfl, rfl, rfl⟩,
      refreshBucketStats_objects _ _⟩, refreshBucketStats_containsKey _ _⟩
  · refine Or.inr ⟨by simpa using exists_, _, if_neg exists_⟩

/-- What the next call of an upload changes. In a calm moment a refusal leaves no trace. -/
inductive Step (calm : Prop) : UploadPhase → World → UploadPhase → World → Prop
  | stage {w after : World} {middle : CacheState HddBackend} {now : Int}
      (made : StagingKept w.cache middle)
      (cache : after.cache =
        middle.stored upload.cacheKey (upload.description.xattrs now) upload.body)
      (metadata : after.metadata = w.metadata) : Step calm .fresh w .staged after
  | refuse {w after : World} {status : Status}
      (quiet : calm → StagingKept w.cache after.cache ∧ after.metadata = w.metadata) :
      Step calm .fresh w (.ended (.error status)) after
  | clock {w after : World} {now : Timestamp} (cache : after.cache = w.cache)
      (metadata : after.metadata = w.metadata) : Step calm .staged w (.recording now) after
  | record {w after : World} {now : Timestamp} {answer : PutObjectResponse}
      (cache : after.cache = w.cache)
      (metadata : upload.Records w.metadata after.metadata) :
      Step calm (.recording now) w (.ended (.ok answer)) after
  | reject {w after : World} {now : Timestamp} {status : Status}
      (quiet : calm → after.cache = w.cache ∧ after.metadata = w.metadata ∧
        w.metadata.buckets.containsKey upload.bucket = false) :
      Step calm (.recording now) w (.retracting status) after
  | retract {w after : World} {status : Status}
      (quiet : calm → after.cache = (w.cache.deleteEntry upload.cacheKey .staging).2 ∧
        after.metadata = w.metadata) :
      Step calm (.retracting status) w (.ended (.error status)) after

variable (svc : CacheService) (env : Nat → Moment)

/-- Every call of an upload leads to its next phase. -/
theorem step (w : World) (sound : w.cache.Sound) {phase : UploadPhase} {c : Call}
    {next : Reply c → Sched Outcome} (calling : upload.program phase = .call c next) :
    ∃ after, next ((machine svc env).serve c w).1 = upload.program after ∧
      upload.Step ((env w.tick).fault = none) phase w after ((machine svc env).serve c w).2 := by
  cases phase with
  | fresh =>
    rw [program_fresh] at calling
    cases calling
    simp only [machine, serve, CacheCall.serve, delivered]
    cases fault : (env w.tick).fault with
    | some lost =>
      cases lost <;> exact ⟨.ended (.error _), rfl, .refuse (by simp)⟩
    | none =>
      rcases putStaging_cases svc sound (env w.tick).seconds upload.description
        upload.body rfl with ⟨id, middle, kept, put⟩ | ⟨status, after, kept, put⟩
      · simp only [put]
        exact ⟨_, rfl, .stage kept rfl rfl⟩
      · simp only [put]
        exact ⟨_, rfl, .refuse fun _ => ⟨kept, rfl⟩⟩
  | staged =>
    rw [program_staged] at calling
    cases calling
    exact ⟨_, rfl, .clock rfl rfl⟩
  | recording now =>
    cases calling
    simp only [machine, serve, MetadataCall.serve, delivered]
    cases fault : (env w.tick).fault with
    | some lost =>
      cases lost with
      | unreached status | unanswered status => exact ⟨.retracting status, rfl, .reject (by simp)⟩
    | none =>
      rcases upload.putObject_cases (env w.tick).seconds now w.metadata with
        ⟨after, put, records⟩ | ⟨missing, status, put⟩
      · simp only [put]
        exact ⟨.ended (.ok ⟨sha256Hex upload.body, ""⟩), rfl, .record rfl records⟩
      · simp only [put]
        exact ⟨.retracting status, rfl, .reject fun _ => ⟨rfl, rfl, missing⟩⟩
  | retracting status =>
    cases calling
    refine ⟨.ended (.error status), rfl, .retract fun calm => ?_⟩
    simp only [machine, serve, CacheCall.serve, delivered, calm, deleteStaging_eq sound]
    exact ⟨trivial, trivial⟩
  | ended answer => cases calling

end Upload

end ColdStore.Scheduler
