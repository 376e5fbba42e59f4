import ColdStore.Cache.Service
import ColdStore.Metadata.State

/-! What the scheduler decides without asking anyone: names, checksums, orders and retries. -/

namespace ColdStore

open Rust

/-- The hash function the scheduler is linked with. -/
class Sha256 where
  digest : Bytes → Vector UInt8 32

/-- A hash function given by the digests of some bodies. -/
@[reducible] def Sha256.ofTable (table : List (Bytes × Vector UInt8 32)) : Sha256 where
  digest body := (lookup body table).getD (Vector.replicate 32 0)

namespace Scheduler

/-- The digest of a body as lower-case hexadecimal digits. -/
def sha256Hex [Sha256] (body : Bytes) : String := lowerHex (Sha256.digest body).toList

/-- A text made of bucket and key, and of the version unless it is missing or empty. -/
def phase1Name (front bucket key : String) (versionId : Option String) : String :=
  match versionId.filter fun version => version ≠ "" with
  | some version => front ++ bucket ++ "/" ++ key ++ "#" ++ version
  | none => front ++ bucket ++ "/" ++ key

def phase1ArchiveItemKey (bucket key : String) (versionId : Option String) : String :=
  phase1Name "" bucket key versionId

def phase1BundleId (bucket key : String) (versionId : Option String) : String :=
  phase1Name "phase1-bundle:" bucket key versionId

def phase1RecallTaskId (bucket key : String) (versionId : Option String) : String :=
  phase1Name "phase1-recall:" bucket key versionId

def phase1RecallTaskKey (task : RecallTask) : String := task.id

/-- A text made of a bucket without a slash and a key tells both. -/
theorem phase1Name_inj {front bucket key bucket' key' : String} (plain : '/' ∉ bucket.toList)
    (plain' : '/' ∉ bucket'.toList)
    (same : phase1Name front bucket key none = phase1Name front bucket' key' none) :
    bucket = bucket' ∧ key = key' := by
  have chars := congrArg String.toList same
  simp only [phase1Name, Option.filter_none, String.toList_append, List.append_assoc,
    List.append_cancel_left_eq] at chars
  obtain ⟨buckets, keys⟩ := append_separator_inj plain plain' chars
  exact ⟨String.toList_inj.mp buckets, String.toList_inj.mp keys⟩

def capacityRejectPrefix : String := "capacity_reject:"

/-- The word behind the mark of a capacity refusal. -/
def capacityRejectReason (message : String) : Option String :=
  ((stripPrefix (trim message) capacityRejectPrefix).map fun rest => splitFirst rest ':').filter
    fun reason => reason ≠ ""

/-- Whether a recall that failed this way is worth another try. -/
def isRetriableRecallProcessingError (status : Status) : Bool :=
  match status.code with
  | .unavailable => true
  | .resourceExhausted =>
    capacityRejectReason status.message ∈ [some "staging_budget_exceeded",
      some "restored_budget_exceeded", some "global_capacity_exceeded",
      some "low_watermark_exceeded", some "no_eviction_candidate"]
  | _ => false

/-- Faster tiers come first, and unknown ones last. -/
def restoreTierRank (tier : Int) : Nat :=
  match tryFrom RestoreTier tier with
  | some .expedited => 0
  | some .standard => 1
  | some .bulk => 2
  | _ => 3

/-- Whether a recall task waits to be claimed. -/
def isPendingRecallTask (task : RecallTask) : Bool :=
  match tryFrom RestoreStatus task.status with
  | some .restorePending | some .restoreWaitingForMedia => true
  | _ => false

/-- What recall tasks are sorted by: tier, tape, place on the tape and second of creation. -/
def recallOrder (task : RecallTask) : Nat ×ₗ String ×ₗ Nat ×ₗ Nat ×ₗ Int :=
  -- A task without a time of creation comes before those that have one.
  let created : Nat ×ₗ Int := match task.createdAt with
    | none => toLex (0, 0)
    | some time => toLex (1, time.seconds)
  toLex (restoreTierRank task.tier, toLex (task.tapeId, toLex (task.tapeBlockOffset, created)))

/-- The order a batch takes recall tasks in. -/
def sortRecallTasks (tasks : List RecallTask) : List RecallTask :=
  tasks.insertionSort fun left right => recallOrder left ≤ recallOrder right

/-- A time some days ahead. The calendar of the source ends some ninety million days ahead. -/
def daysFromNow (now : Timestamp) (days : Nat) : Timestamp :=
  { now with seconds := now.seconds + days * 86400 }

/-- Whether a recorded checksum, with or without its mark, is the computed one. -/
def checksumMatches (expected computedHex : String) : Bool :=
  let expected := trim expected
  let digits := ((stripPrefix expected "sha256:").or (stripPrefix expected "SHA256:")).getD expected
  eqIgnoreAsciiCase digits computedHex

/-- A staged object as the archive worker reads it. -/
structure Phase1StagedObject where
  description : StagingObjectMeta
  data : Bytes
  deriving DecidableEq

/-- A version id the way it is printed for people, when no character of it needs escaping. -/
def debugVersion : Option String → String
  | none => "None"
  | some version => "Some(\"" ++ version ++ "\")"

/-- Check that a staged object is the one the catalogue describes. -/
def validateStagedObjectMatchesMetadata [Sha256] (obj : ObjectMetadata)
    (staged : Phase1StagedObject) : Except Status Unit := do
  let name := obj.bucket ++ "/" ++ obj.key
  ensure (staged.description.bucket = obj.bucket ∧ staged.description.key = obj.key ∧
      staged.description.versionId = obj.versionId)
    (.dataLoss ("staging identity mismatch: cache returned " ++ staged.description.bucket ++ "/" ++
      staged.description.key ++ "#" ++ debugVersion staged.description.versionId ++
      " for metadata object " ++ name ++ "#" ++ debugVersion obj.versionId))
  ensure (staged.description.size = staged.data.length)
    (.dataLoss ("staging size mismatch for " ++ name ++ ": meta=" ++
      decimal staged.description.size ++ ", bytes=" ++ decimal staged.data.length))
  ensure (obj.size = staged.data.length)
    (.dataLoss ("metadata size " ++ decimal obj.size ++ " for " ++ name ++
      " does not match staging bytes " ++ decimal staged.data.length))
  let computed := sha256Hex staged.data
  -- A checksum that is missing or blank is not compared.
  let present := staged.description.checksum.filter fun checksum => trim checksum ≠ ""
  ensure (present.all fun checksum => checksumMatches checksum computed)
    (.dataLoss ("staging checksum mismatch for " ++ name))
  let recorded := trim obj.checksum
  ensure (recorded = "" ∨ checksumMatches recorded computed)
    (.dataLoss ("metadata checksum mismatch for " ++ name))

/-- A checksum as the hash function prints it: there, not blank, unmarked and in lower case. -/
structure WrittenPlainly (checksum : String) : Prop where
  present : checksum ≠ ""
  trimmed : trim checksum = checksum
  unmarked : stripPrefix checksum "sha256:" = none
  unmarkedUpper : stripPrefix checksum "SHA256:" = none
  lower : ∀ c ∈ checksum.toList, c.toLower = c

/-- A computed digest is left alone by everything that is done to a checksum. -/
theorem sha256Hex_writtenPlainly [Sha256] (data : Bytes) : WrittenPlainly (sha256Hex data) where
  present empty := by
    -- Thirty-two bytes are sixty-four digits.
    have length := congrArg (fun text => text.toList.length) empty
    simp [sha256Hex, lowerHex] at length
  trimmed := trim_of_plain fun c mem => (lowerHex_plain mem).1
  unmarked := stripPrefix_of_head (by decide : "sha256:".toList = 's' :: "ha256:".toList)
    fun mem => (lowerHex_plain mem).2.1 rfl
  unmarkedUpper := stripPrefix_of_head (by decide : "SHA256:".toList = 'S' :: "HA256:".toList)
    fun mem => (lowerHex_plain mem).2.2 rfl
  lower _ mem := lowerHex_toLower mem

/-- A plainly written checksum is matched by the digest it says and by no other. -/
theorem WrittenPlainly.checksumMatches_iff [Sha256] {checksum : String}
    (plainly : WrittenPlainly checksum) (data : Bytes) :
    checksumMatches checksum (sha256Hex data) = true ↔ checksum = sha256Hex data := by
  simp only [checksumMatches, plainly.trimmed, plainly.unmarked, plainly.unmarkedUpper,
    Option.or_none, Option.getD_none]
  exact eqIgnoreAsciiCase_iff plainly.lower (sha256Hex_writtenPlainly data).lower

/-- Archiving compares identities, lengths, and the checksums that are not blank. -/
theorem validateStagedObject_eq_ok [Sha256] (obj : ObjectMetadata) (staged : Phase1StagedObject) :
    validateStagedObjectMatchesMetadata obj staged = .ok () ↔
      (staged.description.bucket = obj.bucket ∧ staged.description.key = obj.key ∧
        staged.description.versionId = obj.versionId) ∧
      staged.description.size = staged.data.length ∧ obj.size = staged.data.length ∧
      ((staged.description.checksum.filter fun checksum => trim checksum ≠ "").all
        fun checksum => checksumMatches checksum (sha256Hex staged.data)) = true ∧
      (trim obj.checksum = "" ∨
        checksumMatches (trim obj.checksum) (sha256Hex staged.data) = true) := by
  simp only [validateStagedObjectMatchesMetadata, bind_eq_ok, ensure_eq_ok, decide_eq_true_eq,
    exists_const]

/-- A staged object whose description, size and digest are those of the record is accepted. -/
theorem validateStagedObject_ok [Sha256] {obj : ObjectMetadata} {staged : Phase1StagedObject}
    (bucket : staged.description.bucket = obj.bucket) (key : staged.description.key = obj.key)
    (version : staged.description.versionId = obj.versionId)
    (described : staged.description.size = staged.data.length)
    (size : obj.size = staged.data.length)
    (digest : staged.description.checksum = some (sha256Hex staged.data))
    (checksum : obj.checksum = sha256Hex staged.data) :
    validateStagedObjectMatchesMetadata obj staged = .ok () := by
  have plainly := sha256Hex_writtenPlainly staged.data
  have matched := (plainly.checksumMatches_iff staged.data).mpr rfl
  rw [validateStagedObject_eq_ok]
  -- The digest is not blank, so it is compared with itself.
  have present : ((staged.description.checksum.filter fun checksum => trim checksum ≠ "").all
      fun checksum => checksumMatches checksum (sha256Hex staged.data)) = true := by
    simp [digest, plainly.trimmed, plainly.present, matched]
  have recorded : checksumMatches (trim obj.checksum) (sha256Hex staged.data) = true := by
    rw [checksum, plainly.trimmed, matched]
  exact ⟨⟨bucket, key, version⟩, described, size, present, .inr recorded⟩

end Scheduler

end ColdStore
