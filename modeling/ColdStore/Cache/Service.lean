import ColdStore.Cache.Store
import ColdStore.Proto.Records
import ColdStore.Proto.Stream
import ColdStore.Rust.Text
import Mathlib.Data.List.Sort

/-!
The procedures of `CacheService`.

All readings of the clock inside one procedure see the same second.
-/

namespace ColdStore

open Rust

/-- Description of an object put into staging. -/
structure PutStagingMeta where
  bucket : String
  key : String
  versionId : Option String
  size : Nat
  checksum : Option String
  contentType : Option String
  etag : Option String
  deriving DecidableEq

def PutStagingMeta.cacheKey (object : PutStagingMeta) : CacheKey :=
  ⟨object.bucket, object.key, object.versionId⟩

/-- The attributes a staged object is stored with. It never expires. -/
def PutStagingMeta.xattrs (object : PutStagingMeta) (now : Int) : CacheXattrs :=
  ⟨object.bucket, object.key, object.versionId, object.size, 0, now, now, 0, object.checksum,
    object.contentType, object.etag, .staging⟩

/-- Description of an object put back after a recall. -/
structure PutRestoredMeta where
  bucket : String
  key : String
  versionId : Option String
  size : Nat
  checksum : Option String
  contentType : Option String
  etag : Option String
  expireAt : Option Timestamp
  deriving DecidableEq

def PutRestoredMeta.cacheKey (object : PutRestoredMeta) : CacheKey :=
  ⟨object.bucket, object.key, object.versionId⟩

/-- The attributes a recalled object is stored with. -/
def PutRestoredMeta.xattrs (object : PutRestoredMeta) (now : Int) (expireAt : Timestamp) :
    CacheXattrs :=
  ⟨object.bucket, object.key, object.versionId, object.size, expireAt.seconds, now, now, 0,
    object.checksum, object.contentType, object.etag, .restored⟩

/-- Description of a restored object served to a reader. -/
structure CachedObjectMeta where
  size : Nat
  expireAt : Option Timestamp
  contentType : Option String
  etag : Option String
  checksum : Option String
  deriving DecidableEq

/-- Description of a staged object served to the archive worker. -/
structure StagingObjectMeta where
  bucket : String
  key : String
  versionId : Option String
  size : Nat
  checksum : Option String
  contentType : Option String
  etag : Option String
  stagedAt : Option Timestamp
  deriving DecidableEq

/-- One line of a staging listing. -/
structure StagingKeyEntry where
  bucket : String
  key : String
  versionId : Option String
  size : Nat
  stagedAt : Option Timestamp
  deriving DecidableEq

/-- A page of a staging listing. -/
structure ListStagingKeysResponse where
  entries : List StagingKeyEntry
  hasMore : Bool
  deriving DecidableEq

/-- Whether an object is readable, and until when. -/
structure ContainsResponse where
  exists_ : Bool
  expireAt : Option Timestamp
  deriving DecidableEq

/-- Bytes per message of a streamed answer. -/
def streamChunkSize : Nat := 64 * 1024

/-- A description followed by its data in pieces. -/
def streamObject {μ : Type} (description : μ) (data : Bytes) : List (Message μ) :=
  some (.metadata description) :: (chunks streamChunkSize data).map fun chunk => some (.data chunk)

/-- A time without a fraction of a second. -/
def timestampFromUnix (seconds : Int) : Timestamp := ⟨seconds, 0⟩

/-- Texts that tell a refusal for lack of room from other failures. -/
def capacityWords : List String :=
  ["capacity", "not enough", "not enough staging", "not enough restored", "exceeds",
    "no available", "insufficient"]

/-- A refusal for lack of room is told apart from other failures by its text. -/
def mapCapacityError (message : String) : Status :=
  if capacityWords.any fun word => containsText (toLowercase message) word then
    .resourceExhausted message
  else .internal message

variable {σ : Type} [CacheBackend σ]

/-- What a procedure answers, and the cache it leaves. -/
abbrev Answered (σ α : Type) := Except Status α × CacheState σ

namespace CacheService

variable (service : CacheService)

/-- Stage an uploaded object, and answer with the identifier it is stored by. -/
def putStaging (now : Int) (s : CacheState σ) (messages : List (Message PutStagingMeta)) :
    Answered σ String :=
  let request := do
    let (received, data) ← collectMessages "empty put_staging chunk" none [] messages
    let object ← okOr (.invalidArgument "missing staging metadata") received
    ensure (object.size = data.length)
      (.invalidArgument "staging object size does not match payload")
    .ok (object, data)
  match request with
  | .error status => (.error status, s)
  | .ok (object, data) =>
    match service.putBytes now s object.cacheKey data (object.xattrs now) with
    | (.error error, s) => (.error (mapCapacityError error), s)
    | (.ok storageId, s) => (.ok (decimal storageId), s)

/-- Keep a recalled object until it expires. -/
def putRestored (now : Int) (s : CacheState σ) (messages : List (Message PutRestoredMeta)) :
    Answered σ Unit :=
  let request := do
    let (received, data) ← collectMessages "empty put_restored chunk" none [] messages
    let object ← okOr (.invalidArgument "missing restored metadata") received
    ensure (object.size = data.length)
      (.invalidArgument "restored object size does not match payload")
    let expireAt ← okOr (.invalidArgument "restored object missing expire_at") object.expireAt
    .ok (object, data, expireAt)
  match request with
  | .error status => (.error status, s)
  | .ok (object, data, expireAt) =>
    match service.putBytes now s object.cacheKey data (object.xattrs now expireAt) with
    | (.error error, s) => (.error (mapCapacityError error), s)
    | (.ok _, s) => (.ok (), s)

end CacheService

namespace CacheState

variable (s : CacheState σ) (key : CacheKey)

/-- Delete an object of a category, whether or not it is there. -/
def deleteAnswered (kind : CacheCategory) :
    Answered σ Unit :=
  match s.deleteEntry key kind with
  | (.error error, s) => (.error (.internal error), s)
  | (.ok _, s) => (.ok (), s)

/-- Delete a restored object. -/
def delete : Answered σ Unit := deleteAnswered s key .restored

/-- Delete a staged object. -/
def deleteStaging : Answered σ Unit := deleteAnswered s key .staging

/-- The answer that streams a restored object. -/
def buildGetStream (entry : StoredEntry) :
    Except Status (List (Message CachedObjectMeta)) :=
  match CacheBackend.read s.backend entry.storageId with
  | .error error => .error (.internal error)
  | .ok data => .ok (streamObject ⟨entry.xattrs.size,
      some (timestampFromUnix entry.xattrs.expireAt), entry.xattrs.contentType, entry.xattrs.etag,
      entry.xattrs.checksum⟩ data)

/-- The answer that streams a staged object. -/
def buildStagingStream (entry : StoredEntry) :
    Except Status (List (Message StagingObjectMeta)) :=
  match CacheBackend.read s.backend entry.storageId with
  | .error error => .error (.internal error)
  | .ok data => .ok (streamObject ⟨entry.xattrs.bucket, entry.xattrs.key, entry.xattrs.versionId,
      entry.xattrs.size, entry.xattrs.checksum, entry.xattrs.contentType, entry.xattrs.etag,
      some (timestampFromUnix entry.xattrs.cachedAt)⟩ data)

/-- Serve a restored object. -/
def get (now : Int) (s : CacheState σ) (key : CacheKey) :
    Answered σ (List (Message CachedObjectMeta)) :=
  match readRestored now s key with
  | (.error status, s) => (.error status, s)
  | (.ok entry, s) => (buildGetStream s entry, s)

/-- Whether a restored object is readable, dropping it when it has expired. -/
def contains (now : Int) (s : CacheState σ) (key : CacheKey) :
    Answered σ ContainsResponse :=
  match s.findEntry key .restored with
  | none =>
    (.ok ⟨false, none⟩, { s with index := s.index.updateHitState false })
  | some entry =>
    if isExpiredAt entry.xattrs.expireAt now then
      let s := (s.deleteEntry key .restored).2
      (.ok ⟨false, none⟩, { s with index := s.index.updateHitState false })
    else
      (.ok ⟨true, some (timestampFromUnix entry.xattrs.expireAt)⟩,
        { s with index := s.index.updateHitState true })

/-- Serve a staged object. -/
def getStaging :
    Except Status (List (Message StagingObjectMeta)) :=
  match s.findEntry key .staging with
  | none => .error (.notFound "staging object not found")
  | some entry => buildStagingStream s entry

/-- The line a staged object is listed by. -/
def stagingKeyEntry (entry : StoredEntry) : StagingKeyEntry :=
  ⟨key.bucket, key.key, key.versionId, entry.xattrs.size,
    some (timestampFromUnix entry.xattrs.cachedAt)⟩

/-- List staged objects after a cursor, in cursor order. A limit of zero is no limit. -/
def listStagingKeys (limit : Nat) (after : Option String) :
    ListStagingKeysResponse :=
  let limit := if limit = 0 then u64Max else limit
  let entries := (s.index.staging.entries.filter fun entry =>
    after.getD "" < entry.1.asCursor).insertionSort
      fun left right => left.1.asCursor ≤ right.1.asCursor
  ⟨(entries.take limit).map fun entry => stagingKeyEntry entry.1 entry.2, entries.length > limit⟩

end CacheState

end ColdStore
