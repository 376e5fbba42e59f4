import ColdStore.Metadata.State
import ColdStore.Rust.LittleEndian

/-! The catalogue written as one byte string, nine sections of length-prefixed messages. -/

namespace ColdStore

open Rust

/-- How the protocol buffer library writes and reads one type of message. -/
structure Codec (M : Type) where
  encodeToVec : M → Bytes
  decode : Bytes → Except String M

/-- The codecs of the nine message types the catalogue stores. -/
structure MessageCodecs where
  objectMetadata : Codec ObjectMetadata
  bucketInfo : Codec BucketInfo
  archiveBundle : Codec ArchiveBundle
  archiveTask : Codec ArchiveTask
  recallTask : Codec RecallTask
  tapeInfo : Codec TapeInfo
  schedulerWorkerInfo : Codec SchedulerWorkerInfo
  cacheWorkerInfo : Codec CacheWorkerInfo
  tapeWorkerInfo : Codec TapeWorkerInfo

/-- The ten octets of `COLDMETA2` and a line feed. -/
def snapshotMagic : Bytes := [67, 79, 76, 68, 77, 69, 84, 65, 50, 10]

def maxSnapshotMessagesPerSection : Nat := 1000000

def maxSnapshotMessageBytes : Nat := 64 * 1024 * 1024

variable {M : Type}

/-- A message behind its length. -/
def frame (message : Bytes) : Bytes := toLeBytes 8 message.length ++ message

/-- A section is the number of its messages and the messages, each behind its length. -/
def writeMessages (codec : Codec M) (messages : List M) : Bytes :=
  let encoded := messages.map codec.encodeToVec
  toLeBytes 8 encoded.length ++ encoded.flatMap frame

/-- Read eight octets as a number and return what follows them. -/
def readU64 (cursor : Bytes) : Except String (Nat × Bytes) := do
  ensure (8 ≤ cursor.length) "truncated metadata snapshot header"
  pure (fromLeBytes (cursor.take 8), cursor.drop 8)

/-- Read the announced number of messages and return what follows them. -/
def readCounted (codec : Codec M) : Nat → Bytes → Except String (List M × Bytes)
  | 0, cursor => pure ([], cursor)
  | count + 1, cursor => do
    let (len, cursor) ← readU64 cursor
    ensure (len ≤ maxSnapshotMessageBytes) "metadata snapshot message is too large"
    ensure (len ≤ cursor.length) "truncated metadata snapshot message"
    let message ← codec.decode (cursor.take len)
    let (messages, cursor) ← readCounted codec count (cursor.drop len)
    pure (message :: messages, cursor)

/-- Read one section and return what follows it. -/
def readMessages (codec : Codec M) (cursor : Bytes) : Except String (List M × Bytes) := do
  let (count, cursor) ← readU64 cursor
  ensure (count ≤ maxSnapshotMessagesPerSection)
    "metadata snapshot section contains too many messages"
  readCounted codec count cursor

/-- Write the nine maps in a fixed order, each in its own iteration order. -/
def encodeSnapshot (codecs : MessageCodecs) (s : MetadataState) : Bytes :=
  snapshotMagic
    ++ (writeMessages codecs.objectMetadata s.objects.values
    ++ (writeMessages codecs.bucketInfo s.buckets.values
    ++ (writeMessages codecs.archiveBundle s.archiveBundles.values
    ++ (writeMessages codecs.archiveTask s.archiveTasks.values
    ++ (writeMessages codecs.recallTask s.recallTasks.values
    ++ (writeMessages codecs.tapeInfo s.tapes.values
    ++ (writeMessages codecs.schedulerWorkerInfo s.schedulerWorkers.values
    ++ (writeMessages codecs.cacheWorkerInfo s.cacheWorkers.values
    ++ writeMessages codecs.tapeWorkerInfo s.tapeWorkers.values))))))))

/-- Store every record of a section under its own identity. -/
def collectBy {κ : Type} [DecidableEq κ] (identity : M → κ) (messages : List M) : HashMap κ M :=
  .collect (messages.map fun message => (identity message, message))

/-- Read the nine sections back and rebuild the maps. -/
def decodeSnapshot (codecs : MessageCodecs) (bytes : Bytes) : Except String MetadataState := do
  ensure (snapshotMagic.isPrefixOf bytes) "invalid metadata snapshot magic"
  let cursor := bytes.drop snapshotMagic.length
  let (objects, cursor) ← readMessages codecs.objectMetadata cursor
  let (buckets, cursor) ← readMessages codecs.bucketInfo cursor
  let (archiveBundles, cursor) ← readMessages codecs.archiveBundle cursor
  let (archiveTasks, cursor) ← readMessages codecs.archiveTask cursor
  let (recallTasks, cursor) ← readMessages codecs.recallTask cursor
  let (tapes, cursor) ← readMessages codecs.tapeInfo cursor
  let (schedulerWorkers, cursor) ← readMessages codecs.schedulerWorkerInfo cursor
  let (cacheWorkers, cursor) ← readMessages codecs.cacheWorkerInfo cursor
  let (tapeWorkers, cursor) ← readMessages codecs.tapeWorkerInfo cursor
  ensure cursor.isEmpty "trailing bytes in metadata snapshot"
  pure {
    objects := collectBy ObjectMetadata.objectKey objects,
    buckets := collectBy BucketInfo.name buckets,
    archiveBundles := collectBy ArchiveBundle.id archiveBundles,
    archiveTasks := collectBy ArchiveTask.id archiveTasks,
    recallTasks := collectBy RecallTask.id recallTasks, tapes := collectBy TapeInfo.id tapes,
    schedulerWorkers := collectBy SchedulerWorkerInfo.nodeId schedulerWorkers,
    cacheWorkers := collectBy CacheWorkerInfo.nodeId cacheWorkers,
    tapeWorkers := collectBy TapeWorkerInfo.nodeId tapeWorkers }

end ColdStore
