import ColdStore.Cache.Backend
import ColdStore.Rust.Iter
import Mathlib.Data.Prod.Lex
import Mathlib.Data.String.Basic

/-! The in-memory index of the cache, its capacity limits and the choice of what to evict. -/

namespace ColdStore

open Rust

/-- What a cached object is found by. -/
structure CacheKey where
  bucket : String
  key : String
  versionId : Option String
  deriving DecidableEq

/-- The text keys are listed and paged by. -/
def CacheKey.asCursor (key : CacheKey) : String :=
  key.bucket ++ "\u0000" ++ key.key ++ "\u0000" ++ key.versionId.getD ""

/-- Where an object is stored, and its attributes. -/
structure StoredEntry where
  storageId : Nat
  xattrs : CacheXattrs
  deriving DecidableEq

/-- Everything the cache knows without asking its backend. Its maps are iterated in the order they
were filled in, and its counters do not wrap around. -/
structure CacheIndex where
  staging : HashMap CacheKey StoredEntry := HashMap.empty
  restored : HashMap CacheKey StoredEntry := HashMap.empty
  usedCapacity : Nat := 0
  hitCount : Nat := 0
  missCount : Nat := 0
  evictCount : Nat := 0
  evictBytes : Nat := 0

namespace CacheIndex

variable (index : CacheIndex)

/-- The entries of one category. -/
def entries : CacheCategory → HashMap CacheKey StoredEntry
  | .staging => index.staging
  | .restored => index.restored

/-- The index with the entries of one category replaced. -/
def setEntries (kind : CacheCategory) (entries : HashMap CacheKey StoredEntry) : CacheIndex :=
  match kind with
  | .staging => { index with staging := entries }
  | .restored => { index with restored := entries }

/-- Bytes the staged objects take. -/
def stagingUsed : Nat := sumU64 (index.staging.values.map fun entry => entry.xattrs.size)

/-- Bytes the restored objects take. -/
def restoredUsed : Nat := sumU64 (index.restored.values.map fun entry => entry.xattrs.size)

/-- Count the bytes of all objects again. -/
def recomputeUsedCapacity : CacheIndex :=
  let all := index.staging.values ++ index.restored.values
  { index with usedCapacity := sumU64 (all.map fun entry => entry.xattrs.size) }

/-- Enter an object, and give back the entry it replaces. -/
def insertEntry (key : CacheKey) (entry : StoredEntry) : Option StoredEntry × CacheIndex :=
  let kind := entry.xattrs.category
  ((index.entries kind).get key,
    (index.setEntries kind ((index.entries kind).insert key entry)).recomputeUsedCapacity)

/-- Drop an object. -/
def removeEntry (kind : CacheCategory) (key : CacheKey) : CacheIndex :=
  (index.setEntries kind ((index.entries kind).remove key)).recomputeUsedCapacity

/-- Count a lookup. -/
def updateHitState (hit : Bool) : CacheIndex :=
  if hit then { index with hitCount := index.hitCount + 1 }
  else { index with missCount := index.missCount + 1 }

/-- An entry with an access noted. -/
def touched (now : Int) (entry : StoredEntry) : StoredEntry where
  storageId := entry.storageId
  xattrs := { entry.xattrs with
    lastAccessAt := now
    accessCount := entry.xattrs.accessCount + 1 }

/-- Note an access to an object. -/
def touchEntry (now : Int) (index : CacheIndex) (kind : CacheCategory) (key : CacheKey) :
    CacheIndex :=
  match (index.entries kind).get key with
  | none => index
  | some entry =>
    index.setEntries kind ((index.entries kind).update key (touched now entry))

/-- Whether an entry still names the storage object it was read with. -/
def stillStored (kind : CacheCategory) (key : CacheKey) (storageId : Nat) : Bool :=
  ((index.entries kind).get key).any fun entry => entry.storageId = storageId

end CacheIndex

/-- Why an object does not fit. -/
inductive CapacityRejectReason where
  | zeroCapacity
  | incomingLargerThanCapacity
  | noEvictionCandidate
  | stagingBudgetExceeded
  | restoredBudgetExceeded
  | globalCapacityExceeded
  | lowWatermarkExceeded
  deriving DecidableEq

/-- The word a reason is reported by. -/
def CapacityRejectReason.code : CapacityRejectReason → String
  | .zeroCapacity => "zero_capacity"
  | .incomingLargerThanCapacity => "incoming_larger_than_capacity"
  | .noEvictionCandidate => "no_eviction_candidate"
  | .stagingBudgetExceeded => "staging_budget_exceeded"
  | .restoredBudgetExceeded => "restored_budget_exceeded"
  | .globalCapacityExceeded => "global_capacity_exceeded"
  | .lowWatermarkExceeded => "low_watermark_exceeded"

/-- The failure of an object that does not fit. -/
def capacityRejectError (reason : CapacityRejectReason) (detail : String) : String :=
  "capacity_reject:" ++ reason.code ++ ": " ++ detail

/-- Which entry is evicted first: the one used longest ago, or the one used least. -/
inductive EvictionPolicy where
  | lru
  | lfu
  deriving DecidableEq

/-- The configuration a cache runs with. -/
structure CacheService where
  maxSizeBytes : Nat
  evictionPolicy : EvictionPolicy
  evictionBatchSize : Nat
  /-- The share of a capacity that may be used after an eviction, when there is such a limit.
  The source multiplies by a floating-point fraction here. -/
  effectiveLowWatermarkUsed : Nat → Option Nat
  stagingCapacityBytes : Nat
  restoredCapacityBytes : Nat

/-- A cache that gives each category half of its capacity and fills up to four fifths of it. -/
def CacheService.even (maxSizeBytes : Nat) : CacheService where
  maxSizeBytes := maxSizeBytes
  evictionPolicy := .lru
  evictionBatchSize := 1
  effectiveLowWatermarkUsed total := some (total * 4 / 5)
  stagingCapacityBytes := maxSizeBytes / 2
  restoredCapacityBytes := maxSizeBytes - maxSizeBytes / 2

/-- Use of the cache once an incoming object is stored, against its limits. -/
structure CapacityPressure where
  stagingAfter : Nat
  restoredAfter : Nat
  usedAfter : Nat
  stagingBudget : Nat
  restoredBudget : Nat
  lowWatermarkTarget : Option Nat
  totalCapacity : Nat

namespace CapacityPressure

variable (pressure : CapacityPressure)

/-- Staging would take more than its share. -/
def stagingPressure : Bool := pressure.stagingAfter > pressure.stagingBudget

/-- Restored objects would take more than their share. -/
def restoredPressure : Bool := pressure.restoredAfter > pressure.restoredBudget

/-- All objects together would pass the low watermark. -/
def globalWatermarkPressure : Bool :=
  pressure.lowWatermarkTarget.any fun target => pressure.usedAfter > target

/-- All objects together would not fit. -/
def totalPressure : Bool := pressure.usedAfter > pressure.totalCapacity

end CapacityPressure

namespace CacheService

variable (service : CacheService)

/-- The shares of staged and restored objects in a capacity. -/
def splitCapacityByStaticRatio (totalCapacity : Nat) : Nat × Nat :=
  let configuredBudgetTotal :=
    saturatingAdd service.stagingCapacityBytes service.restoredCapacityBytes
  if configuredBudgetTotal = 0 then (0, totalCapacity)
  else
    let stagingBudget :=
      saturatingMul totalCapacity service.stagingCapacityBytes / configuredBudgetTotal
    (stagingBudget, totalCapacity - stagingBudget)

/-- Some limit would be passed. -/
def shouldEvict (pressure : CapacityPressure) : Bool :=
  pressure.stagingPressure || pressure.restoredPressure || pressure.globalWatermarkPressure ||
    pressure.totalPressure

/-- At least one entry is tried per write. -/
def evictBatchSize : Nat := max service.evictionBatchSize 1

/-- Only restored objects are ever evicted, and never to make room in the staging share. -/
def chooseVictimCategory (pressure : CapacityPressure) (index : CacheIndex) :
    Option CacheCategory :=
  if pressure.stagingPressure then none
  else if !index.restored.isEmpty && (pressure.restoredPressure ||
      pressure.globalWatermarkPressure || pressure.totalPressure) then some .restored
  else none

/-- The entry to evict first. -/
def selectEvictionCandidate (index : CacheIndex) :
    CacheCategory → Option (CacheKey × StoredEntry)
  | .staging => none
  | .restored =>
    match service.evictionPolicy with
    | .lfu => minByKey (fun (key, entry) => toLex (entry.xattrs.accessCount,
        toLex (entry.xattrs.lastAccessAt, toLex (entry.xattrs.cachedAt,
          toLex (entry.xattrs.size, key.asCursor))))) index.restored.entries
    | .lru => minByKey (fun (_, entry) => toLex (entry.xattrs.lastAccessAt,
        toLex (entry.xattrs.cachedAt, toLex (entry.xattrs.size,
          toLex (entry.xattrs.accessCount, entry.xattrs.key))))) index.restored.entries

/-- Use of the cache once an incoming object of a category is stored. -/
def pressureWith (incomingSize : Nat) (kind : CacheCategory) (totalCapacity : Nat)
    (index : CacheIndex) : CapacityPressure where
  stagingAfter := saturatingAdd index.stagingUsed (if kind = .staging then incomingSize else 0)
  restoredAfter :=
    saturatingAdd index.restoredUsed (if kind = .restored then incomingSize else 0)
  usedAfter := saturatingAdd index.usedCapacity incomingSize
  stagingBudget := (service.splitCapacityByStaticRatio totalCapacity).1
  restoredBudget := (service.splitCapacityByStaticRatio totalCapacity).2
  lowWatermarkTarget := service.effectiveLowWatermarkUsed totalCapacity
  totalCapacity := totalCapacity

end CacheService

end ColdStore
