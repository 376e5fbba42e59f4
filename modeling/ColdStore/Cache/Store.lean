import ColdStore.Cache.Index

/-! Objects enter and leave the cache: writes with their evictions, deletions and lookups. -/

namespace ColdStore

open Rust

/-- The index of a cache and the storage below it. -/
structure CacheState (σ : Type) where
  backend : σ
  index : CacheIndex

/-- Whether an object may no longer be served. An expiry of zero or less never comes. -/
def isExpiredAt (expireAt now : Int) : Bool := 0 < expireAt ∧ expireAt ≤ now

variable {σ : Type} [CacheBackend σ]

namespace CacheState

variable (s : CacheState σ)

/-- The entry of a key. -/
def findEntry (key : CacheKey) (kind : CacheCategory) : Option StoredEntry :=
  (s.index.entries kind).get key

/-- Delete an object from storage and then from the index, reporting whether it was there. -/
def deleteEntry (key : CacheKey) (kind : CacheCategory) : Except String Bool × CacheState σ :=
  match s.findEntry key kind with
  | none => (.ok false, s)
  | some entry =>
    match CacheBackend.delete s.backend entry.storageId with
    | (.error error, backend) => (.error error, { s with backend })
    | (.ok (), backend) =>
      if s.index.stillStored kind key entry.storageId then
        (.ok true, ⟨backend, s.index.removeEntry kind key⟩)
      else (.ok false, { s with backend })

/-- Delete objects one after the other, whether or not each deletion succeeds. -/
def deleteAll (kind : CacheCategory) (keys : List CacheKey) : CacheState σ :=
  keys.foldl (fun s key => (s.deleteEntry key kind).2) s

/-- Delete every expired restored object but one. -/
def reclaimExpiredRestoredExcept (now : Int) (s : CacheState σ) (skip : Option CacheKey) :
    CacheState σ :=
  let others := s.index.restored.entries.filter fun entry => skip ≠ some entry.1
  let expired := others.filter fun entry => isExpiredAt entry.2.xattrs.expireAt now
  s.deleteAll .restored (expired.map Prod.fst)

/-- Enter a written object, and delete the storage object it replaces as far as that succeeds. -/
def replaceEntry (key : CacheKey) (entry : StoredEntry) : CacheState σ :=
  let (previous, index) := s.index.insertEntry key entry
  match previous with
  | none => { s with index }
  | some previous =>
    if previous.storageId ≠ entry.storageId then
      ⟨(CacheBackend.delete s.backend previous.storageId).2, index⟩
    else { s with index }

end CacheState

namespace CacheService

variable (service : CacheService)

/-- What the objects take and the backend has left, at most the configured size. -/
def effectiveTotalCapacity (s : CacheState σ) : Except String Nat :=
  (CacheBackend.availableBytes s.backend).map fun availableBytes =>
    min (saturatingAdd s.index.usedCapacity availableBytes) service.maxSizeBytes

/-- Refuse an object that no eviction could make room for. -/
def fitsCapacity (size totalCapacity : Nat) : Except String Unit :=
  if totalCapacity = 0 then .error (capacityRejectError .zeroCapacity "cache capacity is zero")
  else if size > totalCapacity then
    .error (capacityRejectError .incomingLargerThanCapacity "incoming object exceeds cache capacity")
  else .ok ()

/-- Refuse an object larger than the whole cache. -/
def ensureObjectSizeWithinTotalCapacity (s : CacheState σ) (objectSize : Nat) :
    Except String Unit := do
  fitsCapacity objectSize (← service.effectiveTotalCapacity s)

/-- Take a victim out of the index and out of storage; a failed deletion puts it back. -/
def evict (s : CacheState σ) (kind : CacheCategory) (key : CacheKey)
    (victim : StoredEntry) : Except String Unit × CacheState σ :=
  let counted := { s.index with
    evictCount := s.index.evictCount + 1
    evictBytes := s.index.evictBytes + victim.xattrs.size }
  let index := counted.removeEntry kind key
  match CacheBackend.delete s.backend victim.storageId with
  | (.ok (), backend) => (.ok (), ⟨backend, index⟩)
  | (.error error, backend) =>
    let entries := (index.entries kind).insert key victim
    (.error error, ⟨backend, (index.setEntries kind entries).recomputeUsedCapacity⟩)

/-- Evict until no limit would be passed, nothing may be evicted or the rounds are used up.
Only in the first case and on a failure is there an answer already. -/
def evictRounds (incomingSize : Nat) (kind : CacheCategory) (totalCapacity : Nat) :
    Nat → CacheState σ → Option (Except String Unit) × CacheState σ
  | 0, s => (none, s)
  | rounds + 1, s =>
    let pressure := service.pressureWith incomingSize kind totalCapacity s.index
    if !shouldEvict pressure then (some (.ok ()), s)
    else match chooseVictimCategory pressure s.index with
    | none => (none, s)
    | some victimCategory =>
      match service.selectEvictionCandidate s.index victimCategory with
      | none => (some (.error (capacityRejectError .noEvictionCandidate
          "no restored cache victim is available for eviction")), s)
      | some (key, victim) =>
        if s.index.stillStored victimCategory key victim.storageId then
          match evict s victimCategory key victim with
          | (.ok (), s) => evictRounds incomingSize kind totalCapacity rounds s
          | (.error error, s) => (some (.error error), s)
        else evictRounds incomingSize kind totalCapacity rounds s

/-- The limit an object still passes once eviction has ended. -/
def remainingPressure (pressure : CapacityPressure) : Except String Unit :=
  if !shouldEvict pressure then .ok ()
  else if pressure.stagingPressure then .error (capacityRejectError .stagingBudgetExceeded
    "not enough staging cache budget for write path; cannot fit after eviction")
  else if pressure.restoredPressure then .error (capacityRejectError .restoredBudgetExceeded
    "not enough restored cache budget for write path; cannot fit after eviction")
  else if pressure.totalPressure then .error (capacityRejectError .globalCapacityExceeded
    "not enough global cache capacity")
  else if pressure.globalWatermarkPressure then .error (capacityRejectError .lowWatermarkExceeded
    "not enough cache capacity to satisfy low-watermark")
  else .ok ()

/-- Make room for an incoming object. -/
def evictIfNeeded (s : CacheState σ) (incomingSize : Nat) (kind : CacheCategory) :
    Except String Unit × CacheState σ :=
  if incomingSize = 0 then (.ok (), s)
  else match service.effectiveTotalCapacity s with
  | .error error => (.error error, s)
  | .ok totalCapacity =>
    match fitsCapacity incomingSize totalCapacity with
    | .error error => (.error error, s)
    | .ok () =>
      match service.evictRounds incomingSize kind totalCapacity service.evictBatchSize s with
      | (some answer, s) => (answer, s)
      | (none, s) =>
        (remainingPressure (service.pressureWith incomingSize kind totalCapacity s.index), s)

/-- Bytes an object adds beside the one it replaces. -/
def capacityDelta (s : CacheState σ) (key : CacheKey) (xattrs : CacheXattrs) : Nat :=
  xattrs.size - ((s.findEntry key xattrs.category).map fun entry => entry.xattrs.size).getD 0

/-- Store an object under a key, and give the identifier it is stored by. -/
def putBytes (now : Int) (s : CacheState σ) (key : CacheKey) (data : Bytes)
    (xattrs : CacheXattrs) : Except String Nat × CacheState σ :=
  match service.ensureObjectSizeWithinTotalCapacity s xattrs.size with
  | .error error => (.error error, s)
  | .ok () =>
    -- The room needed is measured before expired objects are reclaimed.
    let delta := capacityDelta s key xattrs
    let skip := if xattrs.category = .restored then some key else none
    match service.evictIfNeeded (s.reclaimExpiredRestoredExcept now skip) delta xattrs.category with
    | (.error error, s) => (.error error, s)
    | (.ok (), s) =>
      match CacheBackend.write s.backend key.asCursor data xattrs with
      | (.error error, backend) => (.error error, { s with backend })
      | (.ok storageId, backend) =>
        (.ok storageId, CacheState.replaceEntry { s with backend } key ⟨storageId, xattrs⟩)

end CacheService

/-- Look up a restored object for a reader, dropping it when it has expired. -/
def readRestored (now : Int) (s : CacheState σ) (key : CacheKey) :
    Except Status StoredEntry × CacheState σ :=
  match s.findEntry key .restored with
  | none => (.error (.notFound "restored object not found in cache"),
      { s with index := s.index.updateHitState false })
  | some entry =>
    if isExpiredAt entry.xattrs.expireAt now then
      let s := (s.deleteEntry key .restored).2
      (.error (.notFound "restored object has expired"),
        { s with index := s.index.updateHitState false })
    else
      (.ok entry, { s with index := (s.index.touchEntry now .restored key).updateHitState true })

end ColdStore
