import ColdStore.Cache.Service
import ColdStore.Process.Task

/-!
The calls of a cache, as one access after the other to what they share.

Other calls may come between any two accesses, but no two writers hold the write lock at once.
-/

namespace ColdStore.Stepwise

open Rust Process

/-- One access to the clock, the write lock, the index or the storage. -/
inductive CacheAccess where
  | now
  | lockWrites
  | unlockWrites
  | readIndex
  | insertEntry (key : CacheKey) (entry : StoredEntry)
  /-- Drop an object whose entry still names the storage object. -/
  | removeIfStored (kind : CacheCategory) (key : CacheKey) (storageId : Nat)
  /-- Drop a victim whose entry still names its storage object, and count it. -/
  | evictIfStored (kind : CacheCategory) (key : CacheKey) (victim : StoredEntry)
  /-- Put a victim back that could not be deleted. -/
  | putBack (kind : CacheCategory) (key : CacheKey) (victim : StoredEntry)
  | updateHitState (hit : Bool)
  | touchEntry (now : Int) (kind : CacheCategory) (key : CacheKey)
  | write (key : CacheKey) (data : Bytes) (xattrs : CacheXattrs)
  | delete (storageId : Nat)
  | availableBytes

/-- What an access returns. -/
def CacheAccess.Value : CacheAccess → Type
  | .now => Int
  | .readIndex => CacheIndex
  | .insertEntry _ _ => Option StoredEntry
  | .removeIfStored _ _ _ | .evictIfStored _ _ _ => Bool
  | .write _ _ _ => Except String Nat
  | .delete _ => Except String Unit
  | .availableBytes => Except String Nat
  | .lockWrites | .unlockWrites | .putBack _ _ _ | .updateHitState _ | .touchEntry _ _ _ => Unit

/-- A cache, whether a writer holds the write lock, and the number of accesses so far. -/
structure CacheWorld (σ : Type) where
  cache : CacheState σ
  writing : Bool := false
  tick : Nat := 0

section

variable {σ : Type} [CacheBackend σ]

/-- What an access does to the index and the storage. -/
def CacheAccess.serve (now : Int) (cache : CacheState σ) :
    (access : CacheAccess) → access.Value × CacheState σ
  | .now => (now, cache)
  | .lockWrites | .unlockWrites => ((), cache)
  | .readIndex => (cache.index, cache)
  | .insertEntry key entry =>
    ((cache.index.insertEntry key entry).1,
      { cache with index := (cache.index.insertEntry key entry).2 })
  | .removeIfStored kind key storageId =>
    if cache.index.stillStored kind key storageId then
      (true, { cache with index := cache.index.removeEntry kind key })
    else (false, cache)
  | .evictIfStored kind key victim =>
    if cache.index.stillStored kind key victim.storageId then
      let counted := { cache.index with
        evictCount := cache.index.evictCount + 1
        evictBytes := cache.index.evictBytes + victim.xattrs.size }
      (true, { cache with index := counted.removeEntry kind key })
    else (false, cache)
  | .putBack kind key victim =>
    let entries := (cache.index.entries kind).insert key victim
    ((), { cache with
      index := (cache.index.setEntries kind entries).recomputeUsedCapacity })
  | .updateHitState hit => ((), { cache with index := cache.index.updateHitState hit })
  | .touchEntry now kind key =>
    ((), { cache with index := cache.index.touchEntry now kind key })
  | .write key data xattrs =>
    ((CacheBackend.write cache.backend key.asCursor data xattrs).1,
      { cache with backend := (CacheBackend.write cache.backend key.asCursor data xattrs).2 })
  | .delete storageId =>
    ((CacheBackend.delete cache.backend storageId).1,
      { cache with backend := (CacheBackend.delete cache.backend storageId).2 })
  | .availableBytes => (CacheBackend.availableBytes cache.backend, cache)

/-- The write lock after an access. -/
def CacheAccess.holding (writing : Bool) : CacheAccess → Bool
  | .lockWrites => true
  | .unlockWrites => false
  | _ => writing

/-- A cache under a clock. Only the write lock is ever waited for. -/
def machine (clock : Nat → Int) : Machine CacheAccess CacheAccess.Value (CacheWorld σ) where
  enabled access w := match access with
    | .lockWrites => !w.writing
    | _ => true
  serve access w :=
    let served := access.serve (clock w.tick) w.cache
    (served.1, ⟨served.2, access.holding w.writing, w.tick + 1⟩)

end

/-- What a call does, access by access. -/
abbrev Steps (α : Type) := Program CacheAccess CacheAccess.Value α

/-- A call that may fail. -/
abbrev Attempt (α : Type) := ExceptT String (Program CacheAccess CacheAccess.Value) α

def access (what : CacheAccess) : Steps what.Value := Program.perform what

/-- An access to the storage, which may fail. -/
def write (key : CacheKey) (data : Bytes) (xattrs : CacheXattrs) : Attempt Nat :=
  ExceptT.mk (access (.write key data xattrs))

@[inherit_doc write]
def delete (storageId : Nat) : Attempt Unit := ExceptT.mk (access (.delete storageId))

@[inherit_doc write]
def availableBytes : Attempt Nat := ExceptT.mk (access .availableBytes)

/-- A check that needs no access. -/
def checked {α : Type} (result : Except String α) : Attempt α := ExceptT.mk (pure result)

def findEntry (key : CacheKey) (kind : CacheCategory) : Steps (Option StoredEntry) := do
  let index : CacheIndex ← access .readIndex
  pure ((index.entries kind).get key)

/-- Delete an object from storage and then from the index, reporting whether it was still there. -/
def deleteEntry (key : CacheKey) (kind : CacheCategory) : Attempt Bool := do
  match ← findEntry key kind with
  | none => pure false
  | some entry =>
    delete entry.storageId
    access (.removeIfStored kind key entry.storageId)

/-- Delete objects one after the other, whether or not each deletion succeeds. -/
def deleteAll (kind : CacheCategory) : List CacheKey → Steps Unit
  | [] => pure ()
  | key :: rest => do
    let _ : Except String Bool ← (deleteEntry key kind).run
    deleteAll kind rest

/-- Delete every restored object but one that has expired when the index is read. -/
def reclaimExpiredRestoredExcept (skip : Option CacheKey) : Steps Unit := do
  let now : Int ← access .now
  let index : CacheIndex ← access .readIndex
  let others := index.restored.entries.filter fun entry => skip ≠ some entry.1
  let expired := others.filter fun entry => isExpiredAt entry.2.xattrs.expireAt now
  deleteAll .restored (expired.map Prod.fst)

variable (service : CacheService)

def effectiveTotalCapacity : Attempt Nat := do
  let index : CacheIndex ← access .readIndex
  let available ← availableBytes
  pure (min (saturatingAdd index.usedCapacity available) service.maxSizeBytes)

/-- Evict until no limit would be passed, nothing may be evicted or the rounds are used up.
Only in the first case is there room for sure. -/
def evictRounds (incomingSize : Nat) (kind : CacheCategory) (totalCapacity : Nat) :
    Nat → Attempt Bool
  | 0 => pure false
  | rounds + 1 => do
    let index : CacheIndex ← access .readIndex
    let pressure := service.pressureWith incomingSize kind totalCapacity index
    if !CacheService.shouldEvict pressure then pure true
    else
      -- The index is read again for each choice that is made.
      let index : CacheIndex ← access .readIndex
      match CacheService.chooseVictimCategory pressure index with
      | none => pure false
      | some victimCategory =>
        let index : CacheIndex ← access .readIndex
        match service.selectEvictionCandidate index victimCategory with
        | none => throw (capacityRejectError .noEvictionCandidate
            "no restored cache victim is available for eviction")
        | some (key, victim) =>
          let evicted : Bool ← access (.evictIfStored victimCategory key victim)
          if evicted then
            let deleted : Except String Unit ← access (.delete victim.storageId)
            match deleted with
            | .ok () => evictRounds incomingSize kind totalCapacity rounds
            | .error error =>
              access (.putBack victimCategory key victim)
              throw error
          else evictRounds incomingSize kind totalCapacity rounds

/-- Make room for an incoming object. -/
def evictIfNeeded (incomingSize : Nat) (kind : CacheCategory) : Attempt Unit :=
  if incomingSize = 0 then pure ()
  else do
    let totalCapacity ← effectiveTotalCapacity service
    checked (CacheService.fitsCapacity incomingSize totalCapacity)
    if ← evictRounds service incomingSize kind totalCapacity service.evictBatchSize then pure ()
    else
      let index : CacheIndex ← access .readIndex
      checked (CacheService.remainingPressure
        (service.pressureWith incomingSize kind totalCapacity index))

/-- Make room for an object beside the one it replaces. -/
def makeRoom (key : CacheKey) (xattrs : CacheXattrs) : Attempt Unit := do
  let totalCapacity ← effectiveTotalCapacity service
  checked (CacheService.fitsCapacity xattrs.size totalCapacity)
  let existing ← findEntry key xattrs.category
  -- The room needed is measured before expired objects are reclaimed.
  let delta := xattrs.size - (existing.map fun entry => entry.xattrs.size).getD 0
  reclaimExpiredRestoredExcept (if xattrs.category = .restored then some key else none)
  evictIfNeeded service delta xattrs.category

/-- The part of a write under the write lock: make room, store the object and enter it. -/
def storeLocked (key : CacheKey) (data : Bytes) (xattrs : CacheXattrs) :
    Attempt (Nat × Option StoredEntry) := do
  makeRoom service key xattrs
  let storageId ← write key data xattrs
  let previous : Option StoredEntry ← access (.insertEntry key ⟨storageId, xattrs⟩)
  pure (storageId, previous)

/-- Delete the storage object that was replaced, as far as that succeeds. -/
def deleteReplaced (storageId : Nat) : Option StoredEntry → Steps Unit
  | none => pure ()
  | some previous =>
    if previous.storageId ≠ storageId then do
      let _ : Except String Unit ← access (.delete previous.storageId)
      pure ()
    else pure ()

/-- Store an object under a key, and give the identifier it is stored by. -/
def putBytes (key : CacheKey) (data : Bytes) (xattrs : CacheXattrs) : Attempt Nat := do
  access .lockWrites
  let stored : Except String (Nat × Option StoredEntry) ←
    ExceptT.lift (storeLocked service key data xattrs).run
  -- The lock is dropped with a failure, and before the replaced object is deleted.
  access .unlockWrites
  match stored with
  | .error error => throw error
  | .ok (storageId, previous) =>
    deleteReplaced storageId previous
    pure storageId

/-- Look up a restored object for a reader, dropping it when it has expired. -/
def readRestored (key : CacheKey) : Steps (Except Status StoredEntry) := do
  match ← findEntry key .restored with
  | none =>
    access (.updateHitState false)
    pure (.error (.notFound "restored object not found in cache"))
  | some entry =>
    let now : Int ← access .now
    if isExpiredAt entry.xattrs.expireAt now then
      let _ : Except String Bool ← (deleteEntry key .restored).run
      access (.updateHitState false)
      pure (.error (.notFound "restored object has expired"))
    else
      let now : Int ← access .now
      access (.touchEntry now .restored key)
      access (.updateHitState true)
      pure (.ok entry)

/-- Whether a restored object is readable, dropping it when it has expired. -/
def contains (key : CacheKey) : Steps (Except Status ContainsResponse) := do
  match ← findEntry key .restored with
  | none =>
    access (.updateHitState false)
    pure (.ok ⟨false, none⟩)
  | some entry =>
    let now : Int ← access .now
    if isExpiredAt entry.xattrs.expireAt now then
      let _ : Except String Bool ← (deleteEntry key .restored).run
      access (.updateHitState false)
      pure (.ok ⟨false, none⟩)
    else
      access (.updateHitState true)
      pure (.ok ⟨true, some (timestampFromUnix entry.xattrs.expireAt)⟩)

/-- The calls that change the index. -/
inductive CacheRequest where
  | putBytes (key : CacheKey) (data : Bytes) (xattrs : CacheXattrs)
  | deleteEntry (key : CacheKey) (kind : CacheCategory)
  | readRestored (key : CacheKey)
  | contains (key : CacheKey)

/-- How a call ended. -/
inductive CacheOutcome where
  | put (answer : Except String Nat)
  | deleted (answer : Except String Bool)
  | found (answer : Except Status StoredEntry)
  | contained (answer : Except Status ContainsResponse)

/-- What a call does. -/
def start : CacheRequest → Steps CacheOutcome
  | .putBytes key data xattrs => .put <$> (putBytes service key data xattrs).run
  | .deleteEntry key kind => .deleted <$> (deleteEntry key kind).run
  | .readRestored key => .found <$> readRestored key
  | .contains key => .contained <$> contains key

end ColdStore.Stepwise
