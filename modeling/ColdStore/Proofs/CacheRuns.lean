import ColdStore.Cache.Capacity

/-! Whole runs of the cache: what stays in staging, and how much room is taken. -/

namespace ColdStore

open Rust Process Relation

namespace CacheService

open CacheState StorageLaws

/-- The key of an object without a version. -/
def keyOf (key : String) : CacheKey := ⟨"docs", key, none⟩

/-- The attributes of an object that never expires. -/
def attributesOf (key : String) (size : Nat) (time : Int) (kind : CacheCategory) : CacheXattrs where
  bucket := "docs"
  key := key
  versionId := none
  size := size
  expireAt := 0
  cachedAt := time
  lastAccessAt := time
  accessCount := 0
  checksum := none
  contentType := none
  etag := none
  category := kind

/-- The call that writes such an object. -/
def writes (key : String) (size : Nat) (time : Int) (kind : CacheCategory) : CacheCall :=
  .putBytes time (keyOf key) (List.replicate size 0) (attributesOf key size time kind)

/-- A cache of one hundred octets without objects. -/
def emptyCache : CacheState HddBackend := ⟨⟨HashMap.empty, 100, 1⟩, {}⟩

/-! Staging: what is staged leaves when it is told to, or when it is replaced. -/

section

variable {σ : Type} [CacheBackend σ] [StorageLaws σ] (svc : CacheService)

/-- A call is meant to remove a staged object, or has replaced it. -/
def Replaces (key : CacheKey) (s : CacheState σ) (call : CacheCall) : Prop :=
  call = .deleteStaging key ∨
    ∃ now data xattrs id, call = .putBytes now key data xattrs ∧ xattrs.category = .staging ∧
      (svc.putBytes now s key data xattrs).1 = .ok id

/-- Every call keeps identifiers apart. -/
theorem performs_separate {allowed : CacheState σ → CacheCall → Prop} {before after : CacheState σ}
    (performs : svc.Performs allowed before after) (separate : before.Separate) :
    after.Separate := by
  obtain ⟨call, _, rfl⟩ := performs
  obtain thinned | ⟨_, _, _, _, _, _, _, entered⟩ := svc.perform_separated separate call
  · exact thinned.separate separate
  · exact entered.separate

/-- Identifiers are apart in every state that a cache reaches. -/
theorem separate_of_reached {backend : σ} {s : CacheState σ}
    (reached : ReflTransGen (svc.Performs fun _ _ => True) ⟨backend, {}⟩ s) : s.Separate := by
  refine kept_along Separate (svc.performs_separate) reached ?_
  constructor <;> intro kind key entry <;> cases kind <;>
    simp [findEntry, CacheIndex.entries]

/--
A staged object stays as it is until it is deleted or replaced.

Every operation of the storage may fail, and the configuration may be any.
-/
theorem staged_object_stays {backend : σ} {first last : CacheState σ} {key : CacheKey}
    {entry : StoredEntry}
    (reached : ReflTransGen (svc.Performs fun _ _ => True) ⟨backend, {}⟩ first)
    (staged : first.findEntry key .staging = some entry)
    (later : ReflTransGen (svc.Performs fun s call => ¬ svc.Replaces key s call) first last) :
    last.findEntry key .staging = some entry ∧
      object last.backend entry.storageId = object first.backend entry.storageId := by
  have separate := svc.separate_of_reached reached
  -- The three facts together are kept by every call.
  let stays (s : CacheState σ) : Prop := s.Separate ∧
    s.findEntry key .staging = some entry ∧
    object s.backend entry.storageId = object first.backend entry.storageId
  have kept : stays last := by
    refine kept_along stays ?_ later ⟨separate, staged, rfl⟩
    rintro before after performs ⟨apart, found, same⟩
    refine ⟨svc.performs_separate performs apart, ?_⟩
    obtain ⟨call, spares, rfl⟩ := performs
    obtain thinned | ⟨now, place, data, xattrs, id, rfl, ok, entered⟩ :=
      svc.perform_separated apart call
    · have other : ¬ call = .deleteStaging key := fun deletes => spares (.inl deletes)
      exact ⟨(thinned.staging key other).trans found,
        (thinned.stored key entry other found).trans same⟩
    · have other : ¬ (xattrs.category = .staging ∧ key = place) := by
        rintro ⟨staging, rfl⟩
        exact spares (.inr ⟨now, data, xattrs, id, rfl, staging, ok⟩)
      obtain ⟨there, stored⟩ := entered.staging key entry other found
      exact ⟨there, stored.trans same⟩
  exact kept.2

end

/-- A staged object is still there when a restored object of its key is deleted. -/
theorem staged_object_stays_deleted :
    let first := (CacheService.even 100).perform emptyCache (writes "a" 3 1 .staging)
    let last := (CacheService.even 100).perform first (.delete (keyOf "a"))
    first.findEntry (keyOf "a") .staging = some ⟨1, attributesOf "a" 3 1 .staging⟩ ∧
      last.findEntry (keyOf "a") .staging = some ⟨1, attributesOf "a" 3 1 .staging⟩ := by
  intro first last
  have staged : first.findEntry (keyOf "a") .staging =
      some ⟨1, attributesOf "a" 3 1 .staging⟩ := by decide +kernel
  have reached : ReflTransGen ((CacheService.even 100).Performs fun _ _ => True)
      ⟨emptyCache.backend, {}⟩ first := .single ⟨writes "a" 3 1 .staging, trivial, rfl⟩
  refine ⟨staged, (staged_object_stays (CacheService.even 100) reached staged
    (.single ⟨.delete (keyOf "a"), ?_, rfl⟩)).1⟩
  rintro (deletes | ⟨_, _, _, _, puts, _⟩)
  · cases deletes
  · cases puts

/-! Room: what is written fits, unless the object it replaces is given up for it. -/

/-- A write does not give up the object it replaces. -/
def SparesReplaced (svc : CacheService) (s : CacheState HddBackend) (call : CacheCall) :
    Prop := ∀ now key data xattrs, call = .putBytes now key data xattrs →
    ¬ svc.GivesUp now s key xattrs

/-- One call keeps the cache in bounds. -/
theorem Bounded.performs {svc : CacheService} (below : svc.maxSizeBytes < u64Max)
    {before after : CacheState HddBackend} (performs : svc.Performs svc.SparesReplaced before after)
    (bounded : svc.Bounded before) : svc.Bounded after := by
  obtain ⟨call, spares, rfl⟩ := performs
  by_cases puts : ∃ now key data xattrs, call = .putBytes now key data xattrs
  · obtain ⟨now, key, data, xattrs, rfl⟩ := puts
    exact bounded.putBytes below now key data xattrs (spares now key data xattrs rfl)
  · exact bounded.lighter (svc.perform_lighter bounded.accounted
      fun now key data xattrs same => puts ⟨now, key, data, xattrs, same⟩)

/--
The cached objects never take more room than the cache may have.

No write may give up the object it replaces, which the cache before the write tells.
-/
theorem used_within_capacity {svc : CacheService} {nextId : Nat} {s : CacheState HddBackend}
    (reached : ReflTransGen (svc.Performs svc.SparesReplaced)
      ⟨⟨HashMap.empty, svc.maxSizeBytes, nextId⟩, {}⟩ s) :
    s.index.usedCapacity ≤ svc.maxSizeBytes := by
  have empty := accounted_empty svc.maxSizeBytes nextId
  by_cases below : svc.maxSizeBytes < u64Max
  · have bounded : svc.Bounded s :=
      kept_along svc.Bounded (Bounded.performs below) reached ⟨empty, rfl, Nat.zero_le _⟩
    rw [bounded.accounted.counted]
    exact (sumU64_le _).trans bounded.inside
  · -- No count of 64 bits passes the largest capacity.
    have accounted : s.Accounted := by
      refine kept_along Accounted ?_ reached empty
      rintro before after ⟨call, _, rfl⟩ accounted
      exact svc.perform_accounted accounted call
    have small : sumU64 s.index.sizes < 2 ^ 64 := Nat.mod_lt _ (by decide)
    rw [accounted.counted]
    simp only [u64Max] at below
    omega

/-- A restored object is replaced by a larger one, for which an older one is evicted. -/
theorem used_within_capacity_replaced :
    let calls := [writes "a" 25 1 .restored, writes "k" 20 2 .restored, writes "k" 30 3 .restored]
    let last := calls.foldl (CacheService.even 100).perform emptyCache
    last.index.evictCount = 1 ∧ last.index.usedCapacity = 30 ∧ last.index.usedCapacity ≤ 100 := by
  intro calls last
  have first : (CacheService.even 100).SparesReplaced emptyCache (writes "a" 25 1 .restored) := by
    rintro now key data xattrs ⟨⟩ gives
    exact absurd gives.way.inTheWay.presses (by decide +kernel)
  have second : (CacheService.even 100).SparesReplaced
      ((CacheService.even 100).perform emptyCache (writes "a" 25 1 .restored))
      (writes "k" 20 2 .restored) := by
    rintro now key data xattrs ⟨⟩ gives
    exact absurd gives.way.inTheWay.presses (by decide +kernel)
  have third : (CacheService.even 100).SparesReplaced
      ([writes "a" 25 1 .restored, writes "k" 20 2 .restored].foldl
        (CacheService.even 100).perform emptyCache) (writes "k" 30 3 .restored) := by
    -- Only the older object goes first.
    rintro now key data xattrs ⟨⟩ gives
    exact absurd gives.way.inTheWay.mem_firstOut (by decide +kernel)
  have reached : ReflTransGen ((CacheService.even 100).Performs
      (CacheService.even 100).SparesReplaced) emptyCache last :=
    ((ReflTransGen.single ⟨_, first, rfl⟩).tail ⟨_, second, rfl⟩).tail ⟨_, third, rfl⟩
  exact ⟨by decide +kernel, by decide +kernel, used_within_capacity reached⟩

/-- A write makes room by evicting the object it replaces, and counts that room twice. -/
theorem used_beyond_capacity :
    ([writes "s" 30 1 .staging, writes "k" 25 2 .restored, writes "a" 25 3 .restored,
      writes "k" 50 4 .restored].foldl (CacheService.even 100).perform
        emptyCache).index.usedCapacity = 105 := by
  decide +kernel

end CacheService

end ColdStore
