import ColdStore.Proofs.CacheRuns

/-! Room in the cache: how it is shared out, what goes to make it, and what a failed write leaves. -/

namespace ColdStore

open Rust Process Relation

namespace CacheService

/-! The shares of a capacity, computed in 64 bits. -/

/-- The shares of a configured cache, with the product cut off. -/
theorem splitCapacityByStaticRatio_eq {svc : CacheService}
    (configured : svc.stagingCapacityBytes + svc.restoredCapacityBytes = svc.maxSizeBytes)
    (positive : 0 < svc.maxSizeBytes) (word : svc.maxSizeBytes ≤ u64Max) (total : Nat) :
    svc.splitCapacityByStaticRatio total =
      (min (total * svc.stagingCapacityBytes / svc.maxSizeBytes)
        (u64Max / svc.maxSizeBytes),
        total - min (total * svc.stagingCapacityBytes / svc.maxSizeBytes)
          (u64Max / svc.maxSizeBytes)) := by
  have sum : saturatingAdd svc.stagingCapacityBytes svc.restoredCapacityBytes =
      svc.maxSizeBytes := by
    rw [saturatingAdd_eq (configured ▸ word), configured]
  simp only [splitCapacityByStaticRatio, sum, if_neg positive.ne', saturatingMul_div]

/--
The shares of a capacity are the exact ones as long as the staging share is small enough.

The product of the capacity and the configured share stops at the largest number of 64 bits, so a
share above the largest number over the configured size is cut off.
-/
theorem capacity_split_exact_iff {svc : CacheService} {total : Nat}
    (configured : svc.stagingCapacityBytes + svc.restoredCapacityBytes = svc.maxSizeBytes)
    (positive : 0 < svc.maxSizeBytes) (word : svc.maxSizeBytes ≤ u64Max) :
    (svc.splitCapacityByStaticRatio total =
        (total * svc.stagingCapacityBytes / svc.maxSizeBytes,
          total - total * svc.stagingCapacityBytes / svc.maxSizeBytes) ↔
      total * svc.stagingCapacityBytes / svc.maxSizeBytes ≤ u64Max / svc.maxSizeBytes) ∧
    (svc.splitCapacityByStaticRatio svc.maxSizeBytes =
        (svc.stagingCapacityBytes, svc.restoredCapacityBytes) ↔
      svc.stagingCapacityBytes ≤ u64Max / svc.maxSizeBytes) := by
  have split := splitCapacityByStaticRatio_eq configured positive word
  -- The configured size is split back into the configured shares.
  have whole : svc.maxSizeBytes * svc.stagingCapacityBytes / svc.maxSizeBytes =
      svc.stagingCapacityBytes := Nat.mul_div_cancel_left _ positive
  refine ⟨?_, ?_⟩
  · rw [split, Prod.mk.injEq]
    omega
  · rw [split, whole, Prod.mk.injEq]
    omega

/-- Eighty octets of a cache of one hundred are halved exactly. -/
theorem capacity_split_exact_halved :
    (CacheService.even 100).splitCapacityByStaticRatio 80 = (40, 40) :=
  (@capacity_split_exact_iff (CacheService.even 100) 80 (by decide) (by decide)
    (by decide)).1.mpr (by decide)

/-- In a cache of eight gibibytes, half of it becomes less than a quarter. -/
theorem capacity_split_cut_off :
    (CacheService.even (2 ^ 33)).stagingCapacityBytes = 2 ^ 32 ∧
      (CacheService.even (2 ^ 33)).restoredCapacityBytes = 2 ^ 32 ∧
      (CacheService.even (2 ^ 33)).splitCapacityByStaticRatio (2 ^ 33) =
        (2 ^ 31 - 1, 2 ^ 33 - (2 ^ 31 - 1)) := by
  decide

/-! What goes when room is made. -/

section

variable {σ : Type} [CacheBackend σ] (svc : CacheService)

/-- An incoming object is within all limits beside the objects of an index. -/
structure Fits (incomingSize : Nat) (kind : CacheCategory) (totalCapacity : Nat)
    (index : CacheIndex) : Prop where
  staging : CacheIndex.bytes index.staging.entries +
      (if kind = .staging then incomingSize else 0) ≤
    (svc.splitCapacityByStaticRatio totalCapacity).1
  restored : CacheIndex.bytes index.restored.entries +
      (if kind = .restored then incomingSize else 0) ≤
    (svc.splitCapacityByStaticRatio totalCapacity).2
  total : index.sizes.sum + incomingSize ≤ totalCapacity
  watermark : ∀ target, svc.effectiveLowWatermarkUsed totalCapacity = some target →
    index.sizes.sum + incomingSize ≤ target

/-- Sums that fit into 64 bits are counted as they are. -/
theorem Fits.of_relieved {svc : CacheService} {incomingSize : Nat} {kind : CacheCategory}
    {totalCapacity : Nat} {index : CacheIndex} (used : index.usedCapacity = index.sizes.sum)
    (small : index.sizes.sum + incomingSize ≤ u64Max)
    (relieved : (svc.pressureWith incomingSize kind totalCapacity index).Relieved) :
    svc.Fits incomingSize kind totalCapacity index := by
  have parts := index.sum_sizes
  have word : u64Max < 2 ^ 64 := by decide
  have staging := relieved.staging
  have restored := relieved.restored
  simp only [pressureWith, CacheIndex.stagingUsed_eq, CacheIndex.restoredUsed_eq] at staging restored
  -- Each share is at most the whole, so nothing is cut off and no addition stops early.
  rw [Nat.mod_eq_of_lt (by omega), saturatingAdd_eq (by split <;> omega)] at staging restored
  have total : saturatingAdd index.usedCapacity incomingSize = index.sizes.sum + incomingSize := by
    rw [used, saturatingAdd_eq small]
  refine ⟨staging, restored, total ▸ relieved.total, fun target limit => ?_⟩
  exact total ▸ relieved.watermark target limit

/--
Some restored entries were evicted: those that come first, and no more than needed.

Uses are compared as the cache counts them, in 64 bits.
-/
structure EvictedExactly (incomingSize : Nat) (kind : CacheCategory) (totalCapacity : Nat)
    (before : CacheIndex) (removed : List (CacheKey × StoredEntry)) (after : CacheIndex) :
    Prop where
  relieved : (svc.pressureWith incomingSize kind totalCapacity after).Relieved
  fits : before.usedCapacity = before.sizes.sum → before.sizes.sum + incomingSize ≤ u64Max →
    svc.Fits incomingSize kind totalCapacity after
  few : removed.length ≤ svc.evictBatchSize
  lowest : Lowest svc.evictionPolicy.rank before.restored.entries removed after.restored.entries
  least : ∀ part rest, Lowest svc.evictionPolicy.rank before.restored.entries part rest →
    part.length < removed.length → ¬ (svc.pressureWith incomingSize kind totalCapacity
      (before.dropRestored part)).Relieved
  staging : after.staging = before.staging
  evictCount : after.evictCount = before.evictCount + removed.length
  evictBytes : after.evictBytes = before.evictBytes + CacheIndex.bytes removed

/--
Room is made by evicting what comes first in the order of the policy, and no more than needed.

It holds over any storage: an eviction whose deletion fails does not succeed.
-/
theorem eviction_exact {s after : CacheState σ} {incomingSize : Nat} {kind : CacheCategory}
    (incoming : 0 < incomingSize)
    (ended : svc.evictIfNeeded s incomingSize kind = (.ok (), after)) :
    ∃ totalCapacity removed, svc.effectiveTotalCapacity s = .ok totalCapacity ∧
      svc.EvictedExactly incomingSize kind totalCapacity s.index removed
        after.index := by
  obtain ⟨nothing, _⟩ | ⟨totalCapacity, removed, capacity, few, evicted, calm⟩ :=
    svc.evictIfNeeded_evicted ended
  · omega
  -- The loop ends when there is no pressure, so what it removed was enough.
  have relieved := CapacityPressure.relieved_iff.mpr calm
  have counters := s.index.dropRestored_counters removed
  refine ⟨totalCapacity, removed, capacity, relieved, fun used small => ?_, few, ?_,
    fun part rest lowest fewer => evicted.least lowest fewer, ?_, ?_, ?_⟩
  · obtain ⟨still, lighter⟩ := evicted.used used (by omega)
    exact .of_relieved still (by omega) relieved
  · rw [evicted.restored]
    exact evicted.lowest
  · rw [evicted.index]
    exact CacheIndex.staging_dropRestored _ _
  · rw [evicted.index, CacheIndex.counting, counters.1]
  · rw [evicted.index, CacheIndex.counting, counters.2]

end

/-- One of two restored objects goes to make room for a third. -/
theorem eviction_exact_of_two :
    let s := [writes "a" 25 1 .restored, writes "k" 20 2 .restored].foldl
      (CacheService.even 100).perform emptyCache
    let after := ((CacheService.even 100).evictIfNeeded s 10 .restored).2
    after.index.evictCount = 1 ∧ ∃ totalCapacity removed,
      (CacheService.even 100).effectiveTotalCapacity s = .ok totalCapacity ∧
      (CacheService.even 100).EvictedExactly 10 .restored totalCapacity s.index removed
        after.index := by
  intro s after
  have ok : ((CacheService.even 100).evictIfNeeded s 10 .restored).1 = .ok () := by
    decide +kernel
  have ended : (CacheService.even 100).evictIfNeeded s 10 .restored = (.ok (), after) :=
    Prod.ext ok rfl
  exact ⟨by decide +kernel, eviction_exact _ (by decide) ended⟩

/-! What a failed write leaves of the object it was to replace. -/

section

open CacheState StorageLaws

/-- A write leaves the entry of an object and its bytes. -/
def KeepsEntry {σ : Type} [CacheBackend σ] [StorageLaws σ] (before after : CacheState σ)
    (kind : CacheCategory) (key : CacheKey) (old : StoredEntry) : Prop :=
  after.findEntry key kind = some old ∧
    object after.backend old.storageId = object before.backend old.storageId

variable {σ : Type} [CacheBackend σ] {svc : CacheService} {now : Int} {key : CacheKey}
  {bytes : Bytes} {xattrs : CacheXattrs} {old : StoredEntry} {error : String}

/-- A write of a restored object fails at once, or with what is left when room was made. -/
theorem putBytes_failed {s : CacheState σ} (restored : xattrs.category = .restored)
    (failed : (svc.putBytes now s key bytes xattrs).1 = .error error) :
    let made := (svc.evictIfNeeded (s.reclaimExpiredRestoredExcept now (some key))
      (capacityDelta s key xattrs) .restored).2
    let after := (svc.putBytes now s key bytes xattrs).2
    (svc.ensureObjectSizeWithinTotalCapacity s xattrs.size ≠ .ok () ∧ after = s) ∨
      after = made ∨ after = { made with
        backend := (CacheBackend.write made.backend key.asCursor bytes xattrs).2 } := by
  intro made after
  simp only [made, after, putBytes, restored, if_true] at failed ⊢
  split
  · rename_i refused
    exact .inl ⟨by simp [refused], rfl⟩
  · rename_i fits
    rw [fits] at failed
    dsimp only at failed
    refine .inr ?_
    split <;> rename_i middle ended
    · exact .inl (by rw [ended])
    · rw [ended] at failed
      dsimp only at failed
      -- The write comes last, so it is what failed.
      split <;> rename_i backend written
      · exact .inr (by rw [ended, written])
      · rw [written] at failed
        cases failed

variable [StorageLaws σ]

/-- A failed write leaves a restored object that is there once room was made. -/
theorem putBytes_failed_keeps {s : CacheState σ} (restored : xattrs.category = .restored)
    (found : s.findEntry key xattrs.category = some old)
    (failed : (svc.putBytes now s key bytes xattrs).1 = .error error)
    (made : Holds key old (object s.backend old.storageId)
      (svc.evictIfNeeded (s.reclaimExpiredRestoredExcept now (some key))
        (capacityDelta s key xattrs) .restored).2) :
    KeepsEntry s (svc.putBytes now s key bytes xattrs).2 xattrs.category key old := by
  rw [restored] at found ⊢
  obtain ⟨_, same⟩ | same | same := putBytes_failed restored failed
  · rw [same]
    exact ⟨found, rfl⟩
  · rw [same]
    exact ⟨made.found, made.stored⟩
  · -- A failed write may leave traces, but no other object is touched.
    rw [same]
    refine ⟨made.found, Eq.trans ?_ made.stored⟩
    exact (write_others (made.separate.given _ _ _ made.found)).2

/-- A staged object stays when a write that is to replace it fails. -/
theorem putBytes_failed_staging {s : CacheState σ} (separate : s.Separate)
    (staging : xattrs.category = .staging) (found : s.findEntry key xattrs.category = some old)
    (failed : (svc.putBytes now s key bytes xattrs).1 = .error error) :
    KeepsEntry s (svc.putBytes now s key bytes xattrs).2 xattrs.category key old := by
  rw [staging] at found ⊢
  obtain ⟨_, _, thinned⟩ | ⟨id, ok, _⟩ := svc.putBytes_separated separate now key bytes xattrs
  · exact ⟨(thinned.staging key not_false).trans found, thinned.stored key old not_false found⟩
  · rw [failed] at ok
    cases ok

/--
A write that fails leaves the object it was to replace, unless that object was given up for it.

On a disk whose operations succeed that is the exact condition, and it is told by the cache before
the write. Where every operation of the storage may fail, the object stays if it is a staged one,
if the new object is no larger, or if it is refused at once.
-/
theorem failed_overwrite_keeps_entry_iff :
    (∀ s : CacheState HddBackend, s.Accounted →
      s.findEntry key xattrs.category = some old →
      (svc.putBytes now s key bytes xattrs).1 = .error error →
      (KeepsEntry s (svc.putBytes now s key bytes xattrs).2 xattrs.category key old ↔
        ¬ svc.GivesUp now s key xattrs)) ∧ ∀ s : CacheState σ, s.Separate →
      s.findEntry key xattrs.category = some old →
      (svc.putBytes now s key bytes xattrs).1 = .error error →
      (xattrs.category = .staging ∨ xattrs.size ≤ old.xattrs.size ∨
        ∃ total, svc.effectiveTotalCapacity s = .ok total ∧ total < xattrs.size) →
      KeepsEntry s (svc.putBytes now s key bytes xattrs).2 xattrs.category key old := by
  refine ⟨fun s accounted found failed => ⟨?_, ?_⟩, fun s separate found failed spared => ?_⟩
  · -- What is given up is not there when room was made, and a failed write does not bring it back.
    rintro ⟨kept, _⟩ gives
    have fits : svc.ensureObjectSizeWithinTotalCapacity s xattrs.size = .ok () := by
      rw [ensureObjectSizeWithinTotalCapacity, effectiveTotalCapacity_counted accounted]
      exact fitsCapacity_ok_iff.mpr ⟨gives.positive.trans_le gives.admitted, gives.admitted⟩
    rw [gives.restored] at found kept
    have gone := gives.gone accounted found
    obtain ⟨refused, _⟩ | same | same := putBytes_failed gives.restored failed
    · exact refused fits
    all_goals
      rw [same] at kept
      exact absurd (gone.symm.trans kept) (by simp)
  · intro spared
    cases kind : xattrs.category with
    | staging =>
      exact kind ▸ putBytes_failed_staging accounted.toSound.separated kind found failed
    | restored =>
      by_cases admitted : xattrs.size ≤
        svc.capacityBeside s.backend.maxSizeBytes s.index.usedCapacity
      · have made := holds_of_not_givesUp accounted (kind ▸ found) kind admitted spared
        exact kind ▸ putBytes_failed_keeps kind found failed made
      · rw [putBytes_refused (effectiveTotalCapacity_counted accounted) (not_le.mp admitted)]
        exact ⟨kind ▸ found, rfl⟩
  · obtain staging | spared := spared
    · exact putBytes_failed_staging separate staging found failed
    cases kind : xattrs.category with
    | staging => exact kind ▸ putBytes_failed_staging separate kind found failed
    | restored =>
      obtain smaller | ⟨total, capacity, large⟩ := spared
      · have holds : Holds key old (object s.backend old.storageId) s :=
          ⟨separate, kind ▸ found, rfl⟩
        have nothing : capacityDelta s key xattrs = 0 := by simp [capacityDelta, found, smaller]
        refine kind ▸ putBytes_failed_keeps kind found failed ?_
        simpa [nothing, evictIfNeeded] using holds.reclaimed now
      · rw [putBytes_refused capacity large]
        exact ⟨kind ▸ found, rfl⟩

end

/-- The second of two restored objects stays when larger ones are refused in its place. -/
theorem failed_overwrite_keeps_second :
    let s := [writes "a" 5 1 .restored, writes "k" 5 2 .restored].foldl
      (CacheService.even 100).perform emptyCache
    let old : StoredEntry := ⟨2, attributesOf "k" 5 2 .restored⟩
    let after (size : Nat) := ((CacheService.even 100).putBytes 3 s (keyOf "k")
      (List.replicate size 0) (attributesOf "k" size 3 .restored)).2
    KeepsEntry s (after 60) .restored (keyOf "k") old ∧
      KeepsEntry s (after 200) .restored (keyOf "k") old := by
  intro s old after
  have found : s.findEntry (keyOf "k") .restored = some old := by decide +kernel
  have accounted : s.Accounted :=
    perform_accounted (CacheService.even 100) (perform_accounted (CacheService.even 100)
      (CacheState.accounted_empty 100 1) (writes "a" 5 1 .restored)) (writes "k" 5 2 .restored)
  have kept (size : Nat) (error : String) (failed : ((CacheService.even 100).putBytes 3 s
      (keyOf "k") (List.replicate size 0) (attributesOf "k" size 3 .restored)).1 = .error error)
      (spared : ¬ (CacheService.even 100).GivesUp 3 s (keyOf "k")
        (attributesOf "k" size 3 .restored)) :
      KeepsEntry s (after size) .restored (keyOf "k") old :=
    ((failed_overwrite_keeps_entry_iff (σ := HddBackend)).1 s accounted found failed).mpr spared
  refine ⟨kept 60 (capacityRejectError .restoredBudgetExceeded
      "not enough restored cache budget for write path; cannot fit after eviction")
      (by decide +kernel) fun gives => ?_,
    kept 200 (capacityRejectError .incomingLargerThanCapacity
      "incoming object exceeds cache capacity") (by decide +kernel) fun gives => ?_⟩
  -- The older object goes before this one, and no more than one goes at once.
  · exact absurd gives.way.inTheWay.mem_firstOut (by decide +kernel)
  · exact absurd gives.admitted (by decide +kernel)

/-- The first of two restored objects goes for a larger one that is then refused. -/
theorem failed_overwrite_loses_first :
    let s := [writes "k" 5 1 .restored, writes "a" 40 2 .restored].foldl
      (CacheService.even 100).perform emptyCache
    let answer := (CacheService.even 100).putBytes 3 s (keyOf "k") (List.replicate 50 0)
      (attributesOf "k" 50 3 .restored)
    s.findEntry (keyOf "k") .restored = some ⟨1, attributesOf "k" 5 1 .restored⟩ ∧
      answer.1 = .error (capacityRejectError .restoredBudgetExceeded
        "not enough restored cache budget for write path; cannot fit after eviction") ∧
      answer.2.findEntry (keyOf "k") .restored = none ∧
      StorageLaws.object answer.2.backend 1 = none := by
  decide +kernel

end CacheService

end ColdStore
