import ColdStore.Cache.Sparing

/-! How calls change the room that the cached objects take. -/

namespace ColdStore

open Rust CacheState

variable {s : CacheState HddBackend}

namespace CacheState

/-- Marks of accesses do not matter to the accounts. -/
theorem Accounted.of_index (accounted : s.Accounted) {index : CacheIndex}
    (used : index.usedCapacity = s.index.usedCapacity) (sizes : index.sizes = s.index.sizes)
    (same : s.SameUnmarked index) : Accounted { s with index } where
  toSound := accounted.toSound.of_index same
  counted := by
    dsimp only
    rw [used, sizes]
    exact accounted.counted
  sized kind key entry file found stored := by
    obtain ⟨old, was, id, unmarked⟩ := same.exists_old found
    have size := congrArg (fun entry => entry.xattrs.size) unmarked
    exact (accounted.sized kind key old file was (id ▸ stored)).trans size
  filled := sizes ▸ accounted.filled

theorem Accounted.updateHitState (accounted : s.Accounted) (hit : Bool) :
    Accounted { s with index := s.index.updateHitState hit } := by
  refine accounted.of_index ?_ ?_ (sameUnmarked_updateHitState s hit) <;> cases hit <;> rfl

/-- An access leaves all sizes as they are. -/
theorem sizes_touchEntry (now : Int) (index : CacheIndex) (key : CacheKey) :
    (index.touchEntry now .restored key).sizes = index.sizes := by
  simp only [CacheIndex.touchEntry]
  split
  · rfl
  · rename_i entry found
    have same : ((index.restored.update key (CacheIndex.touched now entry)).values.map
        fun entry => entry.xattrs.size) = index.restored.values.map fun entry => entry.xattrs.size :=
      HashMap.values_update_map _ found rfl
    simp only [CacheIndex.sizes, CacheIndex.setEntries, CacheIndex.entries, List.map_append, same]

theorem Accounted.touchEntry (accounted : s.Accounted) (now : Int) (key : CacheKey) :
    Accounted { s with index := s.index.touchEntry now .restored key } := by
  refine accounted.of_index ?_ (sizes_touchEntry now s.index key)
    (sameUnmarked_touchEntry s now key)
  simp only [CacheIndex.touchEntry]
  split <;> rfl

/-- The accounts are kept, and no more room is taken. -/
structure Lighter (before after : CacheState HddBackend) : Prop where
  accounted : after.Accounted
  maxSizeBytes : after.backend.maxSizeBytes = before.backend.maxSizeBytes
  smaller : after.index.sizes.sum ≤ before.index.sizes.sum

namespace Lighter

variable {first second third : CacheState HddBackend}

theorem refl (accounted : first.Accounted) : Lighter first first := ⟨accounted, rfl, le_rfl⟩

theorem trans (left : Lighter first second) (right : Lighter second third) : Lighter first third :=
  ⟨right.accounted, right.maxSizeBytes.trans left.maxSizeBytes, right.smaller.trans left.smaller⟩

end Lighter

theorem Cleared.lighter {gone : CacheKey → Prop} {after : CacheState HddBackend}
    (cleared : Cleared gone s after) : Lighter s after :=
  ⟨cleared.accounted, cleared.maxSizeBytes, cleared.smaller⟩

theorem deleteEntry_lighter (accounted : s.Accounted) (key : CacheKey)
    (kind : CacheCategory) : Lighter s (s.deleteEntry key kind).2 :=
  ⟨accounted.deleteEntry key kind, deleteEntry_maxSizeBytes accounted.toSound key kind,
    deleteEntry_smaller accounted key kind⟩

theorem deleteAnswered_lighter (accounted : s.Accounted) (key : CacheKey)
    (kind : CacheCategory) : Lighter s (s.deleteAnswered key kind).2 := by
  rw [deleteAnswered_ok accounted.toSound]
  exact deleteEntry_lighter accounted key kind

end CacheState

namespace CacheService

variable (svc : CacheService)

/-- An eviction frees the room of its victim. -/
theorem evict_lighter (accounted : s.Accounted) {key : CacheKey} {victim : StoredEntry}
    (found : s.index.restored.get key = some victim) :
    Lighter s (evict s .restored key victim).2 := by
  obtain ⟨_, dropped⟩ := evict_dropped accounted.toSound found
  obtain ⟨file, stored⟩ := accounted.present .restored key victim found
  have sum := dropped.sizes.sum_nat
  rw [List.sum_cons] at sum
  refine ⟨accounted.of_dropped dropped ?_, ?_, by omega⟩
  · simp only [evict, delete_stored stored]
    rfl
  · simp only [evict, delete_stored stored]

/-- Accesses to restored objects take no more room. -/
theorem Lighter.upheld (first : CacheState HddBackend) : Upheld (Lighter first) where
  deleteEntry key lighter := lighter.trans (deleteEntry_lighter lighter.accounted key .restored)
  updateHitState hit lighter := lighter.trans
    ⟨lighter.accounted.updateHitState hit, rfl, by cases hit <;> exact le_rfl⟩
  touchEntry now key lighter := lighter.trans ⟨lighter.accounted.touchEntry now key, rfl,
    (congrArg List.sum (sizes_touchEntry now _ key)).le⟩
  evict lighter found := lighter.trans (evict_lighter lighter.accounted found)

/-- What the objects take together is in bounds, and so is what the storage offers. -/
structure Bounded (s : CacheState HddBackend) : Prop where
  accounted : s.Accounted
  storage : s.backend.maxSizeBytes = svc.maxSizeBytes
  inside : s.index.sizes.sum ≤ svc.maxSizeBytes

variable {after : CacheState HddBackend}

theorem Bounded.lighter {svc : CacheService} (bounded : svc.Bounded s)
    (lighter : Lighter s after) : svc.Bounded after :=
  ⟨lighter.accounted, lighter.maxSizeBytes.trans bounded.storage,
    lighter.smaller.trans bounded.inside⟩

/-- Without pressure the incoming object fits beside the others. -/
theorem fits_of_calm {svc : CacheService} (below : svc.maxSizeBytes < u64Max)
    (accounted : s.Accounted) (inside : s.index.sizes.sum ≤ svc.maxSizeBytes) {incomingSize : Nat}
    {kind : CacheCategory}
    (calm : shouldEvict (svc.pressureWith incomingSize kind svc.maxSizeBytes s.index) = false)
    : s.index.sizes.sum + incomingSize ≤ svc.maxSizeBytes := by
  simp only [shouldEvict, Bool.or_eq_false_iff] at calm
  have total := calm.2
  simp only [CapacityPressure.totalPressure, pressureWith, gt_iff_lt, decide_eq_false_iff_not,
    Nat.not_lt, saturatingAdd, accounted.counted, sumU64] at total
  rw [Nat.mod_eq_of_lt (by simp only [u64Max] at below; omega)] at total
  omega

/-- The capacity of a bounded cache is the configured one. -/
theorem Bounded.capacity {svc : CacheService} (below : svc.maxSizeBytes < u64Max)
    (bounded : svc.Bounded s) : svc.effectiveTotalCapacity s = .ok svc.maxSizeBytes := by
  have whole : svc.capacity s.backend.maxSizeBytes = svc.maxSizeBytes := by
    rw [CacheService.capacity, bounded.storage]
    omega
  have capacity := @effectiveTotalCapacity_eq svc s bounded.accounted
    (by rw [whole]; exact bounded.inside)
  rwa [whole] at capacity

/-- Room that was made for an object is enough for it beside the others. -/
theorem stored_inside {svc : CacheService} (below : svc.maxSizeBytes < u64Max)
    (bounded : svc.Bounded s) {now : Int} {key : CacheKey} {xattrs : CacheXattrs}
    (admitted : xattrs.size ≤ svc.capacityBeside s.backend.maxSizeBytes s.index.usedCapacity)
    (spares : ¬ svc.GivesUp now s key xattrs)
    (made : svc.evictIfNeeded (s.reclaimExpiredRestoredExcept now
      (if xattrs.category = .restored then some key else none)) (capacityDelta s key xattrs)
      xattrs.category = (.ok (), after)) :
    xattrs.size + (after.index.removeEntry xattrs.category key).sizes.sum ≤
      svc.maxSizeBytes := by
  let skip := if xattrs.category = .restored then some key else none
  let delta := capacityDelta s key xattrs
  have reclaimed := (reclaim_cleared bounded.accounted now skip).lighter
  have middle := bounded.lighter reclaimed
  have lighter := (Lighter.upheld s).evictIfNeeded svc reclaimed delta xattrs.category
  rw [made] at lighter
  have last : svc.Bounded after := bounded.lighter lighter
  -- The others and what is added to them are in bounds.
  have fits : after.index.sizes.sum + delta ≤ svc.maxSizeBytes := by
    obtain ⟨nothing, _⟩ | ⟨total, _, capacity, _, _, calm⟩ := svc.evictIfNeeded_evicted made
    · have inside := last.inside
      have none : delta = 0 := nothing
      omega
    · rw [middle.capacity below] at capacity
      cases capacity
      exact fits_of_calm below last.accounted last.inside calm
  have upheld : Upheld (Thinned (fun _ => False) s) :=
    Thinned.upheld bounded.accounted.toSound.separated
  have thinned := upheld.evictIfNeeded svc (upheld.reclaim (.refl s) now skip) delta xattrs.category
  rw [made] at thinned
  cases found : s.findEntry key xattrs.category with
  | none =>
    have added : delta = xattrs.size := by simp [delta, capacityDelta, found]
    have absent : after.findEntry key xattrs.category = none := by
      refine Option.eq_none_iff_forall_ne_some.mpr fun entry there => ?_
      obtain ⟨old, was, _⟩ := thinned.older _ _ _ there
      rw [found] at was
      cases was
    have same := (after.index.sizes_removeEntry_absent absent).sum_nat
    omega
  | some old =>
    have added : delta = xattrs.size - old.xattrs.size := by simp [delta, capacityDelta, found]
    -- Staged objects are never evicted, and a restored one was not given up.
    have kept : after.findEntry key xattrs.category = some old := by
      cases kind : xattrs.category with
      | staging =>
        rw [kind] at found
        exact (thinned.staging key not_false).trans found
      | restored =>
        rw [kind] at found
        have holds := holds_of_not_givesUp bounded.accounted found kind admitted spares
        simp only [kind, if_true] at made
        rw [made] at holds
        exact holds.found
    have removed := (after.index.sizes_removeEntry kept).sum_nat
    rw [List.sum_cons] at removed
    omega

/-- A write stores its object once room was made, or fails and takes no more room. -/
theorem putBytes_lighter (accounted : s.Accounted) (now : Int) (key : CacheKey) (data : Bytes)
    (xattrs : CacheXattrs) :
    Lighter s (svc.putBytes now s key data xattrs).2 ∨
      ∃ after, Lighter s after ∧
        svc.evictIfNeeded (s.reclaimExpiredRestoredExcept now
          (if xattrs.category = .restored then some key else none))
          (capacityDelta s key xattrs) xattrs.category = (.ok (), after) ∧
        (svc.putBytes now s key data xattrs).2 = after.stored key xattrs data := by
  obtain ⟨middle, lighter, ⟨error, put⟩ | ⟨made, put⟩⟩ :=
    (Lighter.upheld s).putBytes svc (.refl accounted) now key data xattrs
  · rw [put]
    exact .inl lighter
  · rw [put]
    exact .inr ⟨middle, lighter, made, rfl⟩

/-- A write that does not give up the object it replaces keeps the cache in bounds. -/
theorem Bounded.putBytes {svc : CacheService} (below : svc.maxSizeBytes < u64Max)
    (bounded : svc.Bounded s) (now : Int) (key : CacheKey) (data : Bytes)
    (xattrs : CacheXattrs) (spares : ¬ svc.GivesUp now s key xattrs) :
    svc.Bounded (svc.putBytes now s key data xattrs).2 := by
  have capacity := @effectiveTotalCapacity_counted svc s bounded.accounted
  by_cases admitted : xattrs.size ≤ svc.capacityBeside s.backend.maxSizeBytes s.index.usedCapacity
  swap
  · rw [putBytes_refused capacity (not_le.mp admitted)]
    exact bounded
  obtain lighter | ⟨after, lighter, made, left⟩ :=
    svc.putBytes_lighter bounded.accounted now key data xattrs
  · exact bounded.lighter lighter
  · rw [left]
    refine ⟨lighter.accounted.stored key xattrs data, ?_, ?_⟩
    · rw [stored_backend key xattrs data lighter.accounted.toSound]
      exact lighter.maxSizeBytes.trans bounded.storage
    · rw [stored_index, (after.index.sizes_insertEntry key
        ⟨after.backend.nextId, xattrs⟩).sum_nat, List.sum_cons]
      -- What was made room for is within the bound once it is in.
      exact stored_inside below bounded admitted spares made

/-- Other calls take no more room. -/
theorem perform_lighter (accounted : s.Accounted) {call : CacheCall}
    (other : ∀ now key data xattrs, call ≠ .putBytes now key data xattrs) :
    Lighter s (svc.perform s call) := by
  cases call with
  | putBytes now key data xattrs => exact absurd rfl (other now key data xattrs)
  | get now key => exact (Lighter.upheld s).get (.refl accounted) now key
  | contains now key => exact (Lighter.upheld s).contains (.refl accounted) now key
  | delete key => exact deleteAnswered_lighter accounted key .restored
  | deleteStaging key => exact deleteAnswered_lighter accounted key .staging
  | reclaimExpiredRestored now => exact (reclaim_cleared accounted now none).lighter

/-- Every call keeps the accounts. -/
theorem perform_accounted (accounted : s.Accounted) (call : CacheCall) :
    (svc.perform s call).Accounted := by
  by_cases puts : ∃ now key data xattrs, call = .putBytes now key data xattrs
  · obtain ⟨now, key, data, xattrs, rfl⟩ := puts
    obtain lighter | ⟨after, lighter, _, left⟩ := svc.putBytes_lighter accounted now key data xattrs
    · exact lighter.accounted
    · rw [perform, left]
      exact lighter.accounted.stored key xattrs data
  · exact (svc.perform_lighter accounted fun now key data xattrs same =>
      puts ⟨now, key, data, xattrs, same⟩).accounted

end CacheService

end ColdStore
