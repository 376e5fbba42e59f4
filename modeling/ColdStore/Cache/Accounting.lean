import ColdStore.Cache.ServiceLaws
import ColdStore.Rust.Totals

/-! How much room the cached objects take, and writes that find enough of it. -/

namespace ColdStore

open Rust

namespace CacheIndex

/-- The sizes of all cached objects. -/
def sizes (index : CacheIndex) : List Nat :=
  (index.staging.values ++ index.restored.values).map fun entry => entry.xattrs.size

variable (index : CacheIndex)

/-- An object is one of those that take room. -/
theorem sizes_removeEntry {kind : CacheCategory} {key : CacheKey} {entry : StoredEntry}
    (found : (index.entries kind).get key = some entry) :
    index.sizes.Perm (entry.xattrs.size :: (index.removeEntry kind key).sizes) := by
  have apart := HashMap.values_perm_remove _ found
  cases kind with
  | staging => exact (apart.append_right _).map _
  | restored => exact ((apart.append_left _).trans List.perm_middle).map _

/-- An object takes room beside those under other keys. -/
theorem sizes_insertEntry (key : CacheKey) (entry : StoredEntry) :
    (index.insertEntry key entry).2.sizes.Perm
      (entry.xattrs.size :: (index.removeEntry entry.xattrs.category key).sizes) := by
  have beside := (index.entries entry.xattrs.category).values_insert_perm key entry
  simp only [insertEntry]
  cases kind : entry.xattrs.category with
  | staging =>
    rw [kind] at beside
    exact (beside.append_right _).map _
  | restored =>
    rw [kind] at beside
    exact ((beside.append_left _).trans List.perm_middle).map _

/-- Without an entry there is nothing to remove. -/
theorem sizes_removeEntry_absent {kind : CacheCategory} {key : CacheKey}
    (absent : (index.entries kind).get key = none) :
    (index.removeEntry kind key).sizes.Perm index.sizes := by
  have same := HashMap.values_perm (HashMap.remove_of_absent _ absent)
  cases kind with
  | staging => exact (same.append_right _).map _
  | restored => exact (same.append_left _).map _

/-- What is staged is part of what is cached. -/
theorem stagingUsed_le : index.stagingUsed ≤ index.sizes.sum := by
  refine (sumU64_le _).trans ?_
  simp only [sizes, List.map_append, List.sum_append]
  omega

/-- What is restored is part of what is cached. -/
theorem restoredUsed_le : index.restoredUsed ≤ index.sizes.sum := by
  refine (sumU64_le _).trans ?_
  simp only [sizes, List.map_append, List.sum_append]
  omega

end CacheIndex

namespace CacheState

/-- The room taken is counted, and every file is that of an entry of the same size. -/
structure Accounted (s : CacheState HddBackend) : Prop extends s.Sound where
  counted : s.index.usedCapacity = sumU64 s.index.sizes
  sized : ∀ kind key entry file, s.findEntry key kind = some entry →
    s.backend.files.get entry.storageId = some file → file.xattrs.size = entry.xattrs.size
  filled : (s.backend.files.values.map fun file => file.xattrs.size).Perm s.index.sizes

/-- An empty cache has its accounts in order. -/
theorem accounted_empty (maxSizeBytes nextId : Nat) :
    Accounted ⟨⟨HashMap.empty, maxSizeBytes, nextId⟩, {}⟩ where
  toSound := sound_empty maxSizeBytes nextId
  counted := rfl
  sized kind key entry file found := by
    cases kind <;> simp [findEntry, CacheIndex.entries] at found
  filled := .nil

variable {s : CacheState HddBackend}

variable {kind : CacheCategory} {key : CacheKey} {entry : StoredEntry}

variable {after : CacheState HddBackend}

/-- The sizes of the entries that are left when one was dropped. -/
theorem Dropped.sizes {before : CacheState HddBackend}
    (dropped : Dropped kind key entry before after) :
    before.index.sizes.Perm (entry.xattrs.size :: after.index.sizes) := by
  have same : (before.index.removeEntry kind key).sizes = after.index.sizes := by
    have staging := dropped.entries .staging
    have restored := dropped.entries .restored
    simp only [CacheIndex.entries] at staging restored
    simp only [CacheIndex.sizes, staging, restored]
    cases kind <;> rfl
  rw [← same]
  exact before.index.sizes_removeEntry dropped.found

/-- Dropping an entry with its file keeps the accounts, if the room is counted again. -/
theorem Accounted.of_dropped (accounted : s.Accounted) (dropped : Dropped kind key entry s after)
    (counted : after.index.usedCapacity = sumU64 after.index.sizes) : after.Accounted := by
  obtain ⟨file, stored⟩ := accounted.present _ _ _ dropped.found
  refine ⟨dropped.sound accounted.toSound, counted, ?_, ?_⟩
  · intro other place kept kept' there
    rw [dropped.findEntry] at there
    split at there
    · cases there
    · rename_i ne
      -- No other entry shares the file that is gone.
      have apart : kept.storageId ≠ entry.storageId := fun shared =>
        ne (accounted.separate _ _ _ _ _ _ there dropped.found shared)
      rw [dropped.files, HashMap.get_remove_ne _ apart]
      exact accounted.sized _ _ _ _ there
  · -- One file and one entry of the same size are gone.
    have files := (HashMap.values_perm_remove _ stored).map fun file => file.xattrs.size
    have both := (files.symm.trans accounted.filled).trans dropped.sizes
    rw [List.map_cons, accounted.sized _ _ _ _ dropped.found stored, ← dropped.files] at both
    exact both.cons_inv

/-- A deletion keeps the accounts. -/
theorem Accounted.deleteEntry (accounted : s.Accounted) (key : CacheKey)
    (kind : CacheCategory) : (s.deleteEntry key kind).2.Accounted := by
  cases found : s.findEntry key kind with
  | none =>
    rw [deleteEntry_absent found]
    exact accounted
  | some entry =>
    refine accounted.of_dropped (deleteEntry_found accounted.toSound found).2 ?_
    rw [deleteEntry_eq accounted.toSound found]
    cases kind <;> rfl

/-- A deletion frees room, if it does anything. -/
theorem deleteEntry_smaller (accounted : s.Accounted) (key : CacheKey) (kind : CacheCategory) :
    (s.deleteEntry key kind).2.index.sizes.sum ≤ s.index.sizes.sum := by
  cases found : s.findEntry key kind with
  | none => rw [deleteEntry_absent found]
  | some entry =>
    have sum := (deleteEntry_found accounted.toSound found).2.sizes.sum_nat
    rw [List.sum_cons] at sum
    omega

/-- A deletion does not change the size of the disk. -/
theorem deleteEntry_maxSizeBytes (sound : s.Sound) (key : CacheKey) (kind : CacheCategory) :
    (s.deleteEntry key kind).2.backend.maxSizeBytes = s.backend.maxSizeBytes := by
  cases found : s.findEntry key kind with
  | none => rw [deleteEntry_absent found]
  | some entry => rw [deleteEntry_eq sound found]

/-- Some restored objects are gone, and nothing else has changed. -/
structure Cleared (gone : CacheKey → Prop) (before after : CacheState HddBackend) : Prop where
  accounted : after.Accounted
  maxSizeBytes : after.backend.maxSizeBytes = before.backend.maxSizeBytes
  staging : after.index.staging = before.index.staging
  fewer : ∀ key entry, after.findEntry key .restored = some entry →
    before.findEntry key .restored = some entry
  kept : ∀ kind key, (kind = .restored → ¬ gone key) → after.view kind key = before.view kind key
  smaller : after.index.sizes.sum ≤ before.index.sizes.sum

namespace Cleared

variable {gone more : CacheKey → Prop} {first second third : CacheState HddBackend}

/-- Nothing is cleared by doing nothing. -/
theorem refl (accounted : first.Accounted) : Cleared gone first first :=
  ⟨accounted, rfl, rfl, fun _ _ found => found, fun _ _ _ => rfl, le_rfl⟩

/-- Clearing twice clears. -/
theorem trans (left : Cleared gone first second) (right : Cleared gone second third) :
    Cleared gone first third where
  accounted := right.accounted
  maxSizeBytes := right.maxSizeBytes.trans left.maxSizeBytes
  staging := right.staging.trans left.staging
  fewer key entry found := left.fewer key entry (right.fewer key entry found)
  kept kind key stays := (right.kept kind key stays).trans (left.kept kind key stays)
  smaller := right.smaller.trans left.smaller

/-- What is cleared may be more than what is gone. -/
theorem mono (cleared : Cleared gone first second) (implies : ∀ key, gone key → more key) :
    Cleared more first second :=
  { cleared with kept := fun kind key stays =>
      cleared.kept kind key fun restored lost => stays restored (implies key lost) }

end Cleared

/-- Deleting a restored object clears at most that one. -/
theorem deleteEntry_cleared (accounted : s.Accounted) (key : CacheKey) :
    Cleared (· = key) s (s.deleteEntry key .restored).2 := by
  have staging := (deleteEntry_keepsStaging accounted.toSound key).entries
  cases found : s.findEntry key .restored with
  | none =>
    rw [deleteEntry_absent found]
    exact .refl accounted
  | some entry =>
    -- What is deleted is the entry with its file, and nothing else.
    have dropped := (deleteEntry_found accounted.toSound found).2
    refine ⟨accounted.deleteEntry key .restored, ?_, staging, fun place kept there => ?_,
      fun kind place stays => ?_, ?_⟩
    · rw [deleteEntry_eq accounted.toSound found]
    · rw [dropped.findEntry] at there
      split at there
      · cases there
      · exact there
    · rw [deleteEntry_view accounted.toSound, if_neg (by simpa using stays)]
    · exact deleteEntry_smaller accounted key .restored

/-- Deleting restored objects one after another clears at most those. -/
theorem deleteAll_cleared (accounted : s.Accounted) (keys : List CacheKey) :
    Cleared (· ∈ keys) s (s.deleteAll .restored keys) := by
  induction keys generalizing s with
  | nil => exact .refl accounted
  | cons key rest ih =>
    have first := deleteEntry_cleared accounted key
    exact (first.mono (by simp)).trans ((ih first.accounted).mono (by simp +contextual))

/-- A restored object has an expiry that has come. -/
def HasExpired (s : CacheState HddBackend) (now : Int) (key : CacheKey) : Prop :=
  ∃ entry, s.findEntry key .restored = some entry ∧ isExpiredAt entry.xattrs.expireAt now = true

/-- Only expired objects are reclaimed. -/
theorem reclaim_cleared (accounted : s.Accounted) (now : Int) (skip : Option CacheKey) :
    Cleared (s.HasExpired now) s (s.reclaimExpiredRestoredExcept now skip) := by
  refine (deleteAll_cleared accounted _).mono fun key mem => ?_
  obtain ⟨⟨_, entry⟩, listed, rfl⟩ := List.mem_map.mp mem
  obtain ⟨inside, expired⟩ := List.mem_filter.mp listed
  exact ⟨entry, (HashMap.mem_entries _ _ _).mp (List.mem_filter.mp inside).1, expired⟩

/-- The files are those of the other entries and the one that was written. -/
theorem stored_values (accounted : s.Accounted) (key : CacheKey) (xattrs : CacheXattrs)
    (data : Bytes) :
    ((s.stored key xattrs data).backend.files.values.map fun file => file.xattrs.size).Perm
      (xattrs.size :: (s.index.removeEntry xattrs.category key).sizes) := by
  have fresh : s.backend.files.get s.backend.nextId = none := by
    cases found : s.backend.files.get s.backend.nextId with
    | none => rfl
    | some file => exact absurd (accounted.older _ _ found) (lt_irrefl _)
  have written := (HashMap.values_insert_absent s.backend.files ⟨xattrs, data⟩ fresh).map
    fun file => file.xattrs.size
  rw [stored_backend key xattrs data accounted.toSound]
  cases found : s.findEntry key xattrs.category with
  | none =>
    refine written.trans (accounted.filled.cons _ |>.trans (.cons _ ?_))
    exact (s.index.sizes_removeEntry_absent found).symm
  | some old =>
    -- The file of the replaced entry is deleted behind the new one.
    obtain ⟨file, present⟩ := accounted.present _ _ _ found
    have still := (HashMap.get_insert_ne _ (⟨xattrs, data⟩ : HddFile)
      (accounted.toSound.storageId_ne found)).trans present
    have removed := (HashMap.values_perm_remove _ still).map fun file => file.xattrs.size
    rw [List.map_cons, accounted.sized _ _ _ _ found present] at removed
    have entries := accounted.filled.trans (s.index.sizes_removeEntry found)
    have both := (removed.symm.trans written).trans ((entries.cons _).trans (.swap _ _ _))
    exact both.cons_inv

/-- An object that is stored, in place of another or not, is accounted for. -/
theorem Accounted.stored (accounted : s.Accounted) (key : CacheKey) (xattrs : CacheXattrs)
    (data : Bytes) : (s.stored key xattrs data).Accounted := by
  have sound := accounted.toSound
  refine ⟨stored_sound key xattrs data sound, ?_, ?_, ?_⟩
  · rw [stored_index]
    rfl
  -- The new entry has its own file, and every other file was there before.
  · intro kind place entry file found there
    rw [stored_findEntry] at found
    split at found
    · cases found
      rw [stored_files key xattrs data sound, if_pos rfl, Option.some.injEq] at there
      rw [← there]
    · rename_i ne
      rw [stored_kept key xattrs data sound ne found] at there
      exact accounted.sized _ _ _ _ found there
  · rw [stored_index]
    exact (stored_values accounted key xattrs data).trans
      (s.index.sizes_insertEntry key ⟨s.backend.nextId, xattrs⟩).symm

/-- One object is stored, and at most some restored ones are gone. -/
structure Admitted (gone : CacheKey → Prop) (key : CacheKey) (xattrs : CacheXattrs) (data : Bytes)
    (before after : CacheState HddBackend) : Prop where
  accounted : after.Accounted
  maxSizeBytes : after.backend.maxSizeBytes = before.backend.maxSizeBytes
  entries : ∀ kind place entry, after.findEntry place kind = some entry →
    (kind = xattrs.category ∧ place = key ∧ entry.xattrs = xattrs) ∨
      before.findEntry place kind = some entry
  itself : after.view xattrs.category key = some (xattrs, data)
  others : ∀ kind place, ¬ (kind = xattrs.category ∧ place = key) →
    (kind = .restored → ¬ gone place) → after.view kind place = before.view kind place

/-- Clearing first and storing then admits an object. -/
theorem Cleared.admitted {gone : CacheKey → Prop} {cleared : CacheState HddBackend}
    (only : Cleared gone s cleared) (key : CacheKey) (xattrs : CacheXattrs) (data : Bytes) :
    Admitted gone key xattrs data s (cleared.stored key xattrs data) := by
  -- Clearing only ever takes restored entries away.
  have fewer : ∀ kind place entry, cleared.findEntry place kind = some entry →
      s.findEntry place kind = some entry := by
    intro kind place entry found
    cases kind with
    | staging =>
      rw [findEntry, CacheIndex.entries, only.staging] at found
      exact found
    | restored => exact only.fewer place entry found
  have stored := stored_stored key xattrs data only.accounted.toSound
  obtain ⟨id, entries⟩ := stored.entries
  refine ⟨only.accounted.stored key xattrs data, ?_, fun kind place entry found => ?_,
    stored.view_self, fun kind place ne stays => ?_⟩
  · rw [stored_backend key xattrs data only.accounted.toSound]
    exact only.maxSizeBytes
  · rw [findEntry, entries] at found
    split at found
    · rename_i same
      rw [HashMap.get_insert] at found
      split at found
      · rename_i here
        obtain rfl := Option.some.inj found
        exact Or.inl ⟨same, here, rfl⟩
      · exact Or.inr (fewer _ _ _ found)
    · exact Or.inr (fewer _ _ _ found)
  · rw [stored.view, if_neg ne]
    exact only.kept kind place stays

end CacheState

namespace CacheService

variable (svc : CacheService)

/-- The capacity a cache works with as long as its objects fit into it. -/
def capacity (storageBytes : Nat) : Nat := min (min storageBytes u64Max) svc.maxSizeBytes

/-- Objects of some total size fit into the cache without passing any of its limits. -/
structure RoomFor (storageBytes total : Nat) : Prop where
  positive : 0 < svc.capacity storageBytes
  all : total ≤ svc.capacity storageBytes
  staging : total ≤ (svc.splitCapacityByStaticRatio (svc.capacity storageBytes)).1
  restored : total ≤ (svc.splitCapacityByStaticRatio (svc.capacity storageBytes)).2
  watermark : ∀ target ∈ svc.effectiveLowWatermarkUsed (svc.capacity storageBytes), total ≤ target

/-- The capacity of a cache on a disk of some size, when its objects are counted as taking some. -/
def capacityBeside (storageBytes used : Nat) : Nat :=
  min (saturatingAdd used (storageBytes - used)) svc.maxSizeBytes

variable {svc} {s : CacheState HddBackend} {total : Nat}

/-- What is used and what the disk has left make up the capacity. -/
theorem effectiveTotalCapacity_counted (accounted : s.Accounted) :
    svc.effectiveTotalCapacity s =
      .ok (svc.capacityBeside s.backend.maxSizeBytes s.index.usedCapacity) := by
  have files : ((s.backend.files.entries.map fun entry => (entry.1, entry.2.xattrs)).map
      fun entry => entry.2.size).sum = s.index.sizes.sum := by
    rw [← accounted.filled.sum_nat, List.map_map, HashMap.values, List.map_map]
    rfl
  simp only [effectiveTotalCapacity, capacityBeside, CacheBackend.availableBytes,
    HddBackend.availableBytes, HddBackend.listAll, Except.map, accounted.counted, sumU64, files]

/-- The capacity is the whole disk as long as the objects fit on it. -/
theorem effectiveTotalCapacity_eq (accounted : s.Accounted)
    (fits : s.index.sizes.sum ≤ svc.capacity s.backend.maxSizeBytes) :
    svc.effectiveTotalCapacity s = .ok (svc.capacity s.backend.maxSizeBytes) := by
  have small : s.index.sizes.sum ≤ s.backend.maxSizeBytes ∧ s.index.sizes.sum < 2 ^ 64 := by
    simp only [capacity, u64Max] at fits
    omega
  -- Nothing wraps below the capacity, so the counter shows the real sum.
  have used : s.index.usedCapacity = s.index.sizes.sum := by
    rw [accounted.counted, sumU64, Nat.mod_eq_of_lt small.2]
  rw [effectiveTotalCapacity_counted accounted, capacityBeside, used, saturatingAdd,
    Nat.add_sub_cancel' small.1, capacity]

/-- An object fits into a capacity that is none too small for it and not zero. -/
theorem fitsCapacity_ok_iff {size capacity : Nat} :
    fitsCapacity size capacity = .ok () ↔ 0 < capacity ∧ size ≤ capacity := by
  simp only [fitsCapacity]
  split
  · simp_all
  · split <;> simp <;> omega

/-- With enough room no limit is passed. -/
theorem shouldEvict_roomy {storageBytes : Nat} (room : svc.RoomFor storageBytes total)
    {index : CacheIndex} (counted : index.usedCapacity = sumU64 index.sizes) {incoming : Nat}
    (fits : index.sizes.sum + incoming ≤ total) (kind : CacheCategory) :
    shouldEvict (svc.pressureWith incoming kind (svc.capacity storageBytes) index) =
      false := by
  -- Whatever is used with the new object stays within the total.
  have bounded : ∀ used, used ≤ index.sizes.sum → ∀ more, more ≤ incoming →
      saturatingAdd used more ≤ total := by
    intro used inside more added
    exact (Nat.min_le_left _ _).trans (by omega)
  have share : ∀ wanted : CacheCategory, (if kind = wanted then incoming else 0) ≤ incoming := by
    intro wanted
    split <;> omega
  have staging := (bounded _ index.stagingUsed_le _ (share .staging)).trans room.staging
  have restored := (bounded _ index.restoredUsed_le _ (share .restored)).trans room.restored
  have used := bounded index.usedCapacity (counted ▸ sumU64_le _) incoming le_rfl
  have watermark : (svc.effectiveLowWatermarkUsed (svc.capacity storageBytes)).any
      (fun target => decide (target < saturatingAdd index.usedCapacity incoming)) = false := by
    rw [Option.any_eq_false]
    intro target found
    have := room.watermark target found
    simp only [decide_eq_false_iff_not]
    omega
  -- None of the four kinds of pressure is felt.
  simp only [shouldEvict, pressureWith, CapacityPressure.stagingPressure,
    CapacityPressure.restoredPressure, CapacityPressure.globalWatermarkPressure,
    CapacityPressure.totalPressure, gt_iff_lt, watermark, Nat.not_lt.mpr staging,
    Nat.not_lt.mpr restored, Nat.not_lt.mpr (used.trans room.all), decide_false, Bool.or_self]

variable (room : svc.RoomFor s.backend.maxSizeBytes total)

include room

/-- With enough room nothing is evicted. -/
theorem evictIfNeeded_roomy (accounted : s.Accounted) {incoming : Nat}
    (fits : s.index.sizes.sum + incoming ≤ total) (kind : CacheCategory) :
    svc.evictIfNeeded s incoming kind = (.ok (), s) := by
  have capacity : svc.effectiveTotalCapacity s =
      .ok (svc.capacity s.backend.maxSizeBytes) :=
    effectiveTotalCapacity_eq accounted (by have := room.all; omega)
  have incomingFits : fitsCapacity incoming (svc.capacity s.backend.maxSizeBytes) =
      .ok () := fitsCapacity_ok_iff.mpr ⟨room.positive, by have := room.all; omega⟩
  -- There is at least one round, and it has nothing to do.
  obtain ⟨rounds, atLeastOne⟩ : ∃ rounds, svc.evictBatchSize = rounds + 1 :=
    Nat.exists_eq_add_one.mpr (by rw [evictBatchSize]; omega)
  simp only [evictIfNeeded, capacity, incomingFits, atLeastOne, evictRounds,
    shouldEvict_roomy room accounted.counted fits kind, Bool.not_false, if_true, ite_self]

/-- With enough room an object that was not there is written, and only expired ones are dropped. -/
theorem putBytes_roomy (accounted : s.Accounted) (now : Int) {key : CacheKey} (data : Bytes)
    {xattrs : CacheXattrs} (absent : s.findEntry key xattrs.category = none)
    (fits : s.index.sizes.sum + xattrs.size ≤ total) :
    ∃ id after, svc.putBytes now s key data xattrs = (.ok id, after) ∧
      CacheState.Admitted (s.HasExpired now) key xattrs data s after := by
  have capacity : svc.effectiveTotalCapacity s =
      .ok (svc.capacity s.backend.maxSizeBytes) :=
    effectiveTotalCapacity_eq accounted (by have := room.all; omega)
  have whole : svc.ensureObjectSizeWithinTotalCapacity s xattrs.size = .ok () := by
    simp only [ensureObjectSizeWithinTotalCapacity, capacity, Bind.bind, Except.bind]
    exact fitsCapacity_ok_iff.mpr ⟨room.positive, by have := room.all; omega⟩
  -- Nothing is replaced, so the whole size is new.
  have delta : capacityDelta s key xattrs = xattrs.size := by
    simp [capacityDelta, absent]
  let except := if xattrs.category = .restored then some key else none
  have cleared := CacheState.reclaim_cleared accounted now except
  -- Clearing expired objects only makes more room.
  have still := Nat.add_le_add_right cleared.smaller xattrs.size
  have evicted := evictIfNeeded_roomy (cleared.maxSizeBytes ▸ room) cleared.accounted
    (still.trans fits) xattrs.category
  have put : ∃ id, svc.putBytes now s key data xattrs =
      (.ok id, (CacheState.reclaimExpiredRestoredExcept now s except).stored key xattrs data) := by
    simp only [putBytes, whole, delta]
    rw [evicted]
    exact ⟨_, rfl⟩
  obtain ⟨id, put⟩ := put
  exact ⟨id, _, put, cleared.admitted key xattrs data⟩

/-- With enough room an upload is staged. -/
theorem putStaging_roomy (accounted : s.Accounted) (now : Int) (obj : PutStagingMeta) {data : Bytes}
    (sized : obj.size = data.length) (absent : s.findEntry obj.cacheKey .staging = none)
    (fits : s.index.sizes.sum + data.length ≤ total) :
    ∃ id after, svc.putStaging now s [some (.metadata obj), some (.data data)] =
        (.ok id, after) ∧
      CacheState.Admitted (s.HasExpired now) obj.cacheKey (obj.xattrs now) data s
        after := by
  -- The description and one chunk are all a client sends.
  have size : (obj.xattrs now).size = data.length := sized
  obtain ⟨id, after, put, admitted⟩ := putBytes_roomy room accounted now data
    (show s.findEntry obj.cacheKey (obj.xattrs now).category = none from absent)
    (size ▸ fits)
  refine ⟨decimal id, after, ?_, admitted⟩
  simp only [putStaging, collectMessages_pair, okOr, ensure, sized, decide_true, Bind.bind,
    Except.bind, if_true, put]

/-- With enough room a recalled object is kept. -/
theorem putRestored_roomy (accounted : s.Accounted) (now : Int) (obj : PutRestoredMeta)
    {data : Bytes} (sized : obj.size = data.length) {expireAt : Timestamp}
    (expires : obj.expireAt = some expireAt) (absent : s.findEntry obj.cacheKey .restored = none)
    (fits : s.index.sizes.sum + data.length ≤ total) :
    ∃ after, svc.putRestored now s [some (.metadata obj), some (.data data)] =
        (.ok (), after) ∧
      CacheState.Admitted (s.HasExpired now) obj.cacheKey (obj.xattrs now expireAt) data
        s after := by
  -- An expiry is required here, and the task has one.
  have size : (obj.xattrs now expireAt).size = data.length := sized
  obtain ⟨id, after, put, admitted⟩ := putBytes_roomy room accounted now data
    (show s.findEntry obj.cacheKey (obj.xattrs now expireAt).category = none from absent)
    (size ▸ fits)
  refine ⟨after, ?_, admitted⟩
  simp only [putRestored, collectMessages_pair, okOr, ensure, sized, expires, decide_true, Bind.bind,
    Except.bind, if_true, put]

end CacheService

end ColdStore
