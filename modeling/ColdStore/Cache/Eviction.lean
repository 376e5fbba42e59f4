import ColdStore.Cache.Accounting
import ColdStore.Rust.Lowest

/-! Which restored objects go when room is made, how many of them, and when that is enough. -/

namespace ColdStore

open Rust

/--
What restored entries are compared by when one of them has to go.

Counters and sizes are written as integers here, so that both policies compare the same kinds of
values; that changes no comparison.
-/
def EvictionPolicy.rank :
    EvictionPolicy → CacheKey × StoredEntry → Int ×ₗ Int ×ₗ Int ×ₗ Int ×ₗ String
  | .lfu, (key, entry) => toLex ((entry.xattrs.accessCount : Int),
      toLex (entry.xattrs.lastAccessAt, toLex (entry.xattrs.cachedAt,
        toLex ((entry.xattrs.size : Int), key.asCursor))))
  | .lru, (_, entry) => toLex (entry.xattrs.lastAccessAt,
      toLex (entry.xattrs.cachedAt, toLex ((entry.xattrs.size : Int),
        toLex ((entry.xattrs.accessCount : Int), entry.xattrs.key))))

/-- The size of an entry, read off what it is compared by. -/
def EvictionPolicy.rankSize : EvictionPolicy → Int ×ₗ Int ×ₗ Int ×ₗ Int ×ₗ String → Nat
  | .lfu, rank => (ofLex (ofLex (ofLex (ofLex rank).2).2).2).1.toNat
  | .lru, rank => (ofLex (ofLex (ofLex rank).2).2).1.toNat

theorem EvictionPolicy.rankSize_rank (policy : EvictionPolicy) (entry : CacheKey × StoredEntry) :
    policy.rankSize (policy.rank entry) = entry.2.xattrs.size := by
  cases policy <;> simp [rank, rankSize]

namespace CacheService

variable (svc : CacheService)

/-- The victim comes first among the restored entries. -/
theorem selectEvictionCandidate_least {index : CacheIndex} {victim : CacheKey × StoredEntry}
    (selected : svc.selectEvictionCandidate index .restored = some victim) :
    ∀ other ∈ index.restored.entries,
      svc.evictionPolicy.rank victim ≤ svc.evictionPolicy.rank other := by
  intro other mem
  simp only [selectEvictionCandidate] at selected
  -- Both policies take the entry of least rank, and differ in the rank alone.
  cases policy : svc.evictionPolicy
  all_goals
    rw [policy] at selected
    have least := (minByKey_spec selected).2 other mem
    simpa [EvictionPolicy.rank, Prod.Lex.toLex_le_toLex, Int.natCast_inj] using least

end CacheService

namespace CacheIndex

/-- The index without some of its restored entries. -/
def dropRestored (index : CacheIndex) (removed : List (CacheKey × StoredEntry)) : CacheIndex :=
  removed.foldl (fun index entry => index.removeEntry .restored entry.1) index

variable (index : CacheIndex)

@[simp] theorem dropRestored_nil : index.dropRestored [] = index := rfl

@[simp] theorem dropRestored_cons (entry : CacheKey × StoredEntry)
    (rest : List (CacheKey × StoredEntry)) :
    index.dropRestored (entry :: rest) =
      (index.removeEntry .restored entry.1).dropRestored rest := rfl

@[simp] theorem staging_dropRestored (removed : List (CacheKey × StoredEntry)) :
    (index.dropRestored removed).staging = index.staging := by
  induction removed generalizing index with
  | nil => rfl
  | cons entry rest ih =>
    rw [dropRestored_cons, ih]
    rfl

variable {removed kept : List (CacheKey × StoredEntry)}

/-- Dropping one part of the restored entries leaves the other. -/
theorem restored_dropRestored (split : index.restored.entries.Perm (removed ++ kept)) :
    (index.dropRestored removed).restored.entries.Perm kept := by
  induction removed generalizing index with
  | nil => simpa using split
  | cons entry rest ih =>
    have stored : entry ∈ index.restored.entries := split.mem_iff.mpr (by simp)
    have found := (HashMap.mem_entries _ _ _).mp stored
    rw [dropRestored_cons]
    exact ih _ ((index.restored.entries_perm_remove found).symm.trans split).cons_inv

/-- Once an entry was dropped, the room that is taken was counted again. -/
theorem usedCapacity_dropRestored (some_ : removed ≠ []) :
    (index.dropRestored removed).usedCapacity = sumU64 (index.dropRestored removed).sizes := by
  induction removed generalizing index with
  | nil => exact absurd rfl some_
  | cons entry rest ih =>
    cases rest with
    | nil => rfl
    | cons next others =>
      rw [dropRestored_cons]
      exact ih _ (by simp)

/-- The bytes of listed entries. -/
def bytes (entries : List (CacheKey × StoredEntry)) : Nat :=
  (entries.map fun entry => entry.2.xattrs.size).sum

theorem bytes_perm {entries others : List (CacheKey × StoredEntry)} (same : entries.Perm others) :
    bytes entries = bytes others := (same.map _).sum_nat

@[simp] theorem bytes_nil : bytes [] = 0 := rfl

@[simp] theorem bytes_append (entries others : List (CacheKey × StoredEntry)) :
    bytes (entries ++ others) = bytes entries + bytes others := by
  simp [bytes]

@[simp] theorem bytes_cons (entry : CacheKey × StoredEntry) (rest : List (CacheKey × StoredEntry)) :
    bytes (entry :: rest) = entry.2.xattrs.size + bytes rest := by
  simp [bytes]

theorem stagingUsed_eq : index.stagingUsed = bytes index.staging.entries % 2 ^ 64 := by
  simp [stagingUsed, sumU64, HashMap.values, bytes, Function.comp_def]

theorem restoredUsed_eq : index.restoredUsed = bytes index.restored.entries % 2 ^ 64 := by
  simp [restoredUsed, sumU64, HashMap.values, bytes, Function.comp_def]

theorem sum_sizes :
    index.sizes.sum = bytes index.staging.entries + bytes index.restored.entries := by
  simp [sizes, HashMap.values, bytes, Function.comp_def]

/-- The bytes of the entries that stay are those of all entries but the dropped ones. -/
theorem bytes_dropRestored (split : index.restored.entries.Perm (removed ++ kept)) :
    bytes index.restored.entries =
      bytes removed + bytes (index.dropRestored removed).restored.entries := by
  rw [bytes_perm split, bytes_append, bytes_perm (index.restored_dropRestored split)]

/-- The index with evictions counted. -/
def counting (removed : List (CacheKey × StoredEntry)) : CacheIndex :=
  { index with
    evictCount := index.evictCount + removed.length
    evictBytes := index.evictBytes + bytes removed }

/-- Dropping entries counts nothing as evicted. -/
theorem dropRestored_counters (removed : List (CacheKey × StoredEntry)) :
    (index.dropRestored removed).evictCount = index.evictCount ∧
      (index.dropRestored removed).evictBytes = index.evictBytes := by
  induction removed generalizing index with
  | nil => exact ⟨rfl, rfl⟩
  | cons entry rest ih => exact ih (index.removeEntry .restored entry.1)

/-- What was counted before is not touched when entries are dropped. -/
theorem dropRestored_counting (counted removed : List (CacheKey × StoredEntry)) :
    (index.counting counted).dropRestored removed = (index.dropRestored removed).counting counted := by
  induction removed generalizing index with
  | nil => rfl
  | cons entry rest ih => exact ih (index.removeEntry .restored entry.1)

end CacheIndex

/-- None of the four limits would be passed. -/
structure CapacityPressure.Relieved (pressure : CapacityPressure) : Prop where
  staging : pressure.stagingAfter ≤ pressure.stagingBudget
  restored : pressure.restoredAfter ≤ pressure.restoredBudget
  total : pressure.usedAfter ≤ pressure.totalCapacity
  watermark : ∀ target, pressure.lowWatermarkTarget = some target → pressure.usedAfter ≤ target

/-- Nothing more has to go exactly when no limit would be passed. -/
theorem CapacityPressure.relieved_iff {pressure : CapacityPressure} :
    pressure.Relieved ↔ CacheService.shouldEvict pressure = false := by
  simp only [CacheService.shouldEvict, stagingPressure, restoredPressure, globalWatermarkPressure,
    totalPressure, Bool.or_eq_false_iff, decide_eq_false_iff_not, gt_iff_lt, Nat.not_lt]
  constructor
  · intro relieved
    refine ⟨⟨⟨relieved.staging, relieved.restored⟩, ?_⟩, relieved.total⟩
    cases target : pressure.lowWatermarkTarget with
    | none => rfl
    | some target' => simpa using relieved.watermark target' target
  · rintro ⟨⟨⟨staging, restored⟩, watermark⟩, total⟩
    refine ⟨staging, restored, total, fun target limit => ?_⟩
    simpa [limit] using watermark

namespace CacheService

open CacheIndex

variable {σ : Type} [CacheBackend σ] (svc : CacheService)

/-- When no limit is reported, none would be passed. -/
theorem remainingPressure_ok {pressure : CapacityPressure}
    (ok : remainingPressure pressure = .ok ()) : shouldEvict pressure = false := by
  simp only [remainingPressure] at ok
  -- Each kind of pressure has an error of its own, and none is left after them.
  split at ok
  · rename_i calm
    simpa using calm
  · split at ok
    · cases ok
    · split at ok
      · cases ok
      · split at ok
        · cases ok
        · split at ok
          · cases ok
          · simp_all [shouldEvict]

section

variable (incomingSize : Nat) (kind : CacheCategory) (totalCapacity : Nat)

variable {s after : CacheState σ}

/-- Rounds that succeed end when no limit would be passed. -/
theorem evictRounds_ok {rounds : Nat}
    (ended : svc.evictRounds incomingSize kind totalCapacity rounds s = (some (.ok ()), after)) :
    shouldEvict (svc.pressureWith incomingSize kind totalCapacity after.index) = false := by
  induction rounds generalizing s with
  | zero => cases ended
  | succ rounds ih =>
    simp only [evictRounds] at ended
    split at ended
    -- The rounds end with success only when no pressure is left.
    · rename_i calm
      cases ended
      simpa using calm
    · split at ended
      · cases ended
      · split at ended
        · cases ended
        · split at ended
          · split at ended
            · exact ih ended
            · cases ended
          · exact ih ended

/-- An eviction that succeeds takes the victim out of the index and counts it. -/
theorem evict_ok {key : CacheKey} {victim : StoredEntry}
    (ended : evict s .restored key victim = (.ok (), after)) :
    after.index = (s.index.removeEntry .restored key).counting [(key, victim)] := by
  simp only [evict] at ended
  split at ended
  · cases ended
    simp [counting, removeEntry, setEntries, recomputeUsedCapacity, CacheIndex.entries]
  · cases ended

/-- Which entries went, and that each of them went while some limit was still passed. -/
structure Evicted (before : CacheIndex) (removed : List (CacheKey × StoredEntry))
    (after : CacheIndex) : Prop where
  lowest : Lowest svc.evictionPolicy.rank before.restored.entries removed
    (before.dropRestored removed).restored.entries
  sorted : removed.Pairwise fun earlier later =>
    svc.evictionPolicy.rank earlier ≤ svc.evictionPolicy.rank later
  index : after = (before.dropRestored removed).counting removed
  pressed : ∀ count < removed.length, ¬ (svc.pressureWith incomingSize kind totalCapacity
    (before.dropRestored (removed.take count))).Relieved

namespace Evicted

variable {svc incomingSize kind totalCapacity}
  {before after : CacheIndex} {removed : List (CacheKey × StoredEntry)}

theorem nil (index : CacheIndex) :
    svc.Evicted incomingSize kind totalCapacity index [] index :=
  ⟨.nil _, .nil, rfl, fun _ below => absurd below (Nat.not_lt_zero _)⟩

/-- One more entry goes before the others, if it comes first and a limit is passed with it. -/
theorem cons {victim : CacheKey × StoredEntry}
    (found : before.restored.get victim.1 = some victim.2)
    (least : ∀ other ∈ before.restored.entries,
      svc.evictionPolicy.rank victim ≤ svc.evictionPolicy.rank other)
    (pressed : ¬ (svc.pressureWith incomingSize kind totalCapacity before).Relieved)
    (later : svc.Evicted incomingSize kind totalCapacity
      ((before.removeEntry .restored victim.1).counting [victim]) removed after) :
    svc.Evicted incomingSize kind totalCapacity before (victim :: removed) after where
  lowest := by
    have split := before.restored.entries_perm_remove found
    have lowest := later.lowest
    rw [dropRestored_counting] at lowest
    refine .cons split (fun other mem => least other ?_) lowest
    exact split.mem_iff.mpr (List.mem_cons_of_mem _ mem)
  sorted := by
    refine List.pairwise_cons.mpr ⟨fun other mem => least other ?_, later.sorted⟩
    have split := before.restored.entries_perm_remove found
    exact split.mem_iff.mpr (List.mem_cons_of_mem _
      (later.lowest.split.mem_iff.mpr (List.mem_append_left _ mem)))
  index := by
    rw [later.index, dropRestored_counting]
    simp [counting, Nat.add_assoc, Nat.add_comm 1]
  pressed count below := by
    cases count with
    | zero => exact pressed
    | succ count =>
      -- Counters play no part in the pressure.
      have next := later.pressed count (by simpa using below)
      rw [dropRestored_counting] at next
      exact next

/-- What is left of the restored entries. -/
theorem restored (evicted : svc.Evicted incomingSize kind totalCapacity before removed after) :
    after.restored = (before.dropRestored removed).restored := by
  rw [evicted.index]
  rfl

end Evicted

/-- Rounds of evictions that end without a failure remove what comes first, one by one. -/
theorem evictRounds_evicted {rounds : Nat} {answer : Option (Except String Unit)}
    (ended : svc.evictRounds incomingSize kind totalCapacity rounds s = (answer, after))
    (fine : ∀ error, answer ≠ some (.error error)) :
    ∃ removed, removed.length ≤ rounds ∧
      svc.Evicted incomingSize kind totalCapacity s.index removed after.index := by
  -- Each round removes nothing more or adds one victim in front of those of the later rounds.
  induction rounds generalizing s with
  | zero =>
    cases ended
    exact ⟨[], Nat.le_refl _, .nil _⟩
  | succ rounds ih =>
    simp only [evictRounds] at ended
    split at ended
    · cases ended
      exact ⟨[], Nat.zero_le _, .nil _⟩
    · rename_i pressure
      have pressed : ¬ (svc.pressureWith incomingSize kind totalCapacity s.index).Relieved := by
        rw [CapacityPressure.relieved_iff]
        simpa using pressure
      split at ended
      · cases ended
        exact ⟨[], Nat.zero_le _, .nil _⟩
      · rename_i victimCategory chosen
        obtain rfl := chooseVictimCategory_restored chosen
        split at ended
        · cases ended
          exact absurd rfl (fine _)
        · rename_i key victim selected
          have found := svc.selectEvictionCandidate_found selected
          have least := svc.selectEvictionCandidate_least selected
          split at ended
          · split at ended
            · rename_i middle evicted
              obtain ⟨removed, few, later⟩ := ih ended
              rw [evict_ok evicted] at later
              exact ⟨(key, victim) :: removed, Nat.succ_le_succ few,
                .cons found least pressed later⟩
            · cases ended
              exact absurd rfl (fine _)
          -- The index was read under the same lock, so the victim is always still there.
          · obtain ⟨removed, few, later⟩ := ih ended
            exact ⟨removed, few.trans (Nat.le_succ _), later⟩

/-- Lowest parts of one size leave the same pressure when they are dropped. -/
theorem pressureWith_dropRestored {index : CacheIndex}
    {part rest other kept : List (CacheKey × StoredEntry)}
    (lowest : Lowest svc.evictionPolicy.rank index.restored.entries part rest)
    (lowest' : Lowest svc.evictionPolicy.rank index.restored.entries other kept)
    (size : part.length = other.length) :
    svc.pressureWith incomingSize kind totalCapacity (index.dropRestored part) =
      svc.pressureWith incomingSize kind totalCapacity (index.dropRestored other) := by
  -- The size of an entry is among the things it is compared by.
  have sizes : ∀ entries : List (CacheKey × StoredEntry), bytes entries =
      ((entries.map svc.evictionPolicy.rank).map svc.evictionPolicy.rankSize).sum := by
    intro entries
    simp [bytes, Function.comp_def, EvictionPolicy.rankSize_rank]
  have same : bytes part = bytes other := by
    rw [sizes, sizes]
    exact ((lowest.keys_perm lowest' size).map _).sum_nat
  have left : bytes (index.dropRestored part).restored.entries =
      bytes (index.dropRestored other).restored.entries := by
    have first := index.bytes_dropRestored lowest.split
    have second := index.bytes_dropRestored lowest'.split
    omega
  have used : (index.dropRestored part).usedCapacity = (index.dropRestored other).usedCapacity := by
    cases part with
    | nil =>
      obtain rfl := List.length_eq_zero_iff.mp size.symm
      rfl
    | cons first more =>
      have some_ : other ≠ [] := fun empty => by simp [empty] at size
      rw [usedCapacity_dropRestored _ (by simp), usedCapacity_dropRestored _ some_]
      simp only [sumU64, sum_sizes, left, staging_dropRestored]
  simp only [pressureWith, stagingUsed_eq, restoredUsed_eq, left, used, staging_dropRestored]

namespace Evicted

variable {svc incomingSize kind totalCapacity}
  {before after : CacheIndex} {removed : List (CacheKey × StoredEntry)}

variable (evicted : svc.Evicted incomingSize kind totalCapacity before removed after)

include evicted

/-- Fewer entries of those that come first leave some limit passed. -/
theorem least {part rest : List (CacheKey × StoredEntry)}
    (lowest : Lowest svc.evictionPolicy.rank before.restored.entries part rest)
    (fewer : part.length < removed.length) :
    ¬ (svc.pressureWith incomingSize kind totalCapacity (before.dropRestored part)).Relieved := by
  -- As many of the evicted entries leave the same pressure.
  have taken := evicted.lowest.take evicted.sorted part.length
  have size : part.length = (removed.take part.length).length := by
    rw [List.length_take]
    omega
  rw [svc.pressureWith_dropRestored incomingSize kind totalCapacity lowest taken size]
  exact evicted.pressed part.length fewer

/-- What is taken after evictions is still counted as it is. -/
theorem used (used : before.usedCapacity = before.sizes.sum) (small : before.sizes.sum ≤ u64Max) :
    after.usedCapacity = after.sizes.sum ∧ after.sizes.sum ≤ before.sizes.sum := by
  have sizes : after.sizes = (before.dropRestored removed).sizes := by
    rw [evicted.index]
    rfl
  have counted : after.usedCapacity = (before.dropRestored removed).usedCapacity := by
    rw [evicted.index]
    rfl
  have lighter : after.sizes.sum ≤ before.sizes.sum := by
    have bytes := before.bytes_dropRestored evicted.lowest.split
    rw [sizes, sum_sizes, sum_sizes, staging_dropRestored]
    omega
  refine ⟨?_, lighter⟩
  rw [counted, sizes]
  -- The sum in 64 bits is the exact one, since it only became smaller.
  cases removed with
  | nil => exact used
  | cons first more =>
    have word : u64Max < 2 ^ 64 := by decide
    rw [usedCapacity_dropRestored _ (by simp), sumU64, ← sizes, Nat.mod_eq_of_lt (by omega)]

end Evicted

end

/-- Room is made, unless none was asked for. -/
theorem evictIfNeeded_evicted {incomingSize : Nat} {kind : CacheCategory} {s after : CacheState σ}
    (ended : svc.evictIfNeeded s incomingSize kind = (.ok (), after)) :
    (incomingSize = 0 ∧ after = s) ∨
      ∃ totalCapacity removed, svc.effectiveTotalCapacity s = .ok totalCapacity ∧
        removed.length ≤ svc.evictBatchSize ∧
        svc.Evicted incomingSize kind totalCapacity s.index removed after.index ∧
        shouldEvict (svc.pressureWith incomingSize kind totalCapacity after.index) = false := by
  simp only [evictIfNeeded] at ended
  split at ended
  -- An object that takes no room is let in under any pressure.
  · rename_i nothing
    cases ended
    exact .inl ⟨nothing, rfl⟩
  · split at ended
    · cases ended
    · rename_i totalCapacity capacity
      refine .inr ⟨totalCapacity, ?_⟩
      split at ended
      · cases ended
      · split at ended
        · rename_i rounds
          cases ended
          obtain ⟨removed, few, evicted⟩ := svc.evictRounds_evicted _ _ _ rounds (by simp)
          exact ⟨removed, capacity, few, evicted, svc.evictRounds_ok _ _ _ rounds⟩
        · rename_i rounds
          obtain ⟨ok, rfl⟩ := Prod.mk.inj ended
          obtain ⟨removed, few, evicted⟩ := svc.evictRounds_evicted _ _ _ rounds (by simp)
          exact ⟨removed, capacity, few, evicted, remainingPressure_ok ok⟩

end CacheService

end ColdStore
