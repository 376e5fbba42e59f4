import ColdStore.Cache.Service

/-! What the cache serves under each key, and how every operation changes that. -/

namespace ColdStore

open Rust

/-- An entry apart from the marks of accesses, which are not written to storage. -/
def StoredEntry.unmarked (entry : StoredEntry) : StoredEntry :=
  { entry with xattrs := { entry.xattrs with lastAccessAt := 0, accessCount := 0 } }

namespace CacheIndex

variable (index : CacheIndex) (kind : CacheCategory)

@[simp] theorem entries_setEntries (other : CacheCategory) (entries : HashMap CacheKey StoredEntry)
    : (index.setEntries kind entries).entries other =
      if other = kind then entries else index.entries other := by
  cases kind <;> cases other <;> rfl

@[simp] theorem entries_recomputeUsedCapacity :
    index.recomputeUsedCapacity.entries kind = index.entries kind := by
  cases kind <;> rfl

@[simp] theorem entries_updateHitState (hit : Bool) (kind : CacheCategory) :
    (index.updateHitState hit).entries kind =
      index.entries kind := by
  cases hit <;> cases kind <;> rfl

/-- An access changes the attributes of one entry and nothing else. -/
theorem get_touchEntry (now : Int) (index : CacheIndex) (kind other : CacheCategory)
    (key place : CacheKey) :
    ((index.touchEntry now kind key).entries other).get place =
      if other = kind ∧ place = key then
        ((index.entries kind).get key).map (touched now)
      else (index.entries other).get place := by
  simp only [touchEntry]
  -- A key that is not held is not entered by being touched.
  cases found : (index.entries kind).get key with
  | none =>
    by_cases same : other = kind ∧ place = key
    · obtain ⟨rfl, rfl⟩ := same
      simp [found]
    · simp [same]
  | some entry =>
    simp only [entries_setEntries]
    by_cases sameCategory : other = kind
    · subst sameCategory
      by_cases samePlace : place = key <;> simp [HashMap.get_update, samePlace, found]
    · simp [sameCategory]

variable {index kind}

/-- An access changes the marks of an entry only. -/
theorem unmarked_touchEntry (now : Int) (other : CacheCategory) (key place : CacheKey) :
    (((index.touchEntry now kind key).entries other).get place).map StoredEntry.unmarked =
      ((index.entries other).get place).map StoredEntry.unmarked := by
  rw [get_touchEntry]
  split
  · rename_i same
    rw [same.1, same.2, Option.map_map]
    rfl
  · rfl

theorem staging_touchEntry (now : Int) (key : CacheKey) :
    (index.touchEntry now .restored key).staging = index.staging := by
  simp only [touchEntry]
  split <;> rfl

variable (index kind)

/-- A removal takes out one entry and nothing else. -/
theorem entries_removeEntry (other : CacheCategory) (key : CacheKey) :
    (index.removeEntry kind key).entries other =
      if other = kind then (index.entries kind).remove key else index.entries other := by
  simp [removeEntry]

/-- An insertion changes one entry and nothing else. -/
theorem entries_insertEntry (key : CacheKey) (entry : StoredEntry) (other : CacheCategory) :
    (index.insertEntry key entry).2.entries other =
      if other = entry.xattrs.category then (index.entries other).insert key entry
      else index.entries other := by
  simp only [insertEntry, entries_recomputeUsedCapacity, entries_setEntries]
  split
  · rename_i same
    rw [same]
  · rfl

end CacheIndex

namespace CacheState

/-- The attributes and data the cache serves under a key. -/
def view (s : CacheState HddBackend) (kind : CacheCategory) (key : CacheKey) :
    Option (CacheXattrs × Bytes) :=
  (s.findEntry key kind).bind fun entry =>
    (s.backend.files.get entry.storageId).map fun file => (entry.xattrs, file.data)

/-- Every entry has a file of its own, and fresh identifiers are not in use. -/
structure Sound (s : CacheState HddBackend) : Prop where
  present : ∀ kind key entry, s.findEntry key kind = some entry →
    ∃ file, s.backend.files.get entry.storageId = some file
  older : ∀ id file, s.backend.files.get id = some file → id < s.backend.nextId
  separate : ∀ kind key entry kind' key' entry',
    s.findEntry key kind = some entry → s.findEntry key' kind' = some entry' →
      entry.storageId = entry'.storageId → kind = kind' ∧ key = key'

/-- A cache without entries and files is sound. -/
theorem sound_empty (maxSizeBytes nextId : Nat) :
    Sound ⟨⟨HashMap.empty, maxSizeBytes, nextId⟩, {}⟩ where
  present kind key entry found := by cases kind <;> simp [findEntry, CacheIndex.entries] at found
  older id file stored := by simp at stored
  separate kind key entry kind' key' entry' found := by
    cases kind <;> simp [findEntry, CacheIndex.entries] at found

variable {s : CacheState HddBackend} {kind : CacheCategory} {key : CacheKey}

/-- A sound cache serves every object it has an entry for. -/
theorem Sound.view_isSome (sound : s.Sound) {entry : StoredEntry}
    (found : s.findEntry key kind = some entry) :
    ∃ data, s.view kind key = some (entry.xattrs, data) ∧
      CacheBackend.read s.backend entry.storageId = .ok data := by
  obtain ⟨file, stored⟩ := sound.present kind key entry found
  refine ⟨file.data, by simp [view, found, stored], ?_⟩
  simp [CacheBackend.read, HddBackend.read, stored, okOr, Except.map]

/-- No entry has the identifier that comes next. -/
theorem Sound.storageId_ne (sound : s.Sound) {entry : StoredEntry}
    (found : s.findEntry key kind = some entry) : entry.storageId ≠ s.backend.nextId := by
  obtain ⟨file, stored⟩ := sound.present kind key entry found
  exact (sound.older _ _ stored).ne

/-- What is served has an entry. -/
theorem findEntry_of_view {obj : CacheXattrs × Bytes} (served : s.view kind key = some obj) :
    ∃ entry, s.findEntry key kind = some entry ∧ entry.xattrs = obj.1 ∧
      CacheBackend.read s.backend entry.storageId = .ok obj.2 := by
  simp only [view, Option.bind_eq_some_iff, Option.map_eq_some_iff] at served
  obtain ⟨entry, found, file, stored, rfl⟩ := served
  refine ⟨entry, found, rfl, ?_⟩
  simp [CacheBackend.read, HddBackend.read, stored, okOr, Except.map]

/-- One entry and its file are gone, and everything else is as before. -/
structure Dropped (kind : CacheCategory) (key : CacheKey) (entry : StoredEntry)
    (before after : CacheState HddBackend) : Prop where
  found : before.findEntry key kind = some entry
  entries : ∀ other, after.index.entries other =
    if other = kind then (before.index.entries kind).remove key
    else before.index.entries other
  files : after.backend.files = before.backend.files.remove entry.storageId
  nextId : after.backend.nextId = before.backend.nextId

namespace Dropped

variable {kind : CacheCategory} {key : CacheKey} {entry : StoredEntry}
  {before after : CacheState HddBackend}

/-- Lookups find what they found before, except under the dropped key. -/
theorem findEntry (dropped : Dropped kind key entry before after) (other : CacheCategory)
    (place : CacheKey) :
    after.findEntry place other =
      if other = kind ∧ place = key then none else before.findEntry place other := by
  simp only [CacheState.findEntry, dropped.entries other]
  by_cases sameCategory : other = kind
  · subst sameCategory
    simp [HashMap.get_remove]
  · simp [sameCategory]

/-- The other entries keep their files, since no file is shared. -/
theorem view (sound : before.Sound) (dropped : Dropped kind key entry before after)
    (other : CacheCategory) (place : CacheKey) :
    after.view other place =
      if other = kind ∧ place = key then none else before.view other place := by
  simp only [CacheState.view, dropped.findEntry other place]
  by_cases same : other = kind ∧ place = key
  · simp [same]
  · simp only [same, if_false]
    cases found : before.findEntry place other with
    | none => rfl
    | some kept =>
      have distinct : kept.storageId ≠ entry.storageId := by
        intro shared
        exact same (sound.separate _ _ _ _ _ _ found dropped.found shared)
      simp [dropped.files, HashMap.get_remove_ne _ distinct]

/-- Dropping an entry keeps the cache sound. -/
theorem sound (sound : before.Sound) (dropped : Dropped kind key entry before after) :
    after.Sound where
  present other place kept found := by
    rw [dropped.findEntry] at found
    split at found
    · simp at found
    · rename_i ne
      obtain ⟨file, stored⟩ := sound.present _ _ _ found
      -- No other entry shares the file that went.
      have distinct : kept.storageId ≠ entry.storageId := by
        intro shared
        exact ne (sound.separate _ _ _ _ _ _ found dropped.found shared)
      exact ⟨file, by rw [dropped.files, HashMap.get_remove_ne _ distinct, stored]⟩
  older id file stored := by
    rw [dropped.files, HashMap.get_remove] at stored
    rw [dropped.nextId]
    split at stored
    · simp at stored
    · exact sound.older id file stored
  separate other place kept other' place' kept' found found' shared := by
    rw [dropped.findEntry] at found found'
    split at found
    · simp at found
    · split at found'
      · simp at found'
      · exact sound.separate _ _ _ _ _ _ found found' shared

end Dropped

/-- The deletion of a stored file succeeds and takes out that file only. -/
theorem delete_stored {backend : HddBackend} {id : Nat} {file : HddFile}
    (stored : backend.files.get id = some file) :
    CacheBackend.delete backend id =
      (.ok (), { backend with files := backend.files.remove id }) := by
  simp [CacheBackend.delete, HddBackend.delete, HddBackend.readXattrs, stored, okOr, Except.map]

/-- The deletion of a missing file fails and changes nothing. -/
theorem delete_missing {backend : HddBackend} {id : Nat} (missing : backend.files.get id = none) :
    CacheBackend.delete backend id = (.error HddBackend.missingFile, backend) := by
  simp [CacheBackend.delete, HddBackend.delete, HddBackend.readXattrs, missing, okOr, Except.map]

theorem deleteEntry_absent (absent : s.findEntry key kind = none) :
    s.deleteEntry key kind = (.ok false, s) := by
  simp [deleteEntry, absent]

/-- In a sound cache a deletion takes away the file and the entry. -/
theorem deleteEntry_eq (sound : s.Sound) {entry : StoredEntry}
    (found : s.findEntry key kind = some entry) :
    s.deleteEntry key kind =
      (.ok true, ⟨{ s.backend with files := s.backend.files.remove entry.storageId },
        s.index.removeEntry kind key⟩) := by
  obtain ⟨file, stored⟩ := sound.present _ _ _ found
  have still : s.index.stillStored kind key entry.storageId = true := by
    rw [CacheState.findEntry] at found
    simp [CacheIndex.stillStored, found]
  simp only [deleteEntry, found, delete_stored stored, still, if_true]

/-- In a sound cache a deletion succeeds and drops the entry. -/
theorem deleteEntry_found (sound : s.Sound) {entry : StoredEntry}
    (found : s.findEntry key kind = some entry) :
    (s.deleteEntry key kind).1 = .ok true ∧
      Dropped kind key entry s (s.deleteEntry key kind).2 := by
  rw [deleteEntry_eq sound found]
  exact ⟨rfl, found, fun other => s.index.entries_removeEntry kind other key, rfl, rfl⟩

section

variable {σ : Type} (s : CacheState σ)

/-- An index has the entries of a cache, up to the marks of accesses. -/
def SameUnmarked (index : CacheIndex) : Prop :=
  ∀ kind key, ((index.entries kind).get key).map StoredEntry.unmarked =
    (s.findEntry key kind).map StoredEntry.unmarked

variable {s} in
theorem SameUnmarked.exists_old {index : CacheIndex} (same : s.SameUnmarked index)
    {entry : StoredEntry} (found : (index.entries kind).get key = some entry) :
    ∃ old, s.findEntry key kind = some old ∧ old.storageId = entry.storageId ∧
      old.unmarked = entry.unmarked := by
  have before := same kind key
  rw [found, Option.map_some, eq_comm, Option.map_eq_some_iff] at before
  obtain ⟨old, was, unmarked⟩ := before
  have identifiers := congrArg StoredEntry.storageId unmarked
  exact ⟨old, was, identifiers, unmarked⟩

theorem sameUnmarked_updateHitState (hit : Bool) : s.SameUnmarked (s.index.updateHitState hit) := by
  intro kind key
  rw [CacheIndex.entries_updateHitState]
  rfl

theorem sameUnmarked_touchEntry (now : Int) (key : CacheKey) :
    s.SameUnmarked (s.index.touchEntry now .restored key) :=
  fun kind place => CacheIndex.unmarked_touchEntry now kind key place

end

/-- Marks of accesses do not matter to files. -/
theorem Sound.of_index (sound : s.Sound) {index : CacheIndex}
    (same : s.SameUnmarked index) : Sound { s with index } where
  present kind key entry found := by
    obtain ⟨old, was, identifiers, _⟩ := same.exists_old found
    rw [← identifiers]
    exact sound.present kind key old was
  older := sound.older
  separate kind key entry kind' key' entry' found found' shared := by
    obtain ⟨old, was, same₁, _⟩ := same.exists_old found
    obtain ⟨old', was', same₂, _⟩ := same.exists_old found'
    exact sound.separate _ _ _ _ _ _ was was' (by rw [same₁, same₂, shared])

/-- Staging is as before, whatever happened to restored objects. -/
structure StagingKept (before after : CacheState HddBackend) : Prop where
  sound : after.Sound
  entries : after.index.staging = before.index.staging
  view : ∀ key, after.view .staging key = before.view .staging key

namespace StagingKept

variable {first second third : CacheState HddBackend}

theorem refl (sound : first.Sound) : StagingKept first first := ⟨sound, rfl, fun _ => rfl⟩

theorem trans (left : StagingKept first second) (right : StagingKept second third) :
    StagingKept first third where
  sound := right.sound
  entries := right.entries.trans left.entries
  view key := (right.view key).trans (left.view key)

/-- Dropping a restored object keeps staging. -/
theorem of_dropped {key : CacheKey} {entry : StoredEntry} (sound : first.Sound)
    (dropped : Dropped .restored key entry first second) : StagingKept first second where
  sound := dropped.sound sound
  entries := dropped.entries .staging
  view place := by simp [dropped.view sound]

/-- So does a change of the index that leaves staged entries and all identifiers alone. -/
theorem of_index {index : CacheIndex} (sound : first.Sound)
    (staging : index.staging = first.index.staging)
    (same : first.SameUnmarked index) : StagingKept first { first with index } where
  sound := sound.of_index same
  entries := staging
  view key := by simp [CacheState.view, CacheState.findEntry, CacheIndex.entries, staging]

end StagingKept

theorem deleteEntry_keepsStaging (sound : s.Sound) (key : CacheKey) :
    StagingKept s (s.deleteEntry key .restored).2 := by
  cases found : s.findEntry key .restored with
  | none =>
    rw [deleteEntry_absent found]
    exact .refl sound
  | some entry => exact .of_dropped sound (deleteEntry_found sound found).2

end CacheState

namespace CacheService

open CacheState

variable (svc : CacheService)

/-- Only restored objects are chosen for eviction. -/
theorem chooseVictimCategory_restored {pressure : CapacityPressure} {index : CacheIndex}
    {kind : CacheCategory} (chosen : chooseVictimCategory pressure index = some kind) :
    kind = .restored := by
  simp only [chooseVictimCategory] at chosen
  split at chosen
  · simp at chosen
  · split at chosen
    · simpa using chosen.symm
    · simp at chosen

/-- A chosen victim is one of the restored objects. -/
theorem selectEvictionCandidate_found {index : CacheIndex} {key : CacheKey} {victim : StoredEntry}
    (selected : svc.selectEvictionCandidate index .restored = some (key, victim)) :
    index.restored.get key = some victim := by
  rw [← HashMap.mem_entries]
  simp only [selectEvictionCandidate] at selected
  split at selected <;> exact (minByKey_spec selected).1

variable {s : CacheState HddBackend}

/-- Evicting a restored object succeeds in a sound cache. -/
theorem evict_dropped (sound : s.Sound) {key : CacheKey} {victim : StoredEntry}
    (found : s.index.restored.get key = some victim) :
    (evict s .restored key victim).1 = .ok () ∧
      Dropped .restored key victim s (evict s .restored key victim).2 := by
  obtain ⟨file, stored⟩ := sound.present .restored key victim found
  simp only [evict, delete_stored stored]
  refine ⟨trivial, found, ?_, rfl, rfl⟩
  intro other
  rw [CacheIndex.entries_removeEntry]
  cases other <;> rfl

end CacheService

namespace CacheState

section

variable {σ : Type} [CacheBackend σ]

/-- What every access to restored objects keeps. -/
structure Upheld (holds : CacheState σ → Prop) : Prop where
  deleteEntry : ∀ {s} key, holds s → holds (s.deleteEntry key .restored).2
  updateHitState : ∀ {s} hit, holds s →
    holds { s with index := s.index.updateHitState hit }
  touchEntry : ∀ {s} now key, holds s →
    holds { s with index := s.index.touchEntry now .restored key }
  evict : ∀ {s key victim}, holds s → s.index.restored.get key = some victim →
    holds (CacheService.evict s .restored key victim).2

namespace Upheld

variable {holds : CacheState σ → Prop} {s : CacheState σ} (svc : CacheService)
  (upheld : Upheld holds) (before : holds s)

include upheld before

/-- Every round leaves the cache as it is or evicts one restored object. -/
theorem evictRounds (incomingSize : Nat) (kind : CacheCategory) (totalCapacity : Nat)
    (rounds : Nat) :
    holds (svc.evictRounds incomingSize kind totalCapacity rounds s).2 := by
  induction rounds generalizing s with
  | zero => exact before
  | succ rounds ih =>
    simp only [CacheService.evictRounds]
    split
    · exact before
    · split
      · exact before
      · rename_i victimCategory chosen
        obtain rfl := CacheService.chooseVictimCategory_restored chosen
        split
        · exact before
        · rename_i key victim selected
          have evicted := upheld.evict before (svc.selectEvictionCandidate_found selected)
          split
          · -- A failed eviction ends the rounds with the state it left.
            split <;> rename_i after result <;> rw [result] at evicted
            · exact ih evicted
            · exact evicted
          · exact ih before

theorem evictIfNeeded (incomingSize : Nat) (kind : CacheCategory) :
    holds (svc.evictIfNeeded s incomingSize kind).2 := by
  simp only [CacheService.evictIfNeeded]
  split
  · exact before
  · split
    · exact before
    · split
      · exact before
      · have rounds := upheld.evictRounds svc before incomingSize kind ‹Nat› svc.evictBatchSize
        split <;> rename_i after ended <;> rw [ended] at rounds <;> exact rounds

theorem reclaim (now : Int) (skip : Option CacheKey) :
    holds (s.reclaimExpiredRestoredExcept now skip) := by
  simp only [reclaimExpiredRestoredExcept, deleteAll]
  -- One deletion after the other.
  exact List.foldlRecOn _ _ before fun _ held key _ => upheld.deleteEntry key held

/-- A write fails before anything is written, or writes once room was made. -/
theorem putBytes (now : Int) (key : CacheKey) (data : Bytes) (xattrs : CacheXattrs) :
    ∃ middle, holds middle ∧
      ((∃ error, svc.putBytes now s key data xattrs = (.error error, middle)) ∨
        svc.evictIfNeeded (s.reclaimExpiredRestoredExcept now
          (if xattrs.category = .restored then some key else none))
          (CacheService.capacityDelta s key xattrs) xattrs.category = (.ok (), middle) ∧
        svc.putBytes now s key data xattrs =
          match CacheBackend.write middle.backend key.asCursor data xattrs with
          | (.error error, backend) => (.error error, { middle with backend })
          | (.ok id, backend) => (.ok id, replaceEntry { middle with backend } key ⟨id, xattrs⟩)) := by
  simp only [CacheService.putBytes]
  split
  · exact ⟨s, before, .inl ⟨_, rfl⟩⟩
  · -- Reclaiming and evicting only touch restored objects.
    have made := upheld.evictIfNeeded svc (upheld.reclaim before now
      (if xattrs.category = .restored then some key else none))
      (CacheService.capacityDelta s key xattrs) xattrs.category
    split <;> rename_i middle ended <;> rw [ended] at made
    · exact ⟨middle, made, .inl ⟨_, rfl⟩⟩
    · exact ⟨middle, made, .inr ⟨ended, rfl⟩⟩

theorem get (now : Int) (key : CacheKey) : holds (s.get now key).2 := by
  have read : holds (readRestored now s key).2 := by
    simp only [readRestored]
    split
    -- A miss is counted, an expired entry goes, and any other one is touched.
    · exact upheld.updateHitState false before
    · split
      · exact upheld.updateHitState false (upheld.deleteEntry key before)
      · exact upheld.updateHitState true (upheld.touchEntry now key before)
  simp only [CacheState.get]
  split <;> rename_i result <;> rw [result] at read <;> exact read

theorem contains (now : Int) (key : CacheKey) : holds (s.contains now key).2 := by
  simp only [CacheState.contains]
  split
  · exact upheld.updateHitState false before
  · split
    · exact upheld.updateHitState false (upheld.deleteEntry key before)
    · exact upheld.updateHitState true before

end Upheld

end

/-- Staging is kept by whatever happens to restored objects. -/
theorem StagingKept.upheld (first : CacheState HddBackend) : Upheld (StagingKept first) where
  deleteEntry key kept := kept.trans (deleteEntry_keepsStaging kept.sound key)
  updateHitState hit kept := kept.trans
    (.of_index kept.sound (by cases hit <;> rfl) (sameUnmarked_updateHitState _ hit))
  touchEntry now key kept := kept.trans
    (.of_index kept.sound (CacheIndex.staging_touchEntry now key) (sameUnmarked_touchEntry _ now key))
  evict kept found :=
    kept.trans (.of_dropped kept.sound (CacheService.evict_dropped kept.sound found).2)

/-- One object is stored under a key, and everything else is as before. -/
structure Stored (key : CacheKey) (xattrs : CacheXattrs) (data : Bytes)
    (before after : CacheState HddBackend) : Prop where
  sound : after.Sound
  entries : ∃ id, ∀ other, after.index.entries other =
    if other = xattrs.category then (before.index.entries other).insert key ⟨id, xattrs⟩
    else before.index.entries other
  view : ∀ other place, after.view other place =
    if other = xattrs.category ∧ place = key then some (xattrs, data)
    else before.view other place

/-- A stored object is served. -/
theorem Stored.view_self {key : CacheKey} {xattrs : CacheXattrs} {data : Bytes}
    {before after : CacheState HddBackend} (stored : Stored key xattrs data before after) :
    after.view xattrs.category key = some (xattrs, data) := by
  simp [stored.view]

section

variable {σ : Type} [CacheBackend σ] (s : CacheState σ) (key : CacheKey) (entry : StoredEntry)

/-- Deleting a replaced file does not touch the index. -/
theorem replaceEntry_index :
    (s.replaceEntry key entry).index = (s.index.insertEntry key entry).2 := by
  simp only [replaceEntry]
  split
  · rfl
  · split <;> rfl

/-- The entry that was written is found under its key, and the others where they were. -/
theorem replaceEntry_findEntry (kind : CacheCategory) (place : CacheKey) :
    (s.replaceEntry key entry).findEntry place kind =
      if kind = entry.xattrs.category ∧ place = key then some entry
      else s.findEntry place kind := by
  simp only [findEntry, replaceEntry_index, CacheIndex.entries_insertEntry]
  by_cases sameCategory : kind = entry.xattrs.category
  · simp [sameCategory, HashMap.get_insert]
  · simp [sameCategory]

end

/-- Write an object to the backend and enter it in the index. -/
def stored (s : CacheState HddBackend) (key : CacheKey) (xattrs : CacheXattrs)
    (data : Bytes) : CacheState HddBackend := CacheState.replaceEntry
    { s with backend := (CacheBackend.write s.backend key.asCursor data xattrs).2 }
    key ⟨s.backend.nextId, xattrs⟩

variable {s : CacheState HddBackend} (key : CacheKey) (xattrs : CacheXattrs) (data : Bytes)

theorem stored_index : (s.stored key xattrs data).index =
    (s.index.insertEntry key ⟨s.backend.nextId, xattrs⟩).2 := replaceEntry_index _ _ _

theorem stored_findEntry (other : CacheCategory) (place : CacheKey) :
    (s.stored key xattrs data).findEntry place other =
      if other = xattrs.category ∧ place = key then some ⟨s.backend.nextId, xattrs⟩
      else s.findEntry place other := replaceEntry_findEntry _ _ _ other place

variable (sound : s.Sound)

include sound

/-- The file is written under the next identifier, and then the replaced one is deleted. -/
theorem stored_backend : (s.stored key xattrs data).backend =
    let written := s.backend.files.insert s.backend.nextId ⟨xattrs, data⟩
    { s.backend with
      files := (s.findEntry key xattrs.category).elim written fun old =>
        written.remove old.storageId
      nextId := s.backend.nextId + 1 } := by
  cases found : s.findEntry key xattrs.category with
  | none =>
    rw [findEntry] at found
    simp only [stored, replaceEntry, CacheIndex.insertEntry, found]
    rfl
  | some old =>
    have distinct := sound.storageId_ne found
    obtain ⟨file, present⟩ := sound.present _ _ _ found
    have still : (CacheBackend.write s.backend key.asCursor data xattrs).2.files.get
        old.storageId = some file := (HashMap.get_insert_ne _ _ distinct).trans present
    rw [findEntry] at found
    simp only [stored, replaceEntry, CacheIndex.insertEntry, found, ne_eq, distinct,
      not_false_eq_true, if_true, delete_stored still]
    rfl

/-- The written file is there, and the file of the replaced entry is not. -/
theorem stored_files (id : Nat) :
    (s.stored key xattrs data).backend.files.get id =
      if id = s.backend.nextId then some ⟨xattrs, data⟩
      else if (s.findEntry key xattrs.category).any fun entry => entry.storageId = id then none
      else s.backend.files.get id := by
  rw [stored_backend key xattrs data sound]
  cases found : s.findEntry key xattrs.category with
  | none => simp [HashMap.get_insert]
  | some old =>
    have distinct := sound.storageId_ne found
    simp only [Option.elim_some, HashMap.get_remove, HashMap.get_insert, Option.any_some,
      decide_eq_true_eq]
    by_cases fresh : id = s.backend.nextId
    · simp [fresh, distinct.symm]
    · by_cases replaced : id = old.storageId
      · simp [replaced, distinct]
      · simp [fresh, replaced, Ne.symm replaced]

/-- An entry that stays has a file that stays. -/
theorem stored_kept {other : CacheCategory} {place : CacheKey} {entry : StoredEntry}
    (ne : ¬ (other = xattrs.category ∧ place = key))
    (found : s.findEntry place other = some entry) :
    (s.stored key xattrs data).backend.files.get entry.storageId =
      s.backend.files.get entry.storageId := by
  -- The file is neither the one just written nor the one that was replaced.
  have fresh := sound.storageId_ne found
  have unshared : (s.findEntry key xattrs.category).any
      (fun previous => decide (previous.storageId = entry.storageId)) = false := by
    rw [Option.any_eq_false]
    intro previous replaced
    simp only [decide_eq_false_iff_not]
    intro shared
    obtain ⟨rfl, rfl⟩ := sound.separate _ _ _ _ _ _ replaced found shared
    exact ne ⟨rfl, rfl⟩
  rw [stored_files key xattrs data sound, if_neg fresh, unshared]
  simp

theorem stored_sound : (s.stored key xattrs data).Sound where
  present other place entry found := by
    rw [stored_findEntry] at found
    split at found
    · simp only [Option.some.injEq] at found
      subst found
      exact ⟨⟨xattrs, data⟩, by simp [stored_files key xattrs data sound]⟩
    · rename_i ne
      rw [stored_kept key xattrs data sound ne found]
      exact sound.present _ _ _ found
  older id file present := by
    rw [stored_files key xattrs data sound] at present
    rw [stored_backend key xattrs data sound]
    show id < s.backend.nextId + 1
    split at present
    · omega
    · split at present
      · simp at present
      · have := sound.older _ _ present
        omega
  separate other place entry other' place' entry' found found' shared := by
    -- The new entry has an identifier that no older entry has.
    rw [stored_findEntry] at found found'
    split at found <;> split at found'
    · rename_i same same'
      exact ⟨same.1.trans same'.1.symm, same.2.trans same'.2.symm⟩
    · simp only [Option.some.injEq] at found
      subst found
      exact absurd shared.symm (sound.storageId_ne found')
    · simp only [Option.some.injEq] at found'
      subst found'
      exact absurd shared (sound.storageId_ne found)
    · exact sound.separate _ _ _ _ _ _ found found' shared

theorem stored_stored : Stored key xattrs data s (s.stored key xattrs data) where
  sound := stored_sound key xattrs data sound
  entries := by
    refine ⟨s.backend.nextId, fun other => ?_⟩
    rw [stored_index, CacheIndex.entries_insertEntry]
  view other place := by
    simp only [CacheState.view, stored_findEntry]
    -- Only the place that was written has changed, in the index and among the files.
    by_cases same : other = xattrs.category ∧ place = key
    · simp [same, stored_files key xattrs data sound]
    · simp only [same, if_false]
      cases found : s.findEntry place other with
      | none => rfl
      | some entry => simp [stored_kept key xattrs data sound same found]

end CacheState

end ColdStore
