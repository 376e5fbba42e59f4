import ColdStore.Cache.Laws

/-! What each procedure of the cache answers, and what it does to staged objects. -/

namespace ColdStore

open Rust CacheState

variable (svc : CacheService) {s : CacheState HddBackend}

/-- A write stores the object once room is made for it, or fails and stores nothing. -/
theorem putBytes_cases (sound : s.Sound) (now : Int) (key : CacheKey) (data : Bytes)
    (xattrs : CacheXattrs) :
    (∃ middle, StagingKept s middle ∧ svc.putBytes now s key data xattrs =
      (.ok middle.backend.nextId, middle.stored key xattrs data)) ∨
    ∃ error after, StagingKept s after ∧
      svc.putBytes now s key data xattrs = (.error error, after) := by
  obtain ⟨middle, kept, ⟨error, put⟩ | ⟨_, put⟩⟩ :=
    (StagingKept.upheld s).putBytes svc (.refl sound) now key data xattrs
  · exact .inr ⟨error, middle, kept, put⟩
  · exact .inl ⟨middle, kept, put⟩

/-- The two messages of an upload are received as they were sent. -/
theorem collectMessages_pair {μ : Type} (emptyChunk : String) (description : μ) (data : Bytes) :
    collectMessages emptyChunk none [] [some (.metadata description), some (.data data)] =
      .ok (some description, data) := by
  simp [collectMessages]

section

variable (sound : s.Sound)

include sound

/-- An upload is staged, or refused without a change of staging. -/
theorem putStaging_cases (now : Int) (obj : PutStagingMeta) (data : Bytes)
    (sized : obj.size = data.length) :
    (∃ id middle, StagingKept s middle ∧
      svc.putStaging now s [some (.metadata obj), some (.data data)] =
        (.ok id, middle.stored obj.cacheKey (obj.xattrs now) data)) ∨
    ∃ status after, StagingKept s after ∧
      svc.putStaging now s [some (.metadata obj), some (.data data)] = (.error status, after) := by
  simp only [CacheService.putStaging, collectMessages_pair, okOr, ensure, sized, decide_true,
    Bind.bind, Except.bind, if_true]
  -- The message passes its checks, so the outcome is the one of the write.
  rcases putBytes_cases svc sound now obj.cacheKey data (obj.xattrs now) with
    ⟨middle, kept, put⟩ | ⟨error, after, kept, put⟩
  · simp only [put]
    exact Or.inl ⟨_, middle, kept, rfl⟩
  · simp only [put]
    exact Or.inr ⟨_, after, kept, rfl⟩

/-- Keeping a recalled object leaves staging as it is. -/
theorem putRestored_keepsStaging (now : Int) (messages : List (Message PutRestoredMeta)) :
    StagingKept s (svc.putRestored now s messages).2 := by
  simp only [CacheService.putRestored]
  split
  · exact .refl sound
  · rename_i obj data expireAt _
    rcases putBytes_cases svc sound now obj.cacheKey data
      (obj.xattrs now expireAt) with ⟨middle, kept, put⟩ | ⟨error, after, kept, put⟩
    · simp only [put]
      -- The object was written among the restored ones, which staging does not see.
      have stored := stored_stored obj.cacheKey (obj.xattrs now expireAt) data kept.sound
      refine kept.trans ⟨stored.sound, ?_, fun place => ?_⟩
      · obtain ⟨id, entries⟩ := stored.entries
        exact entries .staging
      · rw [stored.view]
        simp [PutRestoredMeta.xattrs]
    · simp only [put]
      exact kept

variable (key : CacheKey)

/-- In a sound cache deletions always succeed. -/
theorem deleteAnswered_ok (kind : CacheCategory) :
    s.deleteAnswered key kind = (.ok (), (s.deleteEntry key kind).2) := by
  cases found : s.findEntry key kind with
  | none => simp [deleteAnswered, deleteEntry_absent found]
  | some entry =>
    obtain ⟨answer, _⟩ := deleteEntry_found sound found
    simp only [deleteAnswered]
    split
    · rename_i error after failed
      rw [failed] at answer
      simp at answer
    · rename_i after deleted
      rw [deleted]

/-- A deletion takes out the object under the key, if there is one, and nothing else. -/
theorem deleteEntry_view (kind other : CacheCategory) (place : CacheKey) :
    (s.deleteEntry key kind).2.view other place =
      if other = kind ∧ place = key then none else s.view other place := by
  cases found : s.findEntry key kind with
  | none =>
    rw [deleteEntry_absent found, eq_comm, ite_eq_right_iff]
    rintro ⟨rfl, rfl⟩
    simp [CacheState.view, found]
  | some entry => exact (deleteEntry_found sound found).2.view sound other place

theorem deleteEntry_sound (kind : CacheCategory) : (s.deleteEntry key kind).2.Sound := by
  cases found : s.findEntry key kind with
  | none =>
    rw [deleteEntry_absent found]
    exact sound
  | some entry => exact (deleteEntry_found sound found).2.sound sound

/-- What is stored after a deletion. -/
theorem deleteEntry_findEntry (kind other : CacheCategory) (place : CacheKey) :
    (s.deleteEntry key kind).2.findEntry place other =
      if other = kind ∧ place = key then none else s.findEntry place other := by
  cases found : s.findEntry key kind with
  | none =>
    rw [deleteEntry_absent found, eq_comm, ite_eq_right_iff]
    rintro ⟨rfl, rfl⟩
    exact found.symm
  | some entry => exact (deleteEntry_found sound found).2.findEntry other place

theorem deleteStaging_eq :
    s.deleteStaging key = (.ok (), (s.deleteEntry key .staging).2) :=
  deleteAnswered_ok sound key .staging

/-- Serving a restored object leaves staging as it is. -/
theorem get_keepsStaging (now : Int) (key : CacheKey) :
    StagingKept s (CacheState.get now s key).2 := (StagingKept.upheld s).get (.refl sound) now key

end

/-- A streamed object is put together again by its reader. -/
theorem drainStream_streamObject {μ : Type} (duplicate emptyChunk : Status) (description : μ)
    (data : Bytes) :
    drainStream duplicate emptyChunk none [] (streamObject description data) =
      .ok (some description, data) := by
  have pieces := drainStream_data duplicate emptyChunk (some description) []
    (chunks streamChunkSize data)
  rw [flatten_chunks (by decide), List.nil_append] at pieces
  simpa [streamObject, drainStream] using pieces

/-- What the stream of a staged object says of it. -/
def CacheXattrs.staged (xattrs : CacheXattrs) : StagingObjectMeta :=
  ⟨xattrs.bucket, xattrs.key, xattrs.versionId, xattrs.size, xattrs.checksum, xattrs.contentType,
    xattrs.etag, some (timestampFromUnix xattrs.cachedAt)⟩

/-- A staged object is served with its attributes and data. -/
theorem getStaging_served (xattrs : CacheXattrs) (data : Bytes) (key : CacheKey)
    (served : s.view .staging key = some (xattrs, data)) :
    s.getStaging key = .ok (streamObject xattrs.staged data) := by
  obtain ⟨entry, found, rfl, read⟩ := findEntry_of_view served
  simp [CacheState.getStaging, found, buildStagingStream, read, CacheXattrs.staged]

/-- What the stream of a restored object says of it. -/
def CacheXattrs.cached (xattrs : CacheXattrs) : CachedObjectMeta :=
  ⟨xattrs.size, some (timestampFromUnix xattrs.expireAt), xattrs.contentType, xattrs.etag,
    xattrs.checksum⟩

/-- The attributes of an object with an access noted. -/
def CacheXattrs.accessed (now : Int) (xattrs : CacheXattrs) : CacheXattrs :=
  { xattrs with lastAccessAt := now, accessCount := xattrs.accessCount + 1 }

/-- A restored object that has not expired is served, and nothing changes but its attributes. -/
theorem get_served (sound : s.Sound) {key : CacheKey} {xattrs : CacheXattrs} {data : Bytes}
    (served : s.view .restored key = some (xattrs, data)) {now : Int}
    (alive : isExpiredAt xattrs.expireAt now = false) :
    ∃ after, CacheState.get now s key = (.ok (streamObject xattrs.cached data), after) ∧
      after.Sound ∧
      ∀ place, after.view .restored place =
        if place = key then some (xattrs.accessed now, data) else s.view .restored place := by
  obtain ⟨entry, found, rfl, read⟩ := findEntry_of_view served
  have kept := (get_keepsStaging sound now key).sound
  simp only [CacheState.get, readRestored, found, alive, Bool.false_eq_true, if_false,
    buildGetStream, read] at kept ⊢
  refine ⟨_, rfl, kept, fun place => ?_⟩
  simp only [CacheState.view, CacheState.findEntry, CacheIndex.entries_updateHitState,
    CacheIndex.get_touchEntry, true_and]
  split
  · -- The entry keeps its file.
    rw [CacheState.findEntry] at found
    simp only [CacheState.view, CacheState.findEntry, found, Option.bind_some] at served
    obtain ⟨file, stored, same⟩ := Option.map_eq_some_iff.mp served
    cases same
    simp only [found, Option.map_some, Option.bind_some, CacheIndex.touched, stored]
    rfl
  · rfl

/-- Every listed line is that of a staged object. -/
theorem mem_listStagingKeys {limit : Nat} {after : Option String} {line : StagingKeyEntry}
    (listed : line ∈ (s.listStagingKeys limit after).entries) :
    ∃ key entry, s.index.staging.get key = some entry ∧ line = stagingKeyEntry key entry := by
  simp only [listStagingKeys, List.mem_map] at listed
  obtain ⟨⟨key, entry⟩, taken, rfl⟩ := listed
  have sorted := (List.mem_insertionSort _).mp (List.mem_of_mem_take taken)
  exact ⟨key, entry, (HashMap.mem_entries _ _ _).mp (List.mem_filter.mp sorted).1, rfl⟩

/-- A listing whose limit is not reached has a line for everything that is staged. -/
theorem mem_listStagingKeys_of_few {limit : Nat}
    (few : s.index.staging.len ≤ if limit = 0 then u64Max else limit) {key : CacheKey}
    {entry : StoredEntry} (stored : s.index.staging.get key = some entry) :
    stagingKeyEntry key entry ∈ (s.listStagingKeys limit none).entries := by
  have behind : "" < key.asCursor := by
    have present : key.asCursor.toList ≠ [] := by simp [CacheKey.asCursor]
    obtain ⟨first, rest, cursor⟩ := List.exists_cons_of_ne_nil present
    rw [String.lt_iff_toList_lt, cursor]
    exact List.nil_lt_cons first rest
  have listed : (key, entry) ∈ (s.index.staging.entries.filter fun entry =>
      "" < entry.1.asCursor).insertionSort fun left right => left.1.asCursor ≤ right.1.asCursor :=
    (List.mem_insertionSort _).mpr (List.mem_filter.mpr
      ⟨(HashMap.mem_entries _ _ _).mpr stored, by simpa using behind⟩)
  refine List.mem_map.mpr ⟨(key, entry), ?_, rfl⟩
  -- Nothing is behind the limit.
  rw [List.take_of_length_le]
  · exact listed
  · rw [List.length_insertionSort]
    exact (List.length_filter_le _ _).trans few

/-- A listing has no more lines than there are staged objects. -/
theorem listStagingKeys_length_le (limit : Nat) (after : Option String) :
    (s.listStagingKeys limit after).entries.length ≤ s.index.staging.len := by
  simp only [listStagingKeys, List.length_map, List.length_take, List.length_insertionSort]
  exact (Nat.min_le_right _ _).trans (List.length_filter_le _ _)

/-- What a line of a listing is about. -/
def StagingKeyEntry.cacheKey (line : StagingKeyEntry) : CacheKey :=
  ⟨line.bucket, line.key, line.versionId⟩

/-- No object is listed twice. -/
theorem listStagingKeys_nodup (limit : Nat) (after : Option String) :
    ((s.listStagingKeys limit after).entries.map StagingKeyEntry.cacheKey).Nodup := by
  have line : StagingKeyEntry.cacheKey ∘ (fun entry : CacheKey × StoredEntry =>
      stagingKeyEntry entry.1 entry.2) = Prod.fst := rfl
  simp only [listStagingKeys, List.map_map, line]
  -- A part of a sorted part of the staged entries, which have distinct keys.
  refine List.Nodup.sublist ((List.take_sublist _ _).map Prod.fst) ?_
  refine (((List.perm_insertionSort _ _).map Prod.fst).nodup_iff).mpr ?_
  exact s.index.staging.nodup.sublist (List.filter_sublist.map Prod.fst)

end ColdStore
